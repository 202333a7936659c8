import Galley.Yaml.Glyph

/-!
# Block scalars

A block scalar is a header, and below it the lines that are indented as far as the first of them.
Its breaks are kept or folded; what happens to the breaks at its end is said in the header.
-/

namespace Galley.Yaml

/-! ## 1. Headers -/

/-- What is done with the breaks at the end of a block. -/
inductive Chomping where
  | strip
  | clip
  | keep
  deriving DecidableEq, Repr

/-- The chomping that comes next, and what follows. -/
def chomping? : List Glyph → Option (Chomping × List Glyph)
  | [] => none
  | g :: gs =>
    if g.char = '+' then some (.keep, gs)
    else if g.char = '-' then some (.strip, gs)
    else none

/-- The step of indentation that comes next, and what follows. -/
def indentStep? : List Glyph → Option (Nat × List Glyph)
  | [] => none
  | g :: gs => if g.char.isDigit then some (g.char.toNat - '0'.toNat, gs) else none

/-- The chomping, the step of indentation, and the text below the header that comes next. The two
    may stand in either order, and each may be left out. -/
def blockHeader? (gs : List Glyph) : Option (Chomping × Option Nat × List Glyph) :=
  let (chomping, gs) := ((chomping? gs).map fun p => (some p.1, p.2)).getD (none, gs)
  let (step, gs) := ((indentStep? gs).map fun p => (some p.1, p.2)).getD (none, gs)
  let (chomping, gs) := match chomping, step, chomping? gs with
    | none, some _, some (last, rest) => (last, rest)
    | _, _, _ => (chomping.getD .clip, gs)
  if step = some 0 then none else (endLine? gs).map (chomping, step, ·)

/-! ## 2. Lines -/

/-- A line of a block with more than blanks before `width`. -/
structure BlockLine where
  text : List Char
  /-- The break that ends the line, unless the text ends with it. -/
  ending : List Char
  /-- The breaks of the empty lines behind it. -/
  empty : List Char

/-- The breaks of the empty lines that come next, how far the widest of them goes that `widest`
    does not, and what follows. A line is empty when it holds spaces alone, or spaces before
    `width`; among those may be no tab. -/
def emptyLines? (width : Option Nat) :
    (widest : Nat) → List Glyph → Option (List Char × Nat × List Glyph)
  | widest, [] => some ([], widest, [])
  | widest, g :: gs =>
    let margin := width.all (g.column < ·)
    if margin && g.char = ' ' then emptyLines? width (max widest (g.column + 1)) gs
    else if margin && g.char = '\t' then none
    else if isBreak g.char then
      (emptyLines? width widest gs).map fun p => (g.char :: p.1, p.2)
    else some ([], widest, g :: gs)

/-- At most `fuel` lines whose text begins at column `width`, and what follows. -/
def blockLines? (width : Nat) : (fuel : Nat) → List Glyph → Option (List BlockLine × List Glyph)
  | 0, gs => some ([], gs)
  | fuel + 1, gs =>
    if gs.head?.any fun g => g.column = width then do
      let (text, behind) := readWhile (fun c => !isBreak c) gs
      let (empty, _, after) ← emptyLines? (some width) 0 behind.tail
      let (lines, rest) ← blockLines? width fuel after
      some (⟨text, (behind.take 1).map Glyph.char, empty⟩ :: lines, rest)
    else some ([], gs)

/-! ## 3. Text -/

/-- The line begins with a blank. -/
def BlockLine.isIndented (line : BlockLine) : Bool := line.text.head?.any isSpace

/-- What stands between two lines. A folded break is a space, or nothing before empty lines; the
    breaks around an indented line are kept. -/
def BlockLine.gap (fold : Bool) (line next : BlockLine) : List Char :=
  if fold && line.ending = ['\n'] && !line.isIndented && !next.isIndented then
    if line.empty.isEmpty then [' '] else line.empty
  else line.ending ++ line.empty

/-- The text of lines. -/
def blockText (fold : Bool) (chomping : Chomping) : List BlockLine → List Char
  | [] => []
  | [line] =>
    line.text ++ match chomping with
      | .strip => []
      | .clip => line.ending
      | .keep => line.ending ++ line.empty
  | line :: next :: lines =>
    line.text ++ line.gap fold next ++ blockText fold chomping (next :: lines)

/-- The text of the block scalar that goes on behind its mark, below a node that is indented by
    `indent`, and what follows. -/
def blockScalar? (fold : Bool) (indent : Int) (gs : List Glyph) :
    Option (List Char × List Glyph) := do
  let (chomping, step, gs) ← blockHeader? gs
  let given := step.map (indent.toNat + ·)
  let (empty, widest, gs) ← emptyLines? given 0 gs
  let width := given.getD (max widest (max (indent + 1).toNat 1))
  let (lines, rest) ← blockLines? width gs.length gs
  let front := if lines.isEmpty && chomping != .keep then [] else empty
  some (front ++ blockText fold chomping lines, rest)

end Galley.Yaml
