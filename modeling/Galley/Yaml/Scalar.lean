import Galley.Text.Percent
import Galley.Yaml.Glyph

/-!
# Plain and quoted scalars

Line breaks inside a scalar are folded: one break is a space, and of more breaks the first is
lost. Only line feeds are folded; other breaks stay.
-/

namespace Galley.Yaml

open Galley.Text

/-! ## 1. Folding -/

/-- What a run of blanks and breaks becomes inside a scalar. Blanks stay only within a line. -/
def folded (run : List Glyph) : List Char :=
  match (run.map Glyph.char).filter isBreak with
  | [] => run.map Glyph.char
  | b :: more => if b != '\n' then b :: more else if more.isEmpty then [' '] else more

/-- The run of blanks and breaks that comes next, and what follows. -/
def readGap (gs : List Glyph) : List Glyph × List Glyph :=
  (gs.takeWhile fun g => isGap g.char, gs.dropWhile fun g => isGap g.char)

/-! ## 2. Quoted scalars -/

/-- The escapes of one character. -/
def escapes : List (Char × Char) := [
  ('0', '\x00'), ('a', '\x07'), ('b', '\x08'), ('t', '\t'), ('\t', '\t'), ('n', '\n'),
  ('v', '\x0b'), ('f', '\x0c'), ('r', '\r'), ('e', '\x1b'), (' ', ' '), ('"', '"'), ('/', '/'),
  ('\\', '\\'), ('N', '\u0085'), ('_', '\u00a0'), ('L', '\u2028'), ('P', '\u2029')]

/-- The character with the code that `size` hexadecimal digits spell, and what follows. -/
def readCode? (size : Nat) (gs : List Glyph) : Option (Char × List Glyph) := do
  let digits ← (gs.take size).mapM fun g => hexValue? g.char
  let code := digits.foldl (fun n d => n * 16 + d) 0
  if digits.length = size && code.isValidChar then some (Char.ofNat code, gs.drop size) else none

/-- The character that an escape stands for which goes on behind its backslash, and what
    follows. -/
def readEscape? : List Glyph → Option (Char × List Glyph)
  | [] => none
  | g :: gs =>
    if g.char = 'x' then readCode? 2 gs
    else if g.char = 'u' then readCode? 4 gs
    else if g.char = 'U' then readCode? 8 gs
    else (escapes.lookup g.char).map (·, gs)

/-- The text of a scalar up to the quote that ends it, and what follows. Between single quotes, a
    quote is written twice; between double quotes, there are escapes, and a backslash at the end of
    a line takes the break away. No mark between documents may stand inside. -/
def quoted? (quote : Char) : (fuel : Nat) → List Glyph → Option (List Char × List Glyph)
  | 0, _ => none
  | _, [] => none
  | fuel + 1, g :: gs =>
    if markAhead '-' (g :: gs) || markAhead '.' (g :: gs) then none
    else if isGap g.char then
      let (run, rest) := readGap (g :: gs)
      (quoted? quote fuel rest).map fun p => (folded run ++ p.1, p.2)
    else if g.char = quote then
      if quote = '\'' && ahead (· = quote) gs then
        (quoted? quote fuel gs.tail).map fun p => (quote :: p.1, p.2)
      else some ([], gs)
    else if quote = '"' && g.char = '\\' then
      if ahead isBreak gs then
        let (run, rest) := readGap gs.tail
        (quoted? quote fuel rest).map fun p =>
          ((run.map Glyph.char).filter isBreak ++ p.1, p.2)
      else do
        let (c, rest) ← readEscape? gs
        (quoted? quote fuel rest).map fun p => (c :: p.1, p.2)
    else (quoted? quote fuel gs).map fun p => (g.char :: p.1, p.2)

/-! ## 3. Plain scalars -/

/-- A plain scalar can begin with `c` when `rest` follows. -/
def plainStarts (inFlow : Bool) (c : Char) (rest : List Glyph) : Bool :=
  if c = '-' then !gapAhead rest
  else if c = '?' || c = ':' then !inFlow && !gapAhead rest
  else !(isGap c || isFlowMark c || "#&*!|>'\"%@\x60".toList.contains c)

/-- The characters up to a blank, a break, or a mark that ends a plain scalar, and what follows. In
    a flow collection, no colon may stand before a mark. -/
def plainWord? (inFlow : Bool) : List Glyph → Option (List Char × List Glyph)
  | [] => some ([], [])
  | g :: gs =>
    if isGap g.char then some ([], g :: gs)
    else if g.char = ':' && inFlow && ahead (fun c => isFlowMark c || c = '?') gs then none
    else if g.char = ':' && gapAhead gs then some ([], g :: gs)
    else if inFlow && isFlowMark g.char then some ([], g :: gs)
    else (plainWord? inFlow gs).map fun p => (g.char :: p.1, p.2)

/-- A plain scalar below a node that is indented by `indent` may go on here. -/
def plainGoesOn (inFlow : Bool) (indent : Int) (gs : List Glyph) : Bool :=
  gs.head?.any (fun g => inFlow || indent < g.column) && !ahead (· = '#') gs
    && !markAhead '-' gs && !markAhead '.' gs

/-- A run of blanks and breaks indents a line with a tab. -/
def tabsIndent (indent : Int) (run : List Glyph) : Bool :=
  run.any fun g =>
    g.char = '\t' && run.head?.any (fun first => first.line < g.line) && (g.column : Int) ≤ indent

/-- The text of the plain scalar that comes next, below a node that is indented by `indent`;
    whether a break ends it; and what follows. -/
def plain? (inFlow : Bool) (indent : Int) :
    (fuel : Nat) → List Glyph → Option (List Char × Bool × List Glyph)
  | 0, _ => none
  | fuel + 1, gs => do
    let (word, rest) ← plainWord? inFlow gs
    let (run, after) := readGap rest
    let broken := run.any fun g => isBreak g.char
    if tabsIndent indent run then none
    else if run.isEmpty || !plainGoesOn inFlow indent after then some (word, broken, after)
    else
      let (text, ends, rest) ← plain? inFlow indent fuel after
      -- A mark that ends the scalar may come right behind the run.
      if text.isEmpty then some (word, broken, rest)
      else some (word ++ folded run ++ text, ends, rest)

end Galley.Yaml
