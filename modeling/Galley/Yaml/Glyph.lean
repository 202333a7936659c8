import Galley.Text.Blank

/-!
# Characters with their places

Columns tell which collection a line belongs to, and a key ends in the line where it begins. So a
text is read as a list of characters that know where they stand.
-/

namespace Galley.Yaml

open Galley.Text

/-- A character and the place where it stands. -/
structure Glyph where
  char : Char
  line : Nat
  /-- How many characters stand before it in its line. -/
  column : Nat
  deriving DecidableEq, Repr, Inhabited

/-! ## 1. Classes of characters -/

/-- A character that may stand in a text. -/
def isAllowed (c : Char) : Bool :=
  let n := c.toNat
  c = '\t' || c = '\n' || c = '\r' || (0x20 ≤ n && n ≤ 0x7E) || n = 0x85
    || (0xA0 ≤ n && n ≤ 0xFFFD) || 0x10000 ≤ n

/-- A line break, once line feeds stand for all the breaks that are folded. -/
def isBreak (c : Char) : Bool := c = '\n' || c = '\u2028' || c = '\u2029'

/-- A blank within a line. -/
def isSpace (c : Char) : Bool := c = ' ' || c = '\t'

/-- A blank or a break. -/
def isGap (c : Char) : Bool := isSpace c || isBreak c

/-- A character of a name. -/
def isNameChar (c : Char) : Bool := c.isAlphanum || c = '_' || c = '-'

/-- A character that divides a flow collection. -/
def isFlowMark (c : Char) : Bool :=
  c = ',' || c = '[' || c = ']' || c = '\x7b' || c = '\x7d'

/-! ## 2. Places -/

/-- The characters of a text, the first of which stands at `column` of `line`. -/
def locate (line column : Nat) : List Char → List Glyph
  | [] => []
  | c :: cs =>
    ⟨c, line, column⟩ ::
      if isBreak c then locate (line + 1) 0 cs else locate line (column + 1) cs

/-- The characters of a text; nothing when one of them may not stand there. A return, with or
    without a line feed behind it, and the character U+0085 are line feeds. -/
def glyphs? (s : String) : Option (List Glyph) :=
  if s.toList.all isAllowed then
    some (locate 0 0 ((unifyBreaks s.toList).map fun c => if c = '\u0085' then '\n' else c))
  else none

/-! ## 3. Looking ahead -/

/-- A character that satisfies `p` comes next. -/
def ahead (p : Char → Bool) : List Glyph → Bool
  | [] => false
  | g :: _ => p g.char

/-- A blank, a break, or the end comes next. -/
def gapAhead : List Glyph → Bool
  | [] => true
  | g :: _ => isGap g.char

/-- A break or the end comes next. -/
def lineEnds : List Glyph → Bool
  | [] => true
  | g :: _ => isBreak g.char

/-- The mark between documents that `c` makes comes next: three times `c` at the beginning of a
    line. -/
def markAhead (c : Char) (gs : List Glyph) : Bool :=
  gs.head?.any (fun g => g.column = 0) && (gs.take 3).map Glyph.char = [c, c, c]
    && gapAhead (gs.drop 3)

/-- The text that comes next of characters that satisfy `p`, and what follows. -/
def readWhile (p : Char → Bool) (gs : List Glyph) : List Char × List Glyph :=
  ((gs.takeWhile fun g => p g.char).map Glyph.char, gs.dropWhile fun g => p g.char)

/-- What follows a comment that comes next. -/
def skipComment (gs : List Glyph) : List Glyph :=
  if ahead (· = '#') gs then gs.dropWhile fun g => !isBreak g.char else gs

/-- What follows the rest of a line, which may hold nothing but blanks and a comment. -/
def endLine? (gs : List Glyph) : Option (List Glyph) :=
  let rest := skipComment (readWhile isSpace gs).2
  if lineEnds rest then some rest.tail else none

end Galley.Yaml
