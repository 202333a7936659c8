import Galley.Text.Percent
import Galley.Yaml.Glyph
import Galley.Yaml.Token

/-!
# Properties and directives

A node may have a name and a tag. A tag is written whole, between angle brackets, or as a handle
with an ending; a directive in front of a document says what a handle stands for. The text of a
tag is kept as the bytes that it stands for, one character a byte, up to a zero.
-/

namespace Galley.Yaml

open Galley.Text

/-! ## 1. Names -/

/-- A name, with which an anchor or an alias goes on, and what follows. -/
def name? (gs : List Glyph) : Option (String × List Glyph) :=
  let (name, rest) := readWhile isNameChar gs
  let ends := gapAhead rest || ahead (fun c => "?:,]\x7d%@\x60".toList.contains c) rest
  if !name.isEmpty && ends then some (String.ofList name, rest) else none

/-! ## 2. Tags -/

/-- A character of a tag; `whole` says that the tag is written whole. -/
def isTagChar (whole : Bool) (c : Char) : Bool :=
  isNameChar c || ";/?:@&=+$.%!~*'()".toList.contains c || (whole && ",[]".toList.contains c)

/-- The byte that an escape stands for, and what follows. -/
def escapedByte? : List Glyph → Option (Nat × List Glyph)
  | p :: a :: b :: rest =>
    if p.char = '%' then do some (16 * (← hexValue? a.char) + (← hexValue? b.char), rest) else none
  | _ => none

/-- How many bytes follow one that begins a character. -/
def followers? (byte : Nat) : Option Nat :=
  if byte < 0x80 then some 0
  else if byte / 0x20 = 6 then some 1
  else if byte / 0x10 = 14 then some 2
  else if byte / 8 = 30 then some 3
  else none

/-- The next `count` escapes, which go on with a character. -/
def escapedRest? : (count : Nat) → List Glyph → Option (List Char × List Glyph)
  | 0, gs => some ([], gs)
  | count + 1, gs => do
    let (byte, rest) ← escapedByte? gs
    if byte / 0x40 = 2 then
      let (bytes, rest) ← escapedRest? count rest
      some (Char.ofNat byte :: bytes, rest)
    else none

/-- The bytes of an escaped character that comes next, and what follows. -/
def escaped? (gs : List Glyph) : Option (List Char × List Glyph) := do
  let (byte, rest) ← escapedByte? gs
  let (bytes, rest) ← escapedRest? (← followers? byte) rest
  some (Char.ofNat byte :: bytes, rest)

/-- The text of a tag that comes next, and what follows. It takes at most `fuel` characters. -/
def tagChars? (whole : Bool) : (fuel : Nat) → List Glyph → Option (List Char × List Glyph)
  | 0, gs => some ([], gs)
  | _, [] => some ([], [])
  | fuel + 1, g :: gs =>
    if g.char = '%' then do
      let (bytes, rest) ← escaped? (g :: gs)
      let (more, rest) ← tagChars? whole fuel rest
      some (bytes ++ more, rest)
    else if isTagChar whole g.char then
      (tagChars? whole fuel gs).map fun p => (g.char :: p.1, p.2)
    else some ([], g :: gs)

/-- The text of a tag that has to be there, and what follows. -/
def tagText? (whole : Bool) (gs : List Glyph) : Option (List Char × List Glyph) :=
  (tagChars? whole gs.length gs).filter fun p => !p.1.isEmpty

/-- The text up to a zero. -/
def upToZero (cs : List Char) : String :=
  String.ofList (cs.takeWhile fun c => c != '\x00')

/-- The tag that goes on behind its mark, and what follows. A tag without a handle of its own has
    the mark as its handle, and the mark alone is a tag written whole. -/
def tagFront? (gs : List Glyph) : Option (Token × List Glyph) :=
  let (name, rest) := readWhile isNameChar gs
  if ahead (· = '<') gs then do
    let (text, rest) ← tagText? true gs.tail
    if ahead (· = '>') rest then some (.tag "" (upToZero text), rest.tail) else none
  else if ahead (· = '!') rest then do
    let (text, rest) ← tagText? false rest.tail
    some (.tag (String.ofList ('!' :: name ++ ['!'])) (upToZero text), rest)
  else do
    let (text, rest) ← tagChars? false rest.length rest
    let ending := upToZero (name ++ text)
    some (if ending.isEmpty then .tag "" "!" else .tag "!" ending, rest)

/-- The tag that goes on behind its mark, and what follows: a gap, or a comma between items. -/
def tag? (inFlow : Bool) (gs : List Glyph) : Option (Token × List Glyph) :=
  (tagFront? gs).filter fun p => gapAhead p.2 || (inFlow && ahead (· = ',') p.2)

/-! ## 3. Directives -/

/-- A number of at most nine digits, and what follows. -/
def versionNumber? (gs : List Glyph) : Option (Nat × List Glyph) :=
  let (digits, rest) := readWhile Char.isDigit gs
  if digits.isEmpty || 9 < digits.length then none
  else some (digits.foldl (fun n d => n * 10 + (d.toNat - '0'.toNat)) 0, rest)

/-- The version that a directive names, and what follows. -/
def versionDirective? (gs : List Glyph) : Option (Token × List Glyph) := do
  let (major, rest) ← versionNumber? (readWhile isSpace gs).2
  if ahead (· = '.') rest then
    let (minor, rest) ← versionNumber? rest.tail
    some (.version major minor, rest)
  else none

/-- The handle of a directive and what it stands for, and what follows. -/
def handleDirective? (gs : List Glyph) : Option (Token × List Glyph) := do
  let gs := (readWhile isSpace gs).2
  if ahead (· = '!') gs then
    let (name, rest) := readWhile isNameChar gs.tail
    let closed := ahead (· = '!') rest
    let rest := if closed then rest.tail else rest
    if (closed || name.isEmpty) && ahead isSpace rest then
      let (meaning, rest) ← tagText? true (readWhile isSpace rest).2
      let handle := '!' :: name ++ (if closed then ['!'] else [])
      if gapAhead rest then some (.handle (String.ofList handle) (upToZero meaning), rest)
      else none
    else none
  else none

/-- The directive that goes on behind its mark, and what follows its line. -/
def directive? (gs : List Glyph) : Option (Token × List Glyph) := do
  let (name, rest) := readWhile isNameChar gs
  let (directive, rest) ←
    if !gapAhead rest then none
    else if name = "YAML".toList then versionDirective? rest
    else if name = "TAG".toList then handleDirective? rest
    else none
  some (directive, ← endLine? rest)

end Galley.Yaml
