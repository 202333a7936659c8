import Galley.Html.Entity

/-!
# Character references

Behind an ampersand, a name or a number stands for characters. What is no reference stays as it is
written. In the value of an attribute a name without a semicolon is no reference when more of a
word, or an equals sign, follows it.
-/

namespace Galley.Html

open Galley.Text

/-- What the numbers from 0x80 to 0x9F stand for. -/
def highControls : List Nat := [
  0x20AC, 0x81, 0x201A, 0x192, 0x201E, 0x2026, 0x2020, 0x2021, 0x2C6, 0x2030, 0x160, 0x2039, 0x152,
  0x8D, 0x17D, 0x8F, 0x90, 0x2018, 0x2019, 0x201C, 0x201D, 0x2022, 0x2013, 0x2014, 0x2DC, 0x2122,
  0x161, 0x203A, 0x153, 0x9D, 0x17E, 0x178]

/-- The mark for what is no character. -/
def replacement : Char := '\ufffd'

/-- The character that a number stands for. -/
def numberedChar (n : Nat) : Char :=
  if n = 0 || !n.isValidChar then replacement
  else if 0x80 ≤ n && n ≤ 0x9F then Char.ofNat ((highControls[n - 0x80]?).getD n)
  else Char.ofNat n

/-- A number in the given base, from its first digit on, and what follows it and its semicolon. -/
def readNumbered? (base : Nat) (cs : List Char) : Option (List Char × List Char) :=
  let isDigit := fun c => (hexValue? c).any fun d => d < base
  let digits := cs.takeWhile isDigit
  let rest := cs.dropWhile isDigit
  if digits.isEmpty then none
  else
    let n := digits.foldl (fun n c => base * n + (hexValue? c).getD 0) 0
    some ([numberedChar n], if rest.head? = some ';' then rest.drop 1 else rest)

/-- The longest name without a semicolon that `run` begins with, of at most `size` characters, and
    its size. -/
def bareName? (run : List Char) : (size : Nat) → Option (List Char × Nat)
  | 0 => none
  | size + 1 =>
    let name := run.take (size + 1)
    if bareNames.contains name then (charsNamed? name).map (·, size + 1) else bareName? run size

/-- A name, and what follows it. -/
def readNamed? (inAttribute : Bool) (cs : List Char) : Option (List Char × List Char) :=
  let run := cs.takeWhile Char.isAlphanum
  let rest := cs.dropWhile Char.isAlphanum
  match if rest.head? = some ';' then charsNamed? run else none with
  | some chars => some (chars, rest.drop 1)
  | none =>
    match bareName? run run.length with
    | some (chars, size) =>
      let rest := cs.drop size
      let goesOn := rest.head?.any fun c => c = '=' || c.isAlphanum
      if inAttribute && goesOn then none else some (chars, rest)
    | none => none

/-- The characters of the reference that stands behind an ampersand, and what follows. -/
def readReference? (inAttribute : Bool) : List Char → Option (List Char × List Char)
  | [] => none
  | c :: cs =>
    if c = '#' then
      match cs with
      | [] => none
      | d :: ds => if d = 'x' || d = 'X' then readNumbered? 16 ds else readNumbered? 10 (d :: ds)
    else readNamed? inAttribute (c :: cs)

/-- The value of an attribute with its references resolved. -/
def attributeValue : (fuel : Nat) → List Char → List Char
  | 0, cs => cs
  | _, [] => []
  | fuel + 1, c :: cs =>
    if c = '&' then
      match readReference? true cs with
      | some (chars, rest) => chars ++ attributeValue fuel rest
      | none => c :: attributeValue fuel cs
    else if c = '\x00' then replacement :: attributeValue fuel cs
    else c :: attributeValue fuel cs

end Galley.Html
