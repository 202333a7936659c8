import Galley.Json.Numeral
import Galley.Text.Percent
import Galley.Text.Scan

/-!
# Reading JSON

The grammar of JSON, without extensions. Strings hold Unicode text, so a lone surrogate is
refused, and arrays and objects may be nested at most 127 deep. Every reader returns what it read
and the rest of the text; nothing else is said about a text that is no JSON.
-/

namespace Galley.Json

open Galley.Text

/-- The blanks between tokens. -/
def isGap (c : Char) : Bool :=
  c = ' ' || c = '\t' || c = '\n' || c = '\r'

/-- `cs` from its next token on. -/
def skipGap (cs : List Char) : List Char :=
  cs.dropWhile isGap

/-! ## 1. Strings -/

/-- Four hexadecimal digits. -/
def readUnit? : List Char → Option (Nat × List Char)
  | a :: b :: c :: d :: cs => do
    let a ← hexValue? a
    let b ← hexValue? b
    let c ← hexValue? c
    let d ← hexValue? d
    some (((a * 16 + b) * 16 + c) * 16 + d, cs)
  | _ => none

/-- What stands behind the `u` of an escape: one code unit, or two that form one character. -/
def readEscapedChar? (cs : List Char) : Option (Char × List Char) := do
  let (n, cs) ← readUnit? cs
  if 0xD800 ≤ n && n < 0xDC00 then
    let cs ← after? ['\\', 'u'] cs
    let (m, cs) ← readUnit? cs
    if 0xDC00 ≤ m && m < 0xE000 then
      some (Char.ofNat (0x10000 + (n - 0xD800) * 0x400 + (m - 0xDC00)), cs)
    else none
  else if 0xDC00 ≤ n && n < 0xE000 then none
  else some (Char.ofNat n, cs)

/-- What stands behind a backslash. -/
def readEscape? : List Char → Option (Char × List Char)
  | '"' :: cs => some ('"', cs)
  | '\\' :: cs => some ('\\', cs)
  | '/' :: cs => some ('/', cs)
  | 'b' :: cs => some ('\x08', cs)
  | 'f' :: cs => some ('\x0c', cs)
  | 'n' :: cs => some ('\n', cs)
  | 'r' :: cs => some ('\r', cs)
  | 't' :: cs => some ('\t', cs)
  | 'u' :: cs => readEscapedChar? cs
  | _ => none

/-- The characters of a string up to its closing quote, with `done` read before them, the last
    one first. -/
def readChars? : (fuel : Nat) → (done : List Char) → List Char → Option (String × List Char)
  | 0, _, _ => none
  | _, _, [] => none
  | fuel + 1, done, c :: cs =>
    if c = '"' then some (String.ofList done.reverse, cs)
    else if c = '\\' then do
      let (e, cs) ← readEscape? cs
      readChars? fuel (e :: done) cs
    else if c.toNat < 0x20 then none
    else readChars? fuel (c :: done) cs

/-- A string, from its opening quote on. -/
def readString? (fuel : Nat) : List Char → Option (String × List Char)
  | '"' :: cs => readChars? fuel [] cs
  | _ => none

/-! ## 2. Numerals -/

/-- The digits that `cs` begins with. -/
def readDigits (cs : List Char) : List Nat × List Char :=
  ((cs.takeWhile Char.isDigit).map fun c => c.toNat - '0'.toNat, cs.dropWhile Char.isDigit)

/-- One digit or more. -/
def readDigits1? (cs : List Char) : Option (List Nat × List Char) :=
  match readDigits cs with
  | ([], _) => none
  | (ds, cs) => some (ds, cs)

/-- The digits behind a point, if there is a point. -/
def readFraction? : List Char → Option (Option (List Nat) × List Char)
  | '.' :: cs => (readDigits1? cs).map fun p => (some p.1, p.2)
  | cs => some (none, cs)

/-- The exponent, if there is one. -/
def readExponent? : List Char → Option (Option (Bool × List Nat) × List Char)
  | c :: cs =>
    if c = 'e' || c = 'E' then
      match cs with
      | '+' :: cs => (readDigits1? cs).map fun p => (some (false, p.1), p.2)
      | '-' :: cs => (readDigits1? cs).map fun p => (some (true, p.1), p.2)
      | cs => (readDigits1? cs).map fun p => (some (false, p.1), p.2)
    else some (none, c :: cs)
  | [] => some (none, [])

/-- A numeral: a lone zero or digits that begin with none, a fraction and an exponent. -/
def readNumeral? (cs : List Char) : Option (Numeral × List Char) := do
  let (negative, cs) := match cs with
    | '-' :: cs => (true, cs)
    | cs => (false, cs)
  let (whole, cs) ← readDigits1? cs
  guard (whole.head? ≠ some 0 || whole.length = 1)
  let (fraction, cs) ← readFraction? cs
  let (exponent, cs) ← readExponent? cs
  some (⟨negative, whole, fraction, exponent⟩, cs)

/-! ## 3. Values -/

mutual

/-- A value, with at most `depth` levels of arrays and objects. -/
def readValue? : (fuel depth : Nat) → List Char → Option (Json × List Char)
  | 0, _, _ => none
  | fuel + 1, depth, cs =>
    match skipGap cs with
    | [] => none
    | '"' :: cs => (readString? fuel ('"' :: cs)).map fun p => (.string p.1, p.2)
    | '[' :: cs => if depth = 0 then none else readItems? fuel (depth - 1) true [] cs
    | '\x7b' :: cs => if depth = 0 then none else readFields? fuel (depth - 1) true [] cs
    | cs =>
      match after? "null".toList cs, after? "true".toList cs, after? "false".toList cs with
      | some cs, _, _ => some (.null, cs)
      | _, some cs, _ => some (.bool true, cs)
      | _, _, some cs => some (.bool false, cs)
      | _, _, _ => do
        let (t, cs) ← readNumeral? cs
        let n ← t.value?
        some (.number n, cs)

/-- The items of an array up to its closing bracket, behind the items `done`. An item comes next
    when `first` holds, else a comma before it. -/
def readItems? : (fuel depth : Nat) → (first : Bool) → (done : List Json) → List Char →
    Option (Json × List Char)
  | 0, _, _, _, _ => none
  | fuel + 1, depth, first, done, cs =>
    match skipGap cs with
    | ']' :: cs => some (.array done.reverse, cs)
    | ',' :: cs =>
      if first then none
      else do
        let (v, cs) ← readValue? fuel depth cs
        readItems? fuel depth false (v :: done) cs
    | cs =>
      if first then do
        let (v, cs) ← readValue? fuel depth cs
        readItems? fuel depth false (v :: done) cs
      else none

/-- The fields of an object up to its closing brace, behind the fields `done`. -/
def readFields? : (fuel depth : Nat) → (first : Bool) → (done : List (String × Json)) →
    List Char → Option (Json × List Char)
  | 0, _, _, _, _ => none
  | fuel + 1, depth, first, done, cs =>
    match skipGap cs with
    | '\x7d' :: cs => some (.object done.reverse, cs)
    | ',' :: cs =>
      if first then none
      else do
        let (key, cs) ← readString? fuel (skipGap cs)
        let cs ← after? [':'] (skipGap cs)
        let (v, cs) ← readValue? fuel depth cs
        readFields? fuel depth false ((key, v) :: done) cs
    | cs =>
      if first then do
        let (key, cs) ← readString? fuel cs
        let cs ← after? [':'] (skipGap cs)
        let (v, cs) ← readValue? fuel depth cs
        readFields? fuel depth false ((key, v) :: done) cs
      else none

end

/-- How deep arrays and objects may be nested. -/
def maxDepth : Nat := 127

/-- The value that a whole text spells, with at most `depth` levels of arrays and objects. -/
def parseWithin? (depth : Nat) (s : String) : Option Json :=
  let cs := s.toList
  match readValue? (2 * cs.length + 2) depth cs with
  | some (v, rest) => if (skipGap rest).isEmpty then some v else none
  | none => none

/-- The value that a whole text spells. -/
def parse? (s : String) : Option Json :=
  parseWithin? maxDepth s

/-- The value that bytes spell in UTF-8. -/
def parseBytes? (bytes : ByteArray) : Option Json :=
  (String.fromUTF8? bytes).bind parse?

end Galley.Json
