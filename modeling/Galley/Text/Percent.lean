/-!
# Percent-encoding

A text as it stands inside one component of a web address: letters, digits and nine marks stay,
and every other byte of its UTF-8 form is written as a percent sign and two hexadecimal digits.
-/

namespace Galley.Text

/-- The bytes that stay as they are. -/
def isComponentByte (b : UInt8) : Bool :=
  let c := Char.ofNat b.toNat
  b < 0x80 && (c.isAlphanum || c = '-' || c = '_' || c = '.' || c = '!' || c = '~' || c = '*'
    || c = '\'' || c = '(' || c = ')')

/-- A hexadecimal digit, in capitals. -/
def hexDigit (n : Nat) : Char :=
  if n < 10 then Char.ofNat ('0'.toNat + n) else Char.ofNat ('A'.toNat + (n - 10))

/-- One byte, encoded. -/
def percentByte (b : UInt8) : List Char :=
  if isComponentByte b then [Char.ofNat b.toNat]
  else ['%', hexDigit (b.toNat / 16), hexDigit (b.toNat % 16)]

/-- A text as a component of a web address. -/
def percentEncode (s : String) : String :=
  String.ofList (s.toUTF8.toList.flatMap percentByte)

/-- The value of a hexadecimal digit. -/
def hexValue? (c : Char) : Option Nat :=
  if c.isDigit then some (c.toNat - '0'.toNat)
  else if 'a' ≤ c && c ≤ 'f' then some (c.toNat - 'a'.toNat + 10)
  else if 'A' ≤ c && c ≤ 'F' then some (c.toNat - 'A'.toNat + 10)
  else none

/-- The bytes that an encoded text stands for. A percent sign without two digits behind it stands
    for itself. -/
def percentBytes : List Char → List UInt8
  | [] => []
  | '%' :: a :: b :: cs =>
    match hexValue? a, hexValue? b with
    | some x, some y => UInt8.ofNat (16 * x + y) :: percentBytes cs
    | _, _ => '%'.toNat.toUInt8 :: percentBytes (a :: b :: cs)
  | c :: cs => (String.singleton c).toUTF8.toList ++ percentBytes cs
termination_by cs => cs.length

end Galley.Text
