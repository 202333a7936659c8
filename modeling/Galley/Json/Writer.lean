import Galley.Json.Value
import Galley.Decimal.Shortest

/-!
# Writing JSON

Two layouts: compact, without blanks, and spread over lines, two spaces a level, where empty
arrays and objects stay on one line. Quotes, backslashes and control characters are escaped and
nothing else is.
-/

namespace Galley.Json

open Galley.Decimal

/-! ## 1. Scalars -/

/-- `n` as two hexadecimal digits. -/
def hexPair (n : Nat) : List Char :=
  if n < 16 then '0' :: Nat.toDigits 16 n else Nat.toDigits 16 n

/-- One character as it stands in a string. -/
def escapedChar (c : Char) : List Char :=
  if c = '"' then ['\\', '"']
  else if c = '\\' then ['\\', '\\']
  else if c = '\n' then ['\\', 'n']
  else if c = '\r' then ['\\', 'r']
  else if c = '\t' then ['\\', 't']
  else if c = '\x08' then ['\\', 'b']
  else if c = '\x0c' then ['\\', 'f']
  else if c.toNat < 0x20 then ['\\', 'u', '0', '0'] ++ hexPair c.toNat
  else [c]

/-- A string between its quotes. -/
def stringChars (s : String) : List Char :=
  '"' :: s.toList.flatMap escapedChar ++ ['"']

/-- An integer. -/
def intChars (n : Int) : List Char :=
  if n < 0 then '-' :: digitChars n.natAbs else digitChars n.natAbs

/-- A number. A double without a value is written as null. -/
def numberChars : Number → List Char
  | .int n => intChars n
  | .float bits => (floatChars? bits).getD "null".toList

/-! ## 2. Compact -/

mutual

/-- A value without blanks. -/
def compactChars : Json → List Char
  | .null => "null".toList
  | .bool true => "true".toList
  | .bool false => "false".toList
  | .number n => numberChars n
  | .string s => stringChars s
  | .array items => '[' :: compactItems items ++ [']']
  | .object fields => '\x7b' :: compactFields fields ++ ['\x7d']

/-- Items with commas between them. -/
def compactItems : List Json → List Char
  | [] => []
  | [v] => compactChars v
  | v :: vs => compactChars v ++ ',' :: compactItems vs

/-- Fields with commas between them. -/
def compactFields : List (String × Json) → List Char
  | [] => []
  | [(k, v)] => stringChars k ++ ':' :: compactChars v
  | (k, v) :: fields => stringChars k ++ ':' :: compactChars v ++ ',' :: compactFields fields

end

/-- A value on one line. -/
def compact (v : Json) : String :=
  String.ofList (compactChars v)

/-! ## 3. Spread over lines -/

/-- A line feed and the blanks of `depth` levels. -/
def newLine (depth : Nat) : List Char :=
  '\n' :: List.replicate (2 * depth) ' '

mutual

/-- A value that begins at `depth`. -/
def spreadChars (depth : Nat) : Json → List Char
  | .array [] => ['[', ']']
  | .array (v :: vs) => '[' :: spreadItems (depth + 1) (v :: vs) ++ newLine depth ++ [']']
  | .object [] => ['\x7b', '\x7d']
  | .object (f :: fs) => '\x7b' :: spreadFields (depth + 1) (f :: fs) ++ newLine depth ++ ['\x7d']
  | .null => "null".toList
  | .bool true => "true".toList
  | .bool false => "false".toList
  | .number n => numberChars n
  | .string s => stringChars s

/-- Items, each on a line of its own. -/
def spreadItems (depth : Nat) : List Json → List Char
  | [] => []
  | [v] => newLine depth ++ spreadChars depth v
  | v :: vs => newLine depth ++ spreadChars depth v ++ ',' :: spreadItems depth vs

/-- Fields, each on a line of its own. -/
def spreadFields (depth : Nat) : List (String × Json) → List Char
  | [] => []
  | [(k, v)] => newLine depth ++ stringChars k ++ [':', ' '] ++ spreadChars depth v
  | (k, v) :: fields =>
    newLine depth ++ stringChars k ++ [':', ' '] ++ spreadChars depth v ++
      ',' :: spreadFields depth fields

end

/-- A value over several lines. -/
def pretty (v : Json) : String :=
  String.ofList (spreadChars 0 v)

end Galley.Json
