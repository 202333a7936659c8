import Galley.Text.Scan

/-!
# Punycode

A label of a host name that holds characters past ASCII may be written with ASCII letters, digits
and hyphens alone: the ASCII characters come first, then, behind the last hyphen, numbers that
say which character goes in where. The numbers are written with digits to the base 36, each with
a threshold of its own that tells the last digit.
-/

namespace Galley.Web.Punycode

open Galley.Text

/-- The value of a digit to the base 36: letters first, then figures. -/
def digit? (c : Char) : Option Nat :=
  let n := c.toNat
  if c.isDigit then some (n - 0x30 + 26)
  else if c.isLower then some (n - 0x61)
  else if c.isUpper then some (n - 0x41)
  else none

/-- What has been read: the characters so far, the next place and the last code point, the bias
    of the thresholds, and the number begun with the weight and the threshold of its next digit. -/
structure State where
  chars : List Char
  place : Nat
  point : Nat
  bias : Nat
  begun : Nat
  weight : Nat
  step : Nat

/-- Nothing has been read but the characters of ASCII. -/
def State.start (chars : List Char) : State :=
  ⟨chars, 0, 0x80, 72, 0, 1, 36⟩

/-- The threshold of the next digit. -/
def State.threshold (s : State) : Nat :=
  min 26 (max 1 (s.step - s.bias))

/-- `delta` divided until it is in the range of one digit, and `times` with the base added for
    each division. -/
def spread (delta times : Nat) : Nat × Nat :=
  if 455 < delta then spread (delta / 35) (times + 36) else (delta, times)
termination_by delta
decreasing_by exact Nat.div_lt_self (by omega) (by omega)

/-- The bias after a number, for `length` characters. -/
def adaptedBias (number length : Nat) (first : Bool) : Nat :=
  let delta := if first then number / 700 else number / 2
  let (delta, times) := spread (delta + delta / length) 0
  times + 36 * delta / (delta + 38)

/-- The character of a code point, if there is one. -/
def char? (n : Nat) : Option Char :=
  if n.isValidChar then some (Char.ofNat n) else none

/-- One digit further. -/
def State.read? (s : State) (c : Char) : Option State := do
  let d ← digit? c
  let number := s.begun + d * s.weight
  if d < s.threshold then
    let length := s.chars.length + 1
    let position := s.place + number
    let point := s.point + position / length
    let place := position % length
    let char ← char? point
    some ⟨s.chars.take place ++ char :: s.chars.drop place, place + 1, point,
      adaptedBias number length (s.place = 0), 0, 1, 36⟩
  else
    some { s with begun := number, weight := s.weight * (36 - s.threshold), step := s.step + 36 }

/-- The label that is written by `cs`. -/
def decode? (cs : List Char) : Option (List Char) := do
  let (ascii, numbers) := match cutLast? ['-'] cs with
    | some ([], _) | none => ([], cs)
    | some (front, back) => (front, back)
  let s ← numbers.foldlM State.read? (State.start ascii)
  if s.step = 36 then some s.chars else none

end Galley.Web.Punycode
