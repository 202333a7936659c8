/-!
# The shortest decimal of a binary number

A finite double stands for an interval of real numbers, those that round to it. Of the decimals
in the interval, the one with the fewest digits is taken, and of those the nearest. All of it is
computed with natural numbers.
-/

namespace Galley

/-- `digits · 10^exponent`. -/
structure Decimal where
  digits : Nat
  exponent : Int
  deriving DecidableEq, Repr

namespace Decimal

/-- A positive double and the ends of its interval, as numerators over one denominator. The ends
    belong to the interval when `closed` holds. -/
structure Interval where
  low : Nat
  value : Nat
  high : Nat
  denominator : Nat
  closed : Bool
  deriving Repr

/-- The interval of the double with mantissa field `fraction` and exponent field `field`. -/
def Interval.ofFields (fraction field : Nat) : Interval :=
  let mantissa := if field = 0 then fraction else fraction + Nat.pow 2 52
  let power : Int := (if field = 0 then 1 else field) - 1075
  let up := Nat.pow 2 power.toNat
  let down := Nat.pow 2 (-power).toNat
  -- below a power of two the neighbour is half as far away
  let near := if fraction = 0 && 1 < field then 1 else 2
  ⟨(4 * mantissa - near) * up, 4 * mantissa * up, (4 * mantissa + 2) * up, 4 * down,
    mantissa % 2 = 0⟩

/-- `m · 10^exponent` compared with `n / denominator`, as a pair of natural numbers in the same
    order. -/
def scaled (m : Nat) (exponent : Int) (n denominator : Nat) : Nat × Nat :=
  (m * Nat.pow 10 exponent.toNat * denominator, n * Nat.pow 10 (-exponent).toNat)

/-- `m · 10^exponent` lies in the interval. -/
def Interval.holds (i : Interval) (m : Nat) (exponent : Int) : Bool :=
  let (x, low) := scaled m exponent i.low i.denominator
  let (_, high) := scaled m exponent i.high i.denominator
  if i.closed then low ≤ x && x ≤ high else low < x && x < high

/-- How far `m · 10^exponent` is from the value, in units that depend on `exponent` alone. -/
def Interval.distance (i : Interval) (m : Nat) (exponent : Int) : Nat :=
  let (x, value) := scaled m exponent i.value i.denominator
  if x ≤ value then value - x else x - value

/-- The number of decimal digits of `n`. -/
def digitCount (n : Nat) : Nat :=
  (Nat.toDigits 10 n).length

/-- The power of ten of the first digit of `n / d`, found by trying at most `fuel` powers below
    one. -/
def leadingBelowOne (n d : Nat) : (fuel : Nat) → Nat → Int
  | 0, tried => -tried
  | fuel + 1, tried =>
    if d ≤ n * Nat.pow 10 tried then -tried else leadingBelowOne n d fuel (tried + 1)

/-- The power of ten of the value's first digit. -/
def Interval.leading (i : Interval) : Int :=
  if i.denominator ≤ i.value then (digitCount (i.value / i.denominator) : Int) - 1
  else leadingBelowOne i.value i.denominator 400 1

/-- The better of the value's two neighbours on the grid of `10^exponent`, if one of them lies in
    the interval. -/
def Interval.onGrid (i : Interval) (exponent : Int) : Option Decimal :=
  let below :=
    i.value * Nat.pow 10 (-exponent).toNat / (i.denominator * Nat.pow 10 exponent.toNat)
  let above := below + 1
  let lower := i.holds below exponent && 0 < below
  let upper := i.holds above exponent
  if lower && (!upper || i.distance below exponent ≤ i.distance above exponent) then
    some ⟨below, exponent⟩
  else if upper then some ⟨above, exponent⟩
  else none

/-- The first grid with a hit, from one digit on, with at most `fuel` digits more. -/
def Interval.search (i : Interval) : (fuel : Nat) → (exponent : Int) → Decimal
  | 0, exponent => (i.onGrid exponent).getD ⟨0, 0⟩
  | fuel + 1, exponent =>
    match i.onGrid exponent with
    | some d => d
    | none => i.search fuel (exponent - 1)

/-- `d` without the zeros its digits end in, taking off at most `fuel` of them. -/
def strip : (fuel : Nat) → Decimal → Decimal
  | 0, d => d
  | fuel + 1, d =>
    if d.digits ≠ 0 && d.digits % 10 = 0 then strip fuel ⟨d.digits / 10, d.exponent + 1⟩
    else d

/-- The shortest decimal of a positive double. -/
def Interval.shortest (i : Interval) : Decimal :=
  strip 20 (i.search 17 i.leading)

/-! ## 1. Writing a decimal -/

/-- The digits of `n`, most significant first. -/
def digitChars (n : Nat) : List Char :=
  Nat.toDigits 10 n

/-- The exponent as it stands behind the `e`, always with a sign. -/
def exponentChars (e : Int) : List Char :=
  (if e < 0 then '-' else '+') :: digitChars e.natAbs

/-- A decimal as text: positional when its point falls behind at most sixteen digits or at most
    four zeros precede its first digit, else with an exponent. A whole number keeps one zero
    behind its point. -/
def chars (d : Decimal) : List Char :=
  let ds := digitChars d.digits
  let point : Int := ds.length + d.exponent
  if 0 ≤ d.exponent && point ≤ 16 then
    ds ++ List.replicate d.exponent.toNat '0' ++ ['.', '0']
  else if 0 < point && point ≤ 16 then
    ds.take point.toNat ++ '.' :: ds.drop point.toNat
  else if -5 < point && point ≤ 0 then
    ['0', '.'] ++ List.replicate (-point).toNat '0' ++ ds
  else
    let e := 'e' :: exponentChars (point - 1)
    match ds with
    | [] => e
    | [c] => c :: e
    | c :: cs => c :: '.' :: cs ++ e

/-- The text of the double with the given bits; nothing for infinities and what is no number. -/
def floatChars? (bits : UInt64) : Option (List Char) :=
  let n := bits.toNat
  let field := n / Nat.pow 2 52 % 2048
  let fraction := n % Nat.pow 2 52
  let sign := if n / Nat.pow 2 63 = 1 then ['-'] else []
  if field = 2047 then none
  else if field = 0 && fraction = 0 then some (sign ++ ['0', '.', '0'])
  else some (sign ++ (Interval.ofFields fraction field).shortest.chars)

end Decimal

end Galley
