import Galley.Json.Value

/-!
# The value of a JSON numeral

A whole numeral within range is an integer. Any other is a double: as many digits as fit in 64
bits are taken as an integer, converted, and multiplied or divided by a power of ten. A numeral
past the range of doubles has no value.
-/

namespace Galley.Json

/-- A numeral in its parts: whole digits, digits behind the point, and the exponent with its sign
    (`true` for minus). -/
structure Numeral where
  negative : Bool
  whole : List Nat
  fraction : Option (List Nat)
  exponent : Option (Bool × List Nat)
  deriving DecidableEq, Repr

/-- The largest integer of 64 bits. -/
def maxWord : Nat := Nat.pow 2 64 - 1

/-- Appends digits to `n` while the result fits in 64 bits; the digits left over. -/
def gather (n : Nat) : List Nat → Nat × List Nat
  | [] => (n, [])
  | d :: ds => if n * 10 + d ≤ maxWord then gather (n * 10 + d) ds else (n, d :: ds)

/-- The number that a list of digits spells. -/
def spelled (ds : List Nat) : Nat :=
  ds.foldl (fun n d => n * 10 + d) 0

/-- `10^n` as a double, for `n` up to 308. -/
def powerOfTen (n : Nat) : Float :=
  Float.ofScientific 1 false n

/-- `x · 10^exponent`, divided by `10^308` as often as needed when `exponent` is very small;
    nothing when the result is infinite. -/
def scale? : (fuel : Nat) → Float → Int → Option Float
  | 0, _, _ => some 0.0
  | fuel + 1, x, exponent =>
    if exponent.natAbs ≤ 308 then
      if 0 ≤ exponent then
        let y := x * powerOfTen exponent.natAbs
        if y.isInf then none else some y
      else some (x / powerOfTen exponent.natAbs)
    else if x == 0.0 then some x
    else if 0 ≤ exponent then none
    else scale? fuel (x / powerOfTen 308) (exponent + 308)

/-- The double `significand · 10^exponent` with its sign. -/
def float? (negative : Bool) (significand : Nat) (exponent : Int) : Option Number :=
  (scale? 8 (UInt64.ofNat significand).toFloat exponent).map fun x =>
    .float (if negative then -x else x).toBits

/-- The significand of at most 64 bits and the power of ten that goes with it. -/
def Numeral.significand (t : Numeral) : Nat × Int :=
  match gather 0 t.whole with
  | (n, []) =>
    match t.fraction with
    | none => (n, 0)
    | some ds =>
      let (m, left) := gather n ds
      (m, -((ds.length - left.length : Nat) : Int))
  | (n, left) =>
    match t.fraction with
    | none => (n, left.length)
    | some ds =>
      let (m, rest) := gather n ds
      (m, (left.length : Int) - ((ds.length - rest.length : Nat) : Int))

/-- The largest exponent that is read as a number. -/
def maxExponent : Nat := Nat.pow 2 31 - 1

/-- The value of a numeral that is written with a point or an exponent, or is too long for an
    integer. -/
def Numeral.asFloat? (t : Numeral) : Option Number :=
  let (n, shift) := t.significand
  match t.exponent with
  | none => float? t.negative n shift
  | some (minus, ds) =>
    if maxExponent < spelled ds then
      if n ≠ 0 && !minus then none
      else some (.float (if t.negative then -0.0 else 0.0 : Float).toBits)
    else
      let e : Int := spelled ds
      float? t.negative n (if minus then shift - e else shift + e)

/-- The value of a numeral; nothing when it is past the range of doubles. A negative zero is a
    double. -/
def Numeral.value? (t : Numeral) : Option Number :=
  match t.fraction, t.exponent, gather 0 t.whole with
  | none, none, (n, []) =>
    if !t.negative then some (.int n)
    else if n = 0 then some (.float (-0.0 : Float).toBits)
    else if n ≤ Nat.pow 2 63 then some (.int (-n))
    else some (.float (-(UInt64.ofNat n).toFloat).toBits)
  | _, _, _ => t.asFloat?

end Galley.Json
