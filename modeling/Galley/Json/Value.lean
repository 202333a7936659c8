/-!
# JSON values

An object is a list of fields in the order in which they were written, repeated keys included.
The *canonical* form of a value has the fields of every object sorted by key, each key once, with
the value that was written last.
-/

namespace Galley

/-- A number: an integer from -2^63 to 2^64 - 1, or a double, by its bits. -/
inductive Number where
  | int (n : Int)
  | float (bits : UInt64)
  deriving DecidableEq, Repr, Inhabited

/-- A JSON value. -/
inductive Json where
  | null
  | bool (b : Bool)
  | number (n : Number)
  | string (s : String)
  | array (items : List Json)
  | object (fields : List (String × Json))
  deriving Repr, Inhabited

namespace Json

/-- A natural number as a value. -/
def nat (n : Nat) : Json := .number (.int n)

/-- An optional text; null when there is none. -/
def text? : Option String → Json
  | some s => .string s
  | none => .null

/-- The text of a string. -/
def asString? : Json → Option String
  | .string s => some s
  | _ => none

/-- The number of an integer that is not negative. -/
def asNat? : Json → Option Nat
  | .number (.int n) => if 0 ≤ n then some n.toNat else none
  | _ => none

/-- The truth value of a boolean. -/
def asBool? : Json → Option Bool
  | .bool b => some b
  | _ => none

/-- The items of an array. -/
def asArray? : Json → Option (List Json)
  | .array items => some items
  | _ => none

/-- The fields of an object. -/
def asObject? : Json → Option (List (String × Json))
  | .object fields => some fields
  | _ => none

/-- The value is null. -/
def isNull : Json → Bool
  | .null => true
  | _ => false

/-- The value under `key` that was written last. -/
def field? (v : Json) (key : String) : Option Json :=
  match v with
  | .object fields => fields.reverse.lookup key
  | _ => none

/-! ## 1. The canonical form -/

/-- Sets `key` in fields sorted by key. -/
def insertField (key : String) (value : Json) : List (String × Json) → List (String × Json)
  | [] => [(key, value)]
  | (k, v) :: fields =>
    if key = k then (key, value) :: fields
    else if key < k then (key, value) :: (k, v) :: fields
    else (k, v) :: insertField key value fields

mutual

/-- Objects sorted by key at every depth, each key once. -/
def canonical : Json → Json
  | .array items => .array (canonicalItems items)
  | .object fields => .object (canonicalFields [] fields)
  | v => v

/-- The canonical forms of the items of an array. -/
def canonicalItems : List Json → List Json
  | [] => []
  | v :: vs => canonical v :: canonicalItems vs

/-- The fields `sorted` with the given ones set one after the other. -/
def canonicalFields (sorted : List (String × Json)) : List (String × Json) → List (String × Json)
  | [] => sorted
  | (k, v) :: fields => canonicalFields (insertField k (canonical v) sorted) fields

end

end Json

end Galley
