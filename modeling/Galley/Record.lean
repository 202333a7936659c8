import Galley.Json.Value

/-!
# Records in structured data

A record is written as an object whose fields have names, in any order and with others between
them, or as a list of its values in the order of the declaration. A name may not be given twice.
The reading is the same for every notation that can say what its values are (`Structured`).
-/

namespace Galley

/-- The values given for the fields of a record. -/
structure Record (δ : Type) where
  /-- The values came in order, without names. -/
  positional : Bool
  values : List (String × δ)

/-- What a notation for structured data has to tell about a value. -/
class Structured (δ : Type) where
  /-- The fields of an object, with their names. -/
  fields? : δ → Option (List (String × δ))
  /-- The items of a list. -/
  items? : δ → Option (List δ)
  /-- A list may stand for a record. -/
  positional : Bool
  /-- The value as a text. -/
  text? : δ → Option String
  /-- The value as a natural number of at most 64 bits. -/
  count? : δ → Option Nat
  /-- The value as a truth value. -/
  flag? : δ → Option Bool
  /-- Whether the value says that there is none; nothing when it contradicts itself. -/
  absent? : δ → Option Bool

namespace Record

variable {δ : Type}

/-- The fields of `given` that are among `names`; nothing when one of them comes twice. -/
def ofFields? (names : List String) : List (String × δ) → Option (List (String × δ))
  | [] => some []
  | (name, v) :: given =>
    if names.contains name then
      if (given.map Prod.fst).contains name then none
      else (ofFields? names given).map ((name, v) :: ·)
    else ofFields? names given

/-- The record that a value spells, where `names` are its fields in order. -/
def read? [Structured δ] (names : List String) (v : δ) : Option (Record δ) :=
  match Structured.fields? v with
  | some given => (ofFields? names given).map (⟨false, ·⟩)
  | none =>
    if Structured.positional δ then
      (Structured.items? v).bind fun items =>
        if items.length ≤ names.length then some ⟨true, names.zip items⟩ else none
    else none

/-- The value of a field that has to be there. -/
def required? {α : Type} (r : Record δ) (name : String) (read : δ → Option α) : Option α :=
  (r.values.lookup name).bind read

/-- The value of a field, or `fallback` when it is not there. -/
def withDefault? {α : Type} (r : Record δ) (name : String) (read : δ → Option α) (fallback : α) :
    Option α :=
  match r.values.lookup name with
  | some v => read v
  | none => some fallback

/-- A value that may be given as absent. -/
def maybe? {α : Type} [Structured δ] (read : δ → Option α) (v : δ) : Option (Option α) :=
  (Structured.absent? v).bind fun absent => if absent then some none else (read v).map some

/-- The value of a field that may be absent. Only a record with names may leave it out. -/
def optional? {α : Type} [Structured δ] (r : Record δ) (name : String) (read : δ → Option α) :
    Option (Option α) :=
  match r.values.lookup name with
  | some v => maybe? read v
  | none => if r.positional then none else some none

end Record

/-- All items of a list value, read one by one. -/
def readAll? {δ α : Type} [Structured δ] (read : δ → Option α) (v : δ) : Option (List α) :=
  (Structured.items? v).bind fun items => items.mapM read

instance : Structured Json where
  fields? := Json.asObject?
  items? := Json.asArray?
  positional := true
  text? := Json.asString?
  count? := Json.asNat?
  flag? := Json.asBool?
  absent? := fun v => some v.isNull

end Galley
