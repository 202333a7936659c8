import Galley.Citation.Basic
import Galley.Record

/-!
# Citations as JSON

An occurrence is an object with the fields `key`, `type`, `position`, `prefix` and `suffix`; the
notes are left out when there are none.
-/

namespace Galley

/-- The names of the kinds. -/
def CitationKind.name : CitationKind → String
  | .paren => "paren"
  | .text => "text"
  | .author => "author"
  | .year => "year"

/-- The names of the positions. -/
def Position.name : Position → String
  | .alone => "alone"
  | .first => "first"
  | .middle => "middle"
  | .last => "last"

/-- The kind with a given name. -/
def CitationKind.ofName? (s : String) : Option CitationKind :=
  [.paren, .text, .author, .year].find? fun k => k.name == s

/-- The position with a given name. -/
def Position.ofName? (s : String) : Option Position :=
  [.alone, .first, .middle, .last].find? fun p => p.name == s

/-- The name that a value gives: a string, or an object with that name as its only field and
    null under it. -/
def Json.choice? : Json → Option String
  | .string s => some s
  | .object [(name, .null)] => some name
  | _ => none

namespace Occurrence

/-- The fields of an occurrence, in order. -/
def fieldNames : List String := ["key", "type", "position", "prefix", "suffix"]

/-- The occurrence that a value spells. -/
def ofJson? (v : Json) : Option Occurrence := do
  let r ← Record.read? fieldNames v
  let key ← r.required? "key" Json.asString?
  let kind ← r.required? "type" fun k => k.choice?.bind CitationKind.ofName?
  let position ← r.required? "position" fun p => p.choice?.bind Position.ofName?
  let before ← r.optional? "prefix" Json.asString?
  let after ← r.optional? "suffix" Json.asString?
  some ⟨key, kind, position, before, after⟩

/-- A note as a field, if there is one. -/
def noteField (name : String) : Option String → List (String × Json)
  | some note => [(name, .string note)]
  | none => []

/-- An occurrence as a value. -/
def toJson (o : Occurrence) : Json :=
  .object <|
    [("key", .string o.key), ("type", .string o.kind.name), ("position", .string o.position.name)]
      ++ noteField "prefix" o.before ++ noteField "suffix" o.after

end Occurrence

end Galley
