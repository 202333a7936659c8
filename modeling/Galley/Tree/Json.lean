import Galley.Tree.Fragment
import Galley.Record

/-!
# Trees as JSON

A node is a record with the fields `type`, `attrs`, `content`, `text` and `marks`, in this order.
The type "text" makes a run of text, which keeps its text and its marks; every other type makes an
element, which keeps its attributes and its children. Empty attributes, children and marks are not
written. The attributes of the marks "strong" and "em" are not kept.
-/

namespace Galley

/-- Attributes from the fields of an object: each name keeps its first place and its last value,
    which is brought to its canonical form. -/
def attrsOfJson? : Json → Option Attrs
  | .object fields => some (Dict.ofList (fields.map fun f => (f.1, f.2.canonical)))
  | _ => none

/-- Attributes as a field, if there are any. -/
def attrsField (attrs : Attrs) : List (String × Json) :=
  if attrs.isEmpty then [] else [("attrs", .object attrs.entries)]

namespace Mark

/-- The mark of a kind. -/
def ofKind (kind : String) (attrs : Attrs) : Mark :=
  match kind with
  | "strong" => .strong
  | "em" => .em
  | "link" => .link attrs
  | _ => .other kind attrs

/-- The attributes of a mark. -/
def attrs : Mark → Attrs
  | .strong | .em => Dict.empty
  | .link attrs | .other _ attrs => attrs

/-- The mark that a value spells. -/
def ofJson? (v : Json) : Option Mark := do
  let r ← Record.read? ["type", "attrs"] v
  let kind ← r.required? "type" Json.asString?
  let attrs ← r.withDefault? "attrs" attrsOfJson? Dict.empty
  some (ofKind kind attrs)

/-- A mark as a value. -/
def toJson (m : Mark) : Json :=
  .object (("type", .string m.kind) :: attrsField m.attrs)

end Mark

namespace Node

/-- The fields of a node, in order. -/
def fieldNames : List String := ["type", "attrs", "content", "text", "marks"]

/-- The node with the given parts. -/
def ofParts (kind : String) (attrs : Attrs) (content : List Node) (text : Option String)
    (marks : List Mark) : Node :=
  if kind = "text" then .text (text.getD "") marks else .element kind attrs content

/-- The node that a value spells, at most `depth` levels deep. -/
def ofJsonWithin? : (depth : Nat) → Json → Option Node
  | 0, _ => none
  | depth + 1, v => do
    let r ← Record.read? fieldNames v
    let kind ← r.required? "type" Json.asString?
    let attrs ← r.withDefault? "attrs" attrsOfJson? Dict.empty
    let content ← r.withDefault? "content" (readAll? (ofJsonWithin? depth)) []
    let text ← r.withDefault? "text" (Record.maybe? Json.asString?) none
    let marks ← r.withDefault? "marks" (readAll? Mark.ofJson?) []
    some (ofParts kind attrs content text marks)

mutual

/-- How many levels of arrays and objects a value has. -/
def levels : Json → Nat
  | .array items => levelsOfItems items + 1
  | .object fields => levelsOfFields fields + 1
  | _ => 1

/-- The levels of the deepest item. -/
def levelsOfItems : List Json → Nat
  | [] => 0
  | v :: vs => max (levels v) (levelsOfItems vs)

/-- The levels of the deepest field. -/
def levelsOfFields : List (String × Json) → Nat
  | [] => 0
  | (_, v) :: fields => max (levels v) (levelsOfFields fields)

end

/-- The node that a value spells. -/
def ofJson? (v : Json) : Option Node :=
  ofJsonWithin? (levels v) v

/-- The field for a list that is not written when it is empty. -/
def listField (name : String) (items : List Json) : List (String × Json) :=
  if items.isEmpty then [] else [(name, .array items)]

mutual

/-- A node as a value. -/
def toJson : Node → Json
  | .element kind attrs content =>
    .object (("type", .string kind) :: attrsField attrs ++ listField "content" (toJsons content))
  | .text s marks =>
    .object ([("type", .string "text"), ("text", .string s)]
      ++ listField "marks" (marks.map Mark.toJson))

/-- Nodes as values. -/
def toJsons : List Node → List Json
  | [] => []
  | n :: ns => toJson n :: toJsons ns

end

end Node

namespace Fragment

/-- The fragment that a value spells: a list of nodes, or one node, of which a document gives its
    children. -/
def ofJson? (v : Json) : Option Fragment :=
  match v with
  | .array items => items.mapM Node.ofJson?
  | v => (Node.ofJson? v).map ofDoc

/-- A fragment as a value. -/
def toJson (nodes : Fragment) : Json :=
  .array (Node.toJsons nodes)

end Fragment

end Galley
