import Galley.Dict
import Galley.Json.Value

/-!
# Document trees

A document is a tree of elements and runs of text. An element has a kind, attributes and
children; the kinds "paragraph", "heading", "table", "image" and "citation" mean something to
this library and every other kind is kept as it is. A run of text carries marks.
-/

namespace Galley

/-- The attributes of an element or a mark. -/
abbrev Attrs := Dict Json

/-- What is said about a run of text. -/
inductive Mark where
  | strong
  | em
  /-- A hyperlink; its target is the attribute `href`. -/
  | link (attrs : Attrs)
  | other (kind : String) (attrs : Attrs)
  deriving Inhabited

/-- A node of a document tree. -/
inductive Node where
  | element (kind : String) (attrs : Attrs) (content : List Node)
  | text (text : String) (marks : List Mark)
  deriving Inhabited

/-! ## 1. Marks -/

namespace Mark

/-- A hyperlink. -/
def href (target : String) : Mark :=
  .link (Dict.ofList [("href", .string target)])

/-- A hyperlink that opens in a window of its own. -/
def external (target : String) : Mark :=
  .link (Dict.ofList [("href", .string target), ("target", .string "_blank")])

/-- The name of a mark's kind. -/
def kind : Mark → String
  | .strong => "strong"
  | .em => "em"
  | .link _ => "link"
  | .other kind _ => kind

/-- The target of a link. -/
def target? : Mark → Option String
  | .link attrs => (attrs.get? "href").bind Json.asString?
  | _ => none

end Mark

/-! ## 2. Making nodes -/

namespace Node

/-- A paragraph without attributes. -/
def paragraph (content : List Node) : Node := .element "paragraph" Dict.empty content

/-- A paragraph without content. -/
def emptyParagraph : Node := paragraph []

/-- A heading with its level among the attributes. -/
def heading (level : Nat) (attrs : Attrs) (content : List Node) : Node :=
  .element "heading" (attrs.insert "level" (Json.nat level)) content

/-- Text without marks. -/
def plain (s : String) : Node := .text s []

/-- An image. -/
def image (attrs : Attrs) : Node := .element "image" attrs []

/-- A table. -/
def table (attrs : Attrs) (content : List Node) : Node := .element "table" attrs content

/-- A citation. -/
def citation (attrs : Attrs) : Node := .element "citation" attrs []

/-! ## 3. Parts of a node -/

/-- The name of a node's kind. -/
def kind : Node → String
  | .element kind _ _ => kind
  | .text _ _ => "text"

/-- The attributes of an element. -/
def attrs? : Node → Option Attrs
  | .element _ attrs _ => some attrs
  | .text _ _ => none

/-- One attribute. -/
def attr? (n : Node) (name : String) : Option Json :=
  n.attrs?.bind (·.get? name)

/-- One attribute that is a text. -/
def attrText? (n : Node) (name : String) : Option String :=
  (n.attr? name).bind Json.asString?

/-- The level of a heading. -/
def level? (n : Node) : Option Nat :=
  (n.attr? "level").bind Json.asNat?

/-- The children of an element. -/
def content : Node → List Node
  | .element _ _ content => content
  | .text _ _ => []

/-- An element of the given kind. -/
def isElement (kind : String) : Node → Bool
  | .element k _ _ => k == kind
  | .text _ _ => false

mutual

/-- The text of a node and all below it. -/
def textContent : Node → String
  | .text s _ => s
  | .element _ _ content => textOf content

/-- The text of a sequence of nodes. -/
def textOf : List Node → String
  | [] => ""
  | n :: ns => textContent n ++ textOf ns

end

/-! ## 4. Changing a node -/

/-- The node with an attribute set. A run of text stays as it is. -/
def withAttr (n : Node) (name : String) (value : Json) : Node :=
  match n with
  | .element kind attrs content => .element kind (attrs.insert name value) content
  | .text s marks => .text s marks

/-- The node with other children. A run of text stays as it is. -/
def withContent (n : Node) (content : List Node) : Node :=
  match n with
  | .element kind attrs _ => .element kind attrs content
  | .text s marks => .text s marks

@[simp] theorem kind_withAttr (n : Node) (name : String) (value : Json) :
    (n.withAttr name value).kind = n.kind := by
  cases n <;> rfl

theorem attr?_withAttr_of_ne (n : Node) {name other : String} (h : other ≠ name) (value : Json) :
    (n.withAttr name value).attr? other = n.attr? other := by
  cases n with
  | element kind attrs content => exact attrs.get?_insert_of_ne h value
  | text s marks => rfl

@[simp] theorem content_withAttr (n : Node) (name : String) (value : Json) :
    (n.withAttr name value).content = n.content := by
  cases n <;> rfl

end Node

end Galley
