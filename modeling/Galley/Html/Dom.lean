/-!
# HTML documents

A parsed document is a tree of elements, runs of text and comments. Two runs of text never stand
side by side.
-/

namespace Galley.Html

/-- A node of an HTML document. -/
inductive Dom where
  | element (name : String) (attrs : List (String × String)) (children : List Dom)
  | text (s : String)
  | comment
  deriving Repr, Inhabited

namespace Dom

/-- The name of an element. -/
def name? : Dom → Option String
  | .element name _ _ => some name
  | _ => none

/-- The children of an element. -/
def children : Dom → List Dom
  | .element _ _ children => children
  | _ => []

mutual

/-- The text of a node and all below it. -/
def textContent : Dom → String
  | .text s => s
  | .comment => ""
  | .element _ _ children => textOf children

/-- The text of a sequence of nodes. -/
def textOf : List Dom → String
  | [] => ""
  | d :: ds => textContent d ++ textOf ds

end

mutual

/-- The first element with the given name, in the order of the text. -/
def find? (name : String) : Dom → Option Dom
  | .element n attrs children =>
    if n = name then some (.element n attrs children) else findAmong? name children
  | _ => none

/-- The first element with the given name among nodes and what is below them. -/
def findAmong? (name : String) : List Dom → Option Dom
  | [] => none
  | d :: ds =>
    match find? name d with
    | some found => some found
    | none => findAmong? name ds

end

end Dom

end Galley.Html
