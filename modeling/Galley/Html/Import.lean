import Galley.Failure
import Galley.Html.Construction
import Galley.Tree.Fragment
import Galley.Web.Address

/-!
# HTML as tree nodes

Formatted references and abstracts arrive as HTML. Paragraphs, emphasis, strong emphasis and links
have a form in the tree; everything else is dropped. In running text the first web address becomes
a link.
-/

namespace Galley.Html

open Galley.Text

/-! ## 1. Running text -/

/-- A text cut around the first web address in it, which runs up to the next blank. -/
structure LinkedText where
  before : List Char
  address : List Char
  after : List Char
  deriving DecidableEq, Repr

/-- The web address that comes next, and what follows. -/
def addressAhead? (cs : List Char) : Option (List Char × List Char) :=
  let behind := match after? "http://".toList cs with
    | some rest => some rest
    | none => after? "https://".toList cs
  match behind with
  | none => none
  | some rest =>
    let path := breakAt isBlank rest
    if path.1.isEmpty then none else some (cs.take (cs.length - path.2.length), path.2)

/-- The first web address in a text. -/
def LinkedText.find? : List Char → Option LinkedText
  | [] => none
  | c :: cs =>
    match addressAhead? (c :: cs) with
    | some (address, after) => some ⟨[], address, after⟩
    | none => (LinkedText.find? cs).map fun t => { t with before := c :: t.before }

/-- A run of text, unless it is empty. -/
def runOf (cs : List Char) : List Node :=
  if cs.isEmpty then [] else [Node.plain (String.ofList cs)]

/-- The nodes of a text, with its first web address as a link. -/
def textNodes (s : String) : List Node :=
  match LinkedText.find? s.toList with
  | none => runOf s.toList
  | some t =>
    let address := String.ofList t.address
    runOf t.before ++ .text address [.href address] :: runOf t.after

/-! ## 2. Elements -/

/-- What an element becomes in the tree. -/
inductive Imported where
  | node (n : Node)
  /-- A mark on the text of the element. -/
  | mark (m : Mark)

/-- What an anchor with the given target becomes. -/
def importAnchor? (href : Option String) : Option Imported :=
  match href with
  | some href => if Web.isAddress href then some (.mark (.external href)) else none
  | none => none

mutual

/-- What an element becomes, if anything. -/
def importElement? : Dom → Option Imported
  | .element name attrs children =>
    let text := Dom.textOf children
    match name.toLower with
    | "p" => some (.node (.paragraph (inlineNodes children)))
    | "em" | "i" => if text.isEmpty then none else some (.node (.text text [.em]))
    | "strong" | "b" => if text.isEmpty then none else some (.node (.text text [.strong]))
    | "a" => if text.isEmpty then none else importAnchor? (attrs.lookup "href")
    | _ => none
  | _ => none

/-- The nodes of running content. -/
def inlineNodes : List Dom → List Node
  | [] => []
  | d :: ds => inlineNode d ++ inlineNodes ds

/-- The nodes that one piece of running content becomes. -/
def inlineNode : Dom → List Node
  | .text s => textNodes s
  | .comment => []
  | .element name attrs children =>
    match importElement? (.element name attrs children) with
    | some (.node n) => [n]
    | some (.mark m) => [.text (Dom.textOf children) [m]]
    | none => []

end

/-! ## 3. Blocks -/

/-- A paragraph of running content, unless there is nothing to see in it. -/
def paragraphOf (pending : List Node) : List Node :=
  if pending.any fun n => !isBlankText n.textContent then [.paragraph pending] else []

/-- The elements whose content stands among the blocks. -/
def isContainer (name : String) : Bool :=
  ["div", "section", "article", "blockquote"].contains name

mutual

/-- The blocks of content, behind the running content `pending`. -/
def blocks (pending : List Node) : List Dom → List Node
  | [] => paragraphOf pending
  | d :: ds =>
    match blockNodes? d with
    | some nodes => paragraphOf pending ++ nodes ++ blocks [] ds
    | none => blocks (pending ++ inlineNode d) ds

/-- The blocks that a block element becomes; nothing for running content. -/
def blockNodes? : Dom → Option (List Node)
  | .element name attrs children =>
    if name.toLower = "p" then
      match importElement? (.element name attrs children) with
      | some (.node n) => some [n]
      | _ => some []
    else if isContainer name.toLower then some (blocks [] children)
    else none
  | _ => none

end

/-! ## 4. Fragments -/

/-- A text without anything to see. -/
def isBlankRun : Dom → Bool
  | .text s => isBlankText s
  | _ => false

/-- The body of the document that a text spells. -/
def body (html : String) : Except Failure Dom :=
  match (parse html).find? "body" with
  | some body => .ok body
  | none => .error (.invalidFragment html)

/-- The node of a fragment whose first element is a paragraph or a piece of running text. -/
def importNode (html : String) : Except Failure Node := do
  let body ← body html
  match body.children.find? fun d => !isBlankRun d with
  | some root =>
    match importElement? root with
    | some (.node n) => .ok n
    | _ => .error (.invalidFragment html)
  | none => .error (.invalidFragment html)

/-- The nodes of a fragment. Running content outside all paragraphs makes paragraphs of its own. -/
def importFragment (html : String) : Except Failure Fragment := do
  let body ← body html
  .ok (blocks [] body.children)

end Galley.Html
