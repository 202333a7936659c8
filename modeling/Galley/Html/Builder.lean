import Galley.Html.Dom
import Galley.Html.Token

/-!
# A document under construction

The nodes of a document stand in numbered cells while it is built, since elements may still be
moved. Beside them are kept the open elements, the formatting that is to be carried on, and the
mode that says how the next token is taken.
-/

namespace Galley.Html

/-- The vocabularies that elements come from. -/
inductive Vocabulary where
  | html
  | math
  | svg
  deriving DecidableEq, Repr, Inhabited

/-- What a cell holds. -/
inductive CellData where
  | document
  | element (vocabulary : Vocabulary) (tag : Tag)
  | text (s : String)
  | comment
  deriving Repr, Inhabited

/-- A node under construction. -/
structure Cell where
  data : CellData
  parent : Option Nat
  children : List Nat
  deriving Repr, Inhabited

/-- How the next token is taken. -/
inductive Mode where
  | initial | beforeHtml | beforeHead | inHead | afterHead | inBody | text | inTable | inTableText
  | inCaption | inColumnGroup | inTableBody | inRow | inCell | inTemplate | afterBody | inFrameset
  | afterFrameset | afterAfterBody | afterAfterFrameset
  deriving DecidableEq, Repr, Inhabited

/-- Formatting that is carried on: an element and the tag that it was made from. -/
structure Formatting where
  node : Nat
  tag : Tag
  deriving Repr, Inhabited

/-- A document under construction. -/
structure Builder where
  cells : Array Cell := #[⟨.document, none, []⟩]
  /-- The open elements, the innermost first. -/
  stack : List Nat := []
  mode : Mode := .initial
  /-- The mode to go back to after a stretch of text. -/
  returnMode : Mode := .initial
  templateModes : List Mode := []
  head : Option Nat := none
  form : Option Nat := none
  /-- Formatting to carry on, the latest first; nothing stands for a barrier. -/
  formatting : List (Option Formatting) := []
  /-- A set of frames may still take the place of the body. -/
  framesAllowed : Bool := true
  /-- What does not belong into a table goes in front of it. -/
  fostering : Bool := false
  /-- The document asks for the old layout rules. -/
  oldRules : Bool := false
  /-- Text inside a table that has not been placed. -/
  tableText : List Char := []
  /-- A line feed that comes next is dropped. -/
  dropBreak : Bool := false
  textMode : TextMode := .data
  deriving Repr, Inhabited

/-- A step of the construction. -/
abbrev Build := StateM Builder

namespace Builder

/-! ## 1. Looking at nodes -/

/-- The cell of a node. -/
def cell (b : Builder) (i : Nat) : Cell :=
  (b.cells[i]?).getD ⟨.comment, none, []⟩

/-- The name of an element and its vocabulary. -/
def element? (b : Builder) (i : Nat) : Option (Vocabulary × Tag) :=
  match (b.cell i).data with
  | .element vocabulary tag => some (vocabulary, tag)
  | _ => none

/-- An element of HTML that has one of the given names. -/
def isAny (b : Builder) (names : List String) (i : Nat) : Bool :=
  match b.element? i with
  | some (.html, tag) => names.contains tag.name
  | _ => false

/-- An element of HTML of the given name. -/
def isNamed (b : Builder) (name : String) (i : Nat) : Bool :=
  b.isAny [name] i

/-- The innermost open element has one of the given names. -/
def currentIsAny (b : Builder) (names : List String) : Bool :=
  b.stack.head?.any (b.isAny names)

/-- Some open element has the given name. -/
def hasOpen (b : Builder) (name : String) : Bool :=
  b.stack.any (b.isNamed name)

/-! ## 2. Scopes -/

/-- The elements that every scope ends at. -/
def scopeEnds : List String :=
  ["applet", "caption", "html", "marquee", "object", "select", "table", "td", "template", "th"]

/-- An element of formulas that holds running text. -/
def holdsText (b : Builder) (i : Nat) : Bool :=
  match b.element? i with
  | some (.math, tag) => ["mi", "mo", "mn", "ms", "mtext"].contains tag.name
  | _ => false

/-- An element of drawings that holds elements of HTML. -/
def holdsBlocks (b : Builder) (i : Nat) : Bool :=
  match b.element? i with
  | some (.svg, tag) => ["foreignobject", "desc", "title"].contains tag.name
  | _ => false

/-- A foreign element that every scope ends at. -/
def isForeignScopeEnd (b : Builder) (i : Nat) : Bool :=
  b.holdsText i || b.holdsBlocks i

/-- An element with one of the given names is open, and no end of its scope stands inside it. -/
def inScopeOf (b : Builder) (ends names : List String) : Bool :=
  let stops := fun i => b.isAny names i || b.isAny ends i || b.isForeignScopeEnd i
  (b.stack.find? stops).any (b.isAny names)

/-- The scope of most elements. -/
def inScope (b : Builder) (names : List String) : Bool := b.inScopeOf scopeEnds names

/-- The scope of list items. -/
def inListScope (b : Builder) (names : List String) : Bool :=
  b.inScopeOf ("ol" :: "ul" :: scopeEnds) names

/-- The scope of paragraphs. -/
def inButtonScope (b : Builder) (names : List String) : Bool :=
  b.inScopeOf ("button" :: scopeEnds) names

/-- The scope of the parts of a table. -/
def inTableScope (b : Builder) (names : List String) : Bool :=
  (b.stack.find? fun i => b.isAny names i || b.isAny ["html", "table", "template"] i).any
    (b.isAny names)

/-! ## 3. Changing cells -/

/-- The document with the cell of a node changed. -/
def change (b : Builder) (i : Nat) (f : Cell → Cell) : Builder :=
  { b with cells := b.cells.modify i f }

/-- A new node, which stands nowhere yet. -/
def create (data : CellData) : Build Nat := do
  let b ← get
  set { b with cells := b.cells.push ⟨data, none, []⟩ }
  pure b.cells.size

/-- Takes a node from the place where it stands. -/
def detach (i : Nat) : Build Unit :=
  modify fun b =>
    match (b.cell i).parent with
    | some p =>
      (b.change p fun c => { c with children := c.children.erase i }).change i fun c =>
        { c with parent := none }
    | none => b

/-- `i` in front of `before` in a list, or at its end. -/
def insertIn (i : Nat) (before : Option Nat) : List Nat → List Nat
  | [] => [i]
  | c :: cs => if some c = before then i :: c :: cs else c :: insertIn i before cs

/-- A place for a node: below a parent, in front of one of its children or behind them all. -/
structure Place where
  parent : Nat
  before : Option Nat

/-- Puts a node, which stands nowhere, at a place. -/
def putAt (place : Place) (i : Nat) : Build Unit :=
  modify fun b =>
    let b := b.change place.parent fun c =>
      { c with children := insertIn i place.before c.children }
    b.change i fun c => { c with parent := some place.parent }

/-- The child that stands in front of a place. -/
def nodeBefore? (b : Builder) (place : Place) : Option Nat :=
  let children := (b.cell place.parent).children
  match place.before with
  | none => children.getLast?
  | some i => (children.takeWhile fun c => c != i).getLast?

/-! ## 4. Inserting -/

/-- The place in front of the innermost open table, where what does not belong into it goes. -/
def fosterPlace (b : Builder) : Place :=
  let root := b.stack.getLast?.getD 0
  match b.stack.find? (b.isAny ["table", "template"]) with
  | none => ⟨root, none⟩
  | some i =>
    if b.isNamed "template" i then ⟨i, none⟩
    else
      match (b.cell i).parent with
      | some p => ⟨p, some i⟩
      | none => ⟨((b.stack.dropWhile fun j => j != i).drop 1).head?.getD root, none⟩

/-- The place for the next node: inside `target`, or in front of a table. -/
def placeIn (b : Builder) (target : Nat) : Place :=
  if b.fostering && b.isAny ["table", "tbody", "tfoot", "thead", "tr"] target then b.fosterPlace
  else ⟨target, none⟩

/-- The place for the next node. -/
def place (b : Builder) : Place :=
  b.placeIn (b.stack.head?.getD 0)

/-- Puts text at the next place. Text that stands in front of it goes on. -/
def insertText (cs : List Char) : Build Unit := do
  let b ← get
  let s := String.ofList cs
  match b.nodeBefore? b.place with
  | some i =>
    match (b.cell i).data with
    | .text t => set (b.change i fun c => { c with data := .text (t ++ s) })
    | _ => do
      let j ← create (.text s)
      putAt b.place j
  | none => do
    let j ← create (.text s)
    putAt b.place j

/-- Puts a comment at the end of a node. -/
def insertCommentIn (parent : Nat) : Build Unit := do
  let i ← create .comment
  putAt ⟨parent, none⟩ i

/-- Puts a comment at the next place. -/
def insertComment : Build Unit := do
  let place := (← get).place
  let i ← create .comment
  putAt place i

/-- Puts an element at the next place and opens it. -/
def insertElement (vocabulary : Vocabulary) (tag : Tag) : Build Nat := do
  let place := (← get).place
  let i ← create (.element vocabulary tag)
  putAt place i
  modify fun b => { b with stack := i :: b.stack }
  pure i

/-- Puts an element of HTML at the next place and opens it. -/
def insert (tag : Tag) : Build Unit := do
  let _ ← insertElement .html tag

/-- Closes the innermost open element. -/
def pop : Build Unit :=
  modify fun b => { b with stack := b.stack.drop 1 }

/-- Puts an element at the next place, without opening it. -/
def insertVoid (tag : Tag) : Build Unit := do
  insert tag
  pop

/-- A tag without attributes. -/
def bareTag (name : String) : Tag := ⟨name, [], false⟩

/-! ## 5. Closing -/

/-- Closes open elements up to the first with one of the given names, and that one too. -/
def popThrough (names : List String) : Build Unit :=
  modify fun b => { b with stack := (b.stack.dropWhile fun i => !b.isAny names i).drop 1 }

/-- Closes open elements up to the first with one of the given names. -/
def popTo (names : List String) : Build Unit :=
  modify fun b => { b with stack := b.stack.dropWhile fun i => !b.isAny names i }

/-- The elements whose end tags may be left out. -/
def impliedEnds : List String :=
  ["dd", "dt", "li", "optgroup", "option", "p", "rb", "rp", "rt", "rtc"]

/-- Closes elements whose end tags may be left out, but for those with the given name. -/
def closeImplied (except : String) : Build Unit :=
  modify fun b =>
    { b with stack := b.stack.dropWhile (b.isAny (impliedEnds.filter fun n => n != except)) }

/-- Closes the open paragraph, if there is one in scope. -/
def closeParagraph : Build Unit := do
  if (← get).inButtonScope ["p"] then
    closeImplied "p"
    popThrough ["p"]

/-! ## 6. Formatting -/

/-- The formatting since the last barrier, the latest first. -/
def recentFormatting (b : Builder) : List Formatting :=
  (b.formatting.takeWhile Option.isSome).filterMap id

/-- The latest formatting since the last barrier with the given name. -/
def formattingNamed? (b : Builder) (name : String) : Option Formatting :=
  b.recentFormatting.find? fun f => f.tag.name = name

/-- A node carries formatting. -/
def formattingOf? (b : Builder) (i : Nat) : Option Formatting :=
  (b.formatting.filterMap id).find? fun f => f.node = i

/-- Forgets the formatting of a node. -/
def forgetFormatting (i : Nat) : Build Unit :=
  modify fun b =>
    { b with formatting := b.formatting.filter fun f => !f.any fun f => f.node = i }

/-- The same attributes, in any order. -/
def sameAttributes (a b : List (String × String)) : Bool :=
  a.length = b.length && a.all fun x => b.lookup x.1 = some x.2

/-- Carries formatting on. Of equal formatting only three are kept. -/
def pushFormatting (i : Nat) (tag : Tag) : Build Unit := do
  let b ← get
  let equal := b.recentFormatting.filter fun f =>
    f.tag.name = tag.name && sameAttributes f.tag.attrs tag.attrs
  if let some oldest := (equal.drop 2).head? then forgetFormatting oldest.node
  modify fun b => { b with formatting := some ⟨i, tag⟩ :: b.formatting }

/-- Puts up a barrier behind which formatting is not carried on. -/
def pushBarrier : Build Unit :=
  modify fun b => { b with formatting := none :: b.formatting }

/-- Forgets the formatting since the last barrier, and the barrier. -/
def clearToBarrier : Build Unit :=
  modify fun b => { b with formatting := (b.formatting.dropWhile Option.isSome).drop 1 }

/-- Opens one piece of formatting again. -/
def reopen (f : Formatting) : Build Unit := do
  let i ← insertElement .html f.tag
  modify fun b => { b with
    formatting := b.formatting.map fun g =>
      g.map fun g => if g.node = f.node then ⟨i, f.tag⟩ else g }

/-- Opens the formatting again whose elements have been closed. -/
def reopenFormatting : Build Unit := do
  let b ← get
  let closed := b.recentFormatting.takeWhile fun f => !b.stack.contains f.node
  closed.reverse.forM reopen

/-- Puts running text at the next place. -/
def insertRunning (cs : List Char) : Build Unit := do
  reopenFormatting
  insertText cs
  unless cs.all isSpace do
    modify fun b => { b with framesAllowed := false }

/-! ## 7. Modes -/

/-- Takes the next token in another mode. -/
def switchTo (mode : Mode) : Build Unit :=
  modify fun b => { b with mode := mode }

/-- No set of frames may take the place of the body any more. -/
def refuseFrames : Build Unit :=
  modify fun b => { b with framesAllowed := false }

/-- Puts an element at the next place whose content is read in a way of its own. -/
def insertTextElement (tag : Tag) (textMode : TextMode) : Build Unit := do
  insert tag
  modify fun b => { b with textMode := textMode, returnMode := b.mode, mode := .text }

/-- The mode that open elements ask for, where all but the last of them have others outside. -/
def modeFor (b : Builder) : List Nat → Mode
  | [] => .inBody
  | i :: rest =>
    let name := match b.element? i with
      | some (.html, tag) => tag.name
      | _ => ""
    let inner := !rest.isEmpty
    if (name = "td" || name = "th") && inner then .inCell
    else if name = "tr" then .inRow
    else if name = "tbody" || name = "thead" || name = "tfoot" then .inTableBody
    else if name = "caption" then .inCaption
    else if name = "colgroup" then .inColumnGroup
    else if name = "table" then .inTable
    else if name = "template" then b.templateModes.head?.getD .inBody
    else if name = "head" && inner then .inHead
    else if name = "body" then .inBody
    else if name = "frameset" then .inFrameset
    else if name = "html" then if b.head.isNone then .beforeHead else .afterHead
    else modeFor b rest

/-- Takes the next token in the mode that the open elements ask for. -/
def resetMode : Build Unit :=
  modify fun b => { b with mode := b.modeFor b.stack }

/-! ## 8. The finished document -/

/-- The node in a cell, and what is below it, at most `depth` deep. What a template of HTML holds is
    not part of the document. -/
def toDom (b : Builder) : (depth : Nat) → Nat → Dom
  | 0, _ => .comment
  | depth + 1, i =>
    match (b.cell i).data with
    | .text s => .text s
    | .comment => .comment
    | .document => .element "" [] ((b.cell i).children.map (toDom b depth))
    | .element vocabulary tag =>
      if vocabulary = .html ∧ tag.name = "template" then .element tag.name tag.attrs []
      else .element tag.name tag.attrs ((b.cell i).children.map (toDom b depth))

/-- The document. -/
def document (b : Builder) : Dom :=
  b.toDom b.cells.size 0

end Builder

end Galley.Html
