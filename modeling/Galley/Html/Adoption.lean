import Galley.Html.Builder

/-!
# Misnested formatting

An end tag of a formatting element may come while other elements are open inside it. The elements
between are then rearranged, so that the formatting ends here and goes on inside each of them.
-/

namespace Galley.Html.Builder

/-- The elements that end tags do not reach through. -/
def specialNames : List String := [
  "address", "applet", "area", "article", "aside", "base", "basefont", "bgsound", "blockquote",
  "body", "br", "button", "caption", "center", "col", "colgroup", "dd", "details", "dir", "div",
  "dl", "dt", "embed", "fieldset", "figcaption", "figure", "footer", "form", "frame", "frameset",
  "h1", "h2", "h3", "h4", "h5", "h6", "head", "header", "hgroup", "hr", "html", "iframe", "img",
  "input", "isindex", "li", "link", "listing", "main", "marquee", "menu", "meta", "nav", "noembed",
  "noframes", "noscript", "object", "ol", "p", "param", "plaintext", "pre", "script", "section",
  "select", "source", "style", "summary", "table", "tbody", "td", "template", "textarea", "tfoot",
  "th", "thead", "title", "tr", "track", "ul", "wbr", "xmp"]

/-- An element that end tags do not reach through. -/
def isSpecial (b : Builder) (i : Nat) : Bool :=
  b.isAny specialNames i

/-- Closes the innermost open element of the given name, if no special element stands inside it. -/
def closeNamed (name : String) : Build Unit := do
  let b ← get
  match b.stack.find? fun i => b.isNamed name i || b.isSpecial i with
  | some i =>
    if b.isNamed name i then
      closeImplied name
      modify fun b => { b with stack := (b.stack.dropWhile fun j => j != i).drop 1 }
  | none => pure ()

/-- Takes an element out of the open ones. -/
def removeOpen (i : Nat) : Build Unit :=
  modify fun b => { b with stack := b.stack.filter fun j => j != i }

/-- Makes a new element for formatting and puts it where the old one was among the open elements
    and the formatting. -/
def renew (f : Formatting) : Build Nat := do
  let i ← create (.element .html f.tag)
  modify fun b => { b with
    stack := b.stack.map fun j => if j = f.node then i else j
    formatting := b.formatting.map fun g =>
      g.map fun g => if g.node = f.node then ⟨i, f.tag⟩ else g }
  pure i

/-- Wraps `last` into the formatting of the elements that stand around it, from the inside out,
    and gives the outermost wrapping and the first new element. Beyond the third element
    formatting is forgotten; elements without formatting are closed. -/
def rewrap (count last : Nat) (first : Option Nat) : List Nat → Build (Nat × Option Nat)
  | [] => pure (last, first)
  | node :: rest => do
    if 3 < count then forgetFormatting node
    match (← get).formattingOf? node with
    | none => do
      removeOpen node
      rewrap (count + 1) last first rest
    | some f => do
      let i ← renew f
      detach last
      putAt ⟨i, none⟩ last
      rewrap (count + 1) i (first.or (some i)) rest

/-- `new` in the formatting: behind the formatting of `after`, or in place of that of `old`. -/
def placeFormatting (old : Nat) (new : Formatting) (after : Option Nat) : Build Unit :=
  modify fun b =>
    let isOf := fun (i : Nat) (f : Option Formatting) => f.any fun f => f.node = i
    let formatting := match after with
      | none => b.formatting.map fun f => if isOf old f then some new else f
      | some i =>
        (b.formatting.filter fun f => !isOf old f).flatMap fun f =>
          if isOf i f then [some new, f] else [f]
    { b with formatting := formatting }

/-- Moves the end of formatting from its element into `block`, which is open inside it. -/
def adopt (f : Formatting) (block : Nat) : Build Unit := do
  let b ← get
  let inner := b.stack.takeWhile fun i => i != f.node
  let between := (inner.dropWhile fun i => i != block).drop 1
  let ancestor := ((b.stack.dropWhile fun i => i != f.node).drop 1).head?.getD 0
  let (last, first) ← rewrap 1 block none between
  detach last
  let place := (← get).placeIn ancestor
  putAt place last
  let i ← create (.element .html f.tag)
  let moved := ((← get).cell block).children
  moved.forM fun child => do
    detach child
    putAt ⟨i, none⟩ child
  putAt ⟨block, none⟩ i
  placeFormatting f.node ⟨i, f.tag⟩ first
  removeOpen f.node
  modify fun b => { b with
    stack := b.stack.flatMap fun j => if j = block then [i, j] else [j] }

/-- The end of formatting of the given name, in at most `rounds` rounds. -/
def endFormattingIn (name : String) : (rounds : Nat) → Build Unit
  | 0 => pure ()
  | rounds + 1 => do
    let b ← get
    match b.formattingNamed? name with
    | none => closeNamed name
    | some f =>
      if !b.stack.contains f.node then forgetFormatting f.node
      else
        let stops := fun i => i = f.node || b.isAny scopeEnds i || b.isForeignScopeEnd i
        if b.stack.find? stops ≠ some f.node then pure ()
        else
          let inner := b.stack.takeWhile fun i => i != f.node
          match inner.reverse.find? b.isSpecial with
          | none => do
            modify fun b => { b with stack := (b.stack.dropWhile fun i => i != f.node).drop 1 }
            forgetFormatting f.node
          | some block => do
            adopt f block
            endFormattingIn name rounds

/-- The end of formatting of the given name. -/
def endFormatting (name : String) : Build Unit := do
  let b ← get
  let current := b.stack.head?
  if current.any fun i => b.isNamed name i && (b.formattingOf? i).isNone then pop
  else endFormattingIn name 8

end Galley.Html.Builder
