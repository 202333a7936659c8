import Galley.Html.TableRules
import Galley.Text.Blank

/-!
# Building a document

Every text is an HTML document. Tokens are taken one after the other, each by the rules of the
mode that the ones before it have led to. Main definition: `parse`.
-/

namespace Galley.Html

namespace Builder

/-! ## 1. Before the body -/

/-- Takes a token before anything else. -/
def takeInitial (token : Token) : Build Rest := do
  match token with
  | .comment => do
    insertCommentIn 0
    pure .done
  | .doctype old => do
    modify fun b => { b with oldRules := old, mode := .beforeHtml }
    pure .done
  | .text cs =>
    if cs.all isSpace then pure .done
    else do
      modify fun b => { b with oldRules := true, mode := .beforeHtml }
      pure (.again token)
  | _ => do
    modify fun b => { b with oldRules := true, mode := .beforeHtml }
    pure (.again token)

/-- Puts the root element into the document. -/
def insertRoot (tag : Tag) : Build Unit := do
  let i ← create (.element .html tag)
  putAt ⟨0, none⟩ i
  modify fun b => { b with stack := [i], mode := .beforeHead }

/-- The end tags that count where an element is missing. -/
def rootEnds : List String := ["head", "body", "html", "br"]

/-- Takes a token before the root element. -/
def takeBeforeHtml (token : Token) : Build Rest := do
  let other : Build Rest := do
    insertRoot (bareTag "html")
    pure (.again token)
  match token with
  | .doctype _ => pure .done
  | .comment => do
    insertCommentIn 0
    pure .done
  | .text cs => if cs.all isSpace then pure .done else other
  | .start tag =>
    if tag.name = "html" then
      insertRoot tag
      pure .done
    else other
  | .stop name => if rootEnds.contains name then other else pure .done
  | _ => other

/-- Puts the head into the document. -/
def insertHead (tag : Tag) : Build Unit := do
  let i ← insertElement .html tag
  modify fun b => { b with head := some i, mode := .inHead }

/-- Takes a token before the head. -/
def takeBeforeHead (token : Token) : Build Rest := do
  let other : Build Rest := do
    insertHead (bareTag "head")
    pure (.again token)
  match token with
  | .doctype _ => pure .done
  | .comment => do
    insertComment
    pure .done
  | .text cs => if cs.all isSpace then pure .done else other
  | .start tag =>
    if tag.name = "html" then takeInBody token
    else if tag.name = "head" then
      insertHead tag
      pure .done
    else other
  | .stop name => if rootEnds.contains name then other else pure .done
  | _ => other

/-- Takes a token in the head. -/
def takeInHead (token : Token) : Build Rest := do
  let other : Build Rest := do
    pop
    switchTo .afterHead
    pure (.again token)
  match token with
  | .text cs =>
    if cs.all isSpace then
      insertText cs
      pure .done
    else other
  | .comment => do
    insertComment
    pure .done
  | .doctype _ => pure .done
  | .start tag =>
    if tag.name = "html" then takeInBody token
    else if tag.name = "noscript" || headContentNames.contains tag.name then
      startHeadContent tag
      pure .done
    else if tag.name = "head" then pure .done
    else other
  | .stop name =>
    if name = "head" then
      pop
      switchTo .afterHead
      pure .done
    else if name = "template" then
      endTemplate
      pure .done
    else if rootEnds.contains name then other
    else pure .done
  | _ => other

/-- Takes a token behind the head. -/
def takeAfterHead (token : Token) : Build Rest := do
  let other : Build Rest := do
    insert (bareTag "body")
    switchTo .inBody
    pure (.again token)
  match token with
  | .text cs =>
    if cs.all isSpace then
      insertText cs
      pure .done
    else other
  | .comment => do
    insertComment
    pure .done
  | .doctype _ => pure .done
  | .start tag =>
    if tag.name = "html" then takeInBody token
    else if tag.name = "body" then
      insert tag
      refuseFrames
      switchTo .inBody
      pure .done
    else if tag.name = "frameset" then
      insert tag
      switchTo .inFrameset
      pure .done
    else if headContentNames.contains tag.name then
      let head := (← get).head.getD 0
      modify fun b => { b with stack := head :: b.stack }
      startHeadContent tag
      removeOpen head
      pure .done
    else if tag.name = "head" then pure .done
    else other
  | .stop name =>
    if name = "template" then
      endTemplate
      pure .done
    else if rootEnds.contains name && name != "head" then other
    else pure .done
  | _ => other

/-! ## 2. Inside the body -/

/-- Takes a token in a stretch of text. -/
def takeInText (token : Token) : Build Rest := do
  match token with
  | .text cs => do
    insertText cs
    pure .done
  | .finish => do
    pop
    modify fun b => { b with mode := b.returnMode, textMode := .data }
    pure (.again token)
  | .stop _ => do
    pop
    modify fun b => { b with mode := b.returnMode, textMode := .data }
    pure .done
  | _ => pure .done

/-- Takes a token in a template. -/
def takeInTemplate (token : Token) : Build Rest := do
  let goOn (mode : Mode) : Build Rest := do
    modify fun b => { b with mode := mode, templateModes := mode :: b.templateModes.drop 1 }
    pure (.again token)
  match token with
  | .start tag =>
    if headContentNames.contains tag.name then
      startHeadContent tag
      pure .done
    else if "caption" :: "colgroup" :: sectionNames |>.contains tag.name then goOn .inTable
    else if tag.name = "col" then goOn .inColumnGroup
    else if tag.name = "tr" then goOn .inTableBody
    else if cellNames.contains tag.name then goOn .inRow
    else goOn .inBody
  | .stop name => do
    if name = "template" then endTemplate
    pure .done
  | .finish => finishTemplate
  | _ => takeInBody token

/-! ## 3. Behind the body -/

/-- Takes a token behind the body. -/
def takeAfterBody (token : Token) : Build Rest := do
  let other : Build Rest := do
    switchTo .inBody
    pure (.again token)
  match token with
  | .text cs => if cs.all isSpace then takeInBody token else other
  | .comment => do
    insertCommentIn ((← get).stack.getLast?.getD 0)
    pure .done
  | .doctype _ | .finish => pure .done
  | .start tag => if tag.name = "html" then takeInBody token else other
  | .stop name =>
    if name = "html" then
      switchTo .afterAfterBody
      pure .done
    else other
  | .null => other

/-- Takes a token behind the root element. -/
def takeAfterAfterBody (token : Token) : Build Rest := do
  let other : Build Rest := do
    switchTo .inBody
    pure (.again token)
  match token with
  | .text cs => if cs.all isSpace then takeInBody token else other
  | .comment => do
    insertCommentIn 0
    pure .done
  | .doctype _ | .finish => pure .done
  | .start tag => if tag.name = "html" then takeInBody token else other
  | _ => other

/-- The blanks of a run. -/
def blanksOf (cs : List Char) : List Char := cs.filter isSpace

/-- Takes a token in a set of frames, or behind it. -/
def takeInFrameset (behind : Bool) (token : Token) : Build Rest := do
  match token with
  | .text cs => unless (blanksOf cs).isEmpty do insertText (blanksOf cs)
  | .comment => insertComment
  | .start tag =>
    if tag.name = "noframes" then startHeadContent tag
    else if behind then pure ()
    else if tag.name = "frameset" then insert tag
    else if tag.name = "frame" then insertVoid tag
  | .stop name =>
    if behind then
      if name = "html" then switchTo .afterAfterFrameset
    else if name = "frameset" && (← get).stack.length > 1 then
      pop
      unless (← get).currentIsAny ["frameset"] do switchTo .afterFrameset
  | _ => pure ()
  pure .done

/-! ## 4. Foreign elements -/

/-- The elements that foreign ones do not hold. -/
def breakoutNames : List String := [
  "b", "big", "blockquote", "body", "br", "center", "code", "dd", "div", "dl", "dt", "em", "embed",
  "h1", "h2", "h3", "h4", "h5", "h6", "head", "hr", "i", "img", "li", "listing", "menu", "meta",
  "nobr", "ol", "p", "pre", "ruby", "s", "small", "span", "strong", "strike", "sub", "sup",
  "table", "tt", "u", "ul", "var"]

/-- A formula written in HTML. -/
def isAnnotation (b : Builder) (i : Nat) : Bool :=
  match b.element? i with
  | some (.math, tag) => tag.name = "annotation-xml"
  | _ => false

/-- A foreign element that holds elements of HTML. -/
def holdsHtml (b : Builder) (i : Nat) : Bool :=
  let encoding := match b.element? i with
    | some (_, tag) => ((tag.attrs.lookup "encoding").getD "").toLower
    | none => ""
  b.holdsBlocks i ||
    (b.isAnnotation i && (encoding = "text/html" || encoding = "application/xhtml+xml"))

/-- The innermost open element is foreign. -/
def inForeign (b : Builder) : Bool :=
  match b.stack.head?.bind b.element? with
  | some (vocabulary, _) => vocabulary != .html
  | none => false

/-- A token is taken by the rules of foreign elements. -/
def takesForeign (b : Builder) (token : Token) : Bool :=
  match b.stack.head? with
  | none => false
  | some i =>
    b.inForeign &&
      match token with
      | .text _ | .null => !(b.holdsText i || b.holdsHtml i)
      | .start tag =>
        let intoText := b.holdsText i && tag.name != "mglyph" && tag.name != "malignmark"
        let svgInside := tag.name = "svg" && b.isAnnotation i
        !(intoText || svgInside || b.holdsHtml i)
      | .finish => false
      | _ => true

/-- Closes foreign elements up to one that HTML may stand in. -/
def leaveForeign : Build Unit :=
  modify fun b =>
    let stops := fun i => b.isForeignScopeEnd i || (b.element? i).all fun e => e.1 = .html
    { b with stack := b.stack.dropWhile fun i => !stops i }

/-- The end tag of a foreign element: how many open elements it closes, or nothing when an element
    of HTML stands inside it. -/
def foreignDepth? (b : Builder) (name : String) : List Nat → Option Nat
  | [] => none
  | i :: rest =>
    match b.element? i with
    | some (.html, _) | none => none
    | some (_, tag) => if tag.name = name then some 1 else (foreignDepth? b name rest).map (· + 1)

/-- Takes a token inside a foreign element; nothing when the rules of HTML apply to it. -/
def takeInForeign (token : Token) : Build (Option Rest) := do
  match token with
  | .null => do
    insertText [replacement]
    pure (some .done)
  | .text cs => do
    insertText cs
    unless cs.all isSpace do refuseFrames
    pure (some .done)
  | .comment => do
    insertComment
    pure (some .done)
  | .doctype _ => pure (some .done)
  | .start tag =>
    let breaks := breakoutNames.contains tag.name ||
      (tag.name = "font" && tag.attrs.any fun a => ["color", "face", "size"].contains a.1)
    if breaks then
      leaveForeign
      pure none
    else
      match (← get).stack.head?.bind (← get).element? with
      | some (vocabulary, _) => do
        startForeign vocabulary tag
        pure (some .done)
      | none => pure none
  | .stop name =>
    if name = "br" || name = "p" then
      leaveForeign
      pure none
    else
      match foreignDepth? (← get) name (← get).stack with
      | some depth => do
        modify fun b => { b with stack := b.stack.drop depth }
        pure (some .done)
      | none => pure none
  | .finish => pure none

/-! ## 5. Taking tokens -/

/-- Takes a token by the rules of the mode. -/
def takeInMode (token : Token) : Build Rest := do
  match (← get).mode with
  | .initial => takeInitial token
  | .beforeHtml => takeBeforeHtml token
  | .beforeHead => takeBeforeHead token
  | .inHead => takeInHead token
  | .afterHead => takeAfterHead token
  | .inBody => takeInBody token
  | .text => takeInText token
  | .inTable => takeInTable token
  | .inTableText => takeInTableText token
  | .inCaption => takeInCaption token
  | .inColumnGroup => takeInColumnGroup token
  | .inTableBody => takeInTableBody token
  | .inRow => takeInRow token
  | .inCell => takeInCell token
  | .inTemplate => takeInTemplate token
  | .afterBody => takeAfterBody token
  | .inFrameset => takeInFrameset false token
  | .afterFrameset | .afterAfterFrameset => takeInFrameset true token
  | .afterAfterBody => takeAfterAfterBody token

/-- Takes a token, as often as it is handed on, at most `rounds` times. -/
def takeIn : (rounds : Nat) → Token → Build Unit
  | 0, _ => pure ()
  | rounds + 1, token => do
    let b ← get
    let foreign ← if b.takesForeign token then takeInForeign token else pure none
    let rest ← match foreign with
      | some rest => pure rest
      | none => takeInMode token
    match rest with
    | .done => pure ()
    | .again token => takeIn rounds token

/-- Takes a token. The break behind the start of preformatted text is dropped. -/
def take (token : Token) : Build Unit := do
  let b ← get
  let dropBreak := b.dropBreak
  if dropBreak then set { b with dropBreak := false }
  let rounds := 2 * b.stack.length + 2 * b.templateModes.length + 20
  match token with
  | .text ('\n' :: cs) =>
    if dropBreak then
      if cs.isEmpty then pure () else takeIn rounds (.text cs)
    else takeIn rounds token
  | _ => takeIn rounds token

/-- The document after all tokens of a text, read one after the other. -/
def takeAll (b : Builder) : (fuel : Nat) → List Char → Builder
  | 0, _ => b
  | _, [] => ((take .finish).run b).2
  | fuel + 1, c :: cs =>
    let (token, rest) := readToken b.textMode b.inForeign c cs
    match token with
    | some token => takeAll ((take token).run b).2 fuel rest
    | none => takeAll b fuel rest

end Builder

/-- The document that a text spells. -/
def parse (html : String) : Dom :=
  let cs := Text.unifyBreaks <| match html.toList with
    | '\ufeff' :: cs => cs
    | cs => cs
  (Builder.takeAll {} (cs.length + 1) cs).document

end Galley.Html
