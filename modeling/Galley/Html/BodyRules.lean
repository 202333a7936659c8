import Galley.Html.Adoption

/-!
# The rules of the body

How tokens are taken inside the body of a document. Most other modes fall back on these rules.
-/

namespace Galley.Html.Builder

/-- What is left to do with a token. -/
inductive Rest where
  | done
  /-- The token is taken once more, in the mode that has been switched to. -/
  | again (token : Token)

/-! ## 1. What belongs into a head -/

/-- The end of a template. -/
def endTemplate : Build Unit := do
  if (← get).hasOpen "template" then
    closeImplied ""
    popThrough ["template"]
    clearToBarrier
    modify fun b => { b with templateModes := b.templateModes.drop 1 }
    resetMode

/-- A start tag that belongs into a head, wherever it stands. -/
def startHeadContent (tag : Tag) : Build Unit :=
  match tag.name with
  | "title" => insertTextElement tag (.escapable tag.name)
  | "script" => insertTextElement tag .script
  | "noscript" | "noframes" | "style" => insertTextElement tag (.raw tag.name)
  | "template" => do
    insert tag
    pushBarrier
    refuseFrames
    modify fun b => { b with mode := .inTemplate, templateModes := .inTemplate :: b.templateModes }
  | _ => insertVoid tag

/-- The start tags that belong into a head. -/
def headContentNames : List String :=
  ["base", "basefont", "bgsound", "link", "meta", "noframes", "script", "style", "template",
    "title"]

/-- The end of the text inside a template. -/
def finishTemplate : Build Rest := do
  if (← get).hasOpen "template" then
    popThrough ["template"]
    clearToBarrier
    modify fun b => { b with templateModes := b.templateModes.drop 1 }
    resetMode
    pure (.again .finish)
  else pure .done

/-! ## 2. Start tags -/

/-- The elements that close a paragraph. -/
def blockNames : List String := [
  "address", "article", "aside", "blockquote", "center", "details", "dialog", "dir", "div", "dl",
  "fieldset", "figcaption", "figure", "footer", "header", "hgroup", "main", "menu", "nav", "ol",
  "p", "search", "section", "summary", "ul"]

/-- The headings. -/
def headingNames : List String := ["h1", "h2", "h3", "h4", "h5", "h6"]

/-- The elements whose formatting is carried on. -/
def formattingNames : List String :=
  ["b", "big", "code", "em", "font", "i", "s", "small", "strike", "strong", "tt", "u"]

/-- Closes the list item that is open, where `names` are the items of the list. -/
def closeItem (names : List String) : Build Unit := do
  let b ← get
  let stops := fun i =>
    b.isAny names i || (b.isSpecial i && !b.isAny ["address", "div", "p"] i)
  match b.stack.find? stops with
  | some i =>
    match b.element? i with
    | some (_, tag) =>
      if b.isAny names i then
        closeImplied tag.name
        popThrough [tag.name]
    | none => pure ()
  | none => pure ()

/-- Opens an element behind an open paragraph. -/
def startBlock (tag : Tag) : Build Unit := do
  closeParagraph
  insert tag

/-- Opens an element in running text. -/
def startRunning (tag : Tag) : Build Unit := do
  reopenFormatting
  insert tag

/-- Opens a formatting element. -/
def startFormatting (tag : Tag) : Build Unit := do
  reopenFormatting
  let i ← insertElement .html tag
  pushFormatting i tag

/-- The second of the open elements from the outside, if it is the body. -/
def openBody? (b : Builder) : Option Nat :=
  (b.stack.reverse[1]?).filter (b.isNamed "body")

/-- A set of frames in place of the body. -/
def startFrames (tag : Tag) : Build Unit := do
  let b ← get
  if b.framesAllowed then
    match b.openBody? with
    | some body => do
      detach body
      modify fun b => { b with stack := b.stack.drop (b.stack.length - 1) }
      insert tag
      switchTo .inFrameset
    | none => pure ()

/-- Opens a foreign element. -/
def startForeign (vocabulary : Vocabulary) (tag : Tag) : Build Unit := do
  let _ ← insertElement vocabulary tag
  if tag.selfClosing then pop

/-- Takes a start tag in the body. -/
def startInBody (tag : Tag) : Build Rest := do
  let b ← get
  let name := tag.name
  let is := fun names : List String => names.contains name
  if name = "html" || name = "body" then
    if name = "body" && b.openBody?.isSome then refuseFrames
  else if is headContentNames then startHeadContent tag
  else if name = "frameset" then startFrames tag
  else if is blockNames then startBlock tag
  else if is headingNames then
    closeParagraph
    if (← get).currentIsAny headingNames then pop
    insert tag
  else if is ["pre", "listing"] then
    startBlock tag
    refuseFrames
    modify fun b => { b with dropBreak := true }
  else if name = "form" then
    if b.form.isNone || b.hasOpen "template" then
      closeParagraph
      let i ← insertElement .html tag
      unless b.hasOpen "template" do
        modify fun b => { b with form := some i }
  else if name = "li" then
    refuseFrames
    closeItem ["li"]
    startBlock tag
  else if is ["dd", "dt"] then
    refuseFrames
    closeItem ["dd", "dt"]
    startBlock tag
  else if name = "plaintext" then
    startBlock tag
    modify fun b => { b with textMode := .plaintext }
  else if name = "button" then
    if b.inScope ["button"] then
      closeImplied ""
      popThrough ["button"]
    startRunning tag
    refuseFrames
  else if name = "a" then
    if let some f := b.formattingNamed? "a" then
      endFormatting "a"
      forgetFormatting f.node
      removeOpen f.node
    startFormatting tag
  else if is formattingNames then startFormatting tag
  else if name = "nobr" then
    reopenFormatting
    if (← get).inScope ["nobr"] then endFormatting "nobr"
    startFormatting tag
  else if is ["applet", "marquee", "object"] then
    startRunning tag
    pushBarrier
    refuseFrames
  else if name = "table" then
    unless b.oldRules do closeParagraph
    insert tag
    refuseFrames
    switchTo .inTable
  else if is ["area", "br", "embed", "img", "keygen", "wbr"] then
    reopenFormatting
    insertVoid tag
    refuseFrames
  else if name = "input" then
    if b.inScope ["select"] then popThrough ["select"]
    reopenFormatting
    insertVoid tag
    unless ((tag.attrs.lookup "type").map String.toLower) = some "hidden" do refuseFrames
  else if is ["param", "source", "track"] then insertVoid tag
  else if name = "hr" then
    closeParagraph
    if (← get).inScope ["select"] then closeImplied ""
    insertVoid tag
    refuseFrames
  else if name = "image" then return .again (.start { tag with name := "img" })
  else if name = "textarea" then
    insertTextElement tag (.escapable name)
    refuseFrames
    modify fun b => { b with dropBreak := true }
  else if name = "xmp" then
    closeParagraph
    reopenFormatting
    refuseFrames
    insertTextElement tag (.raw name)
  else if name = "iframe" then
    refuseFrames
    insertTextElement tag (.raw name)
  else if is ["noembed", "noscript"] then insertTextElement tag (.raw name)
  else if name = "select" then
    if b.inScope ["select"] then popThrough ["select"]
    else
      startRunning tag
      refuseFrames
  else if is ["optgroup", "option"] then
    if b.inScope ["select"] then closeImplied (if name = "option" then "optgroup" else "")
    else if b.currentIsAny ["option"] then pop
    startRunning tag
  else if is ["rb", "rtc"] then
    if b.inScope ["ruby"] then closeImplied ""
    insert tag
  else if is ["rp", "rt"] then
    if b.inScope ["ruby"] then closeImplied "rtc"
    insert tag
  else if name = "math" then
    reopenFormatting
    startForeign .math tag
  else if name = "svg" then
    reopenFormatting
    startForeign .svg tag
  else if is ["caption", "col", "colgroup", "frame", "head", "tbody", "td", "tfoot", "th", "thead",
      "tr"] then pure ()
  else startRunning tag
  pure .done

/-! ## 3. End tags -/

/-- The elements that an end tag closes together with what is open inside them. -/
def closableNames : List String := [
  "address", "article", "aside", "blockquote", "button", "center", "details", "dialog", "dir",
  "div", "dl", "fieldset", "figcaption", "figure", "footer", "header", "hgroup", "listing", "main",
  "menu", "nav", "ol", "pre", "search", "section", "select", "summary", "ul"]

/-- The end of a form. -/
def endForm : Build Unit := do
  let b ← get
  if b.hasOpen "template" then
    if b.inScope ["form"] then
      closeImplied ""
      popThrough ["form"]
  else
    modify fun b => { b with form := none }
    match b.form with
    | none => pure ()
    | some i =>
      let stops := fun j => j = i || b.isAny scopeEnds j || b.isForeignScopeEnd j
      if b.stack.find? stops = some i then
        closeImplied ""
        removeOpen i

/-- Takes an end tag in the body. -/
def stopInBody (name : String) : Build Rest := do
  let b ← get
  let is := fun names : List String => names.contains name
  if name = "template" then endTemplate
  else if name = "body" then
    if b.inScope ["body"] then switchTo .afterBody
  else if name = "html" then
    if b.inScope ["body"] then
      switchTo .afterBody
      return .again (.stop name)
  else if is closableNames then
    if b.inScope [name] then
      closeImplied ""
      popThrough [name]
  else if name = "form" then endForm
  else if name = "p" then
    unless b.inButtonScope ["p"] do insert (bareTag "p")
    closeParagraph
  else if name = "li" then
    if b.inListScope ["li"] then
      closeImplied "li"
      popThrough ["li"]
  else if is ["dd", "dt"] then
    if b.inScope [name] then
      closeImplied name
      popThrough [name]
  else if is headingNames then
    if b.inScope headingNames then
      closeImplied ""
      popThrough headingNames
  else if name = "a" || name = "nobr" || is formattingNames then endFormatting name
  else if is ["applet", "marquee", "object"] then
    if b.inScope [name] then
      closeImplied ""
      popThrough [name]
      clearToBarrier
  else if name = "br" then
    let _ ← startInBody (bareTag "br")
  else closeNamed name
  pure .done

/-! ## 4. All tokens -/

/-- Takes a token in the body. -/
def takeInBody (token : Token) : Build Rest := do
  match token with
  | .text cs => insertRunning cs
  | .comment => insertComment
  | .start tag => return (← startInBody tag)
  | .stop name => return (← stopInBody name)
  | .finish => unless (← get).templateModes.isEmpty do return (← finishTemplate)
  | .null | .doctype _ => pure ()
  pure .done

end Galley.Html.Builder
