import Galley.Html.BodyRules

/-!
# The rules of tables

How tokens are taken inside a table and its parts. What does not belong there is taken by the
rules of the body and put in front of the table.
-/

namespace Galley.Html.Builder

/-- The sections of a table. -/
def sectionNames : List String := ["tbody", "tfoot", "thead"]

/-- The cells of a table. -/
def cellNames : List String := ["td", "th"]

/-- The start tags that end a part of a table. -/
def partNames : List String :=
  ["caption", "col", "colgroup", "tbody", "td", "tfoot", "th", "thead", "tr"]

/-- Takes a token by the rules of the body, with what it makes put in front of the table. -/
def takeFostered (token : Token) : Build Rest := do
  modify fun b => { b with fostering := true }
  let rest ← takeInBody token
  modify fun b => { b with fostering := false }
  pure rest

/-- Closes the open table. -/
def closeTable : Build Unit := do
  popThrough ["table"]
  resetMode

/-- Takes a start tag in a table. -/
def startInTable (tag : Tag) : Build Rest := do
  let b ← get
  let name := tag.name
  let clear := popTo ["table", "template", "html"]
  if name = "caption" then
    clear
    pushBarrier
    insert tag
    switchTo .inCaption
  else if name = "colgroup" then
    clear
    insert tag
    switchTo .inColumnGroup
  else if name = "col" then
    clear
    insert (bareTag "colgroup")
    switchTo .inColumnGroup
    return .again (.start tag)
  else if sectionNames.contains name then
    clear
    insert tag
    switchTo .inTableBody
  else if name = "tr" || cellNames.contains name then
    clear
    insert (bareTag "tbody")
    switchTo .inTableBody
    return .again (.start tag)
  else if name = "table" then
    if b.inTableScope ["table"] then
      closeTable
      return .again (.start tag)
  else if ["style", "script", "template"].contains name then startHeadContent tag
  else if name = "input" && (tag.attrs.lookup "type").map String.toLower = some "hidden" then
    insertVoid tag
  else if name = "form" then
    if !b.hasOpen "template" && b.form.isNone then
      let i ← insertElement .html tag
      modify fun b => { b with form := some i }
      pop
  else return (← takeFostered (.start tag))
  pure .done

/-- Takes a token in a table. -/
def takeInTable (token : Token) : Build Rest := do
  let b ← get
  match token with
  | .null | .text _ =>
    if b.currentIsAny ["table", "tbody", "template", "tfoot", "thead", "tr"] then
      set { b with tableText := [], returnMode := b.mode, mode := .inTableText }
      return .again token
    else return (← takeFostered token)
  | .comment => insertComment
  | .doctype _ => pure ()
  | .start tag => return (← startInTable tag)
  | .stop name =>
    if name = "table" then
      if b.inTableScope ["table"] then closeTable
    else if name = "template" then endTemplate
    else if name = "body" || name = "html" || partNames.contains name then pure ()
    else return (← takeFostered token)
  | .finish => return (← takeInBody token)
  pure .done

/-- Takes a token while the text inside a table is gathered. -/
def takeInTableText (token : Token) : Build Rest := do
  match token with
  | .null => pure .done
  | .text cs => do
    modify fun b => { b with tableText := b.tableText ++ cs }
    pure .done
  | _ => do
    let b ← get
    set { b with mode := b.returnMode, tableText := [] }
    if b.tableText.all isSpace then
      unless b.tableText.isEmpty do insertText b.tableText
    else
      let _ ← takeFostered (.text b.tableText)
    pure (.again token)

/-- Closes the open caption. -/
def closeCaption : Build Unit := do
  closeImplied ""
  popThrough ["caption"]
  clearToBarrier
  switchTo .inTable

/-- Takes a token in a caption. -/
def takeInCaption (token : Token) : Build Rest := do
  let inside := (← get).inTableScope ["caption"]
  let ends := match token with
    | .start tag => partNames.contains tag.name
    | .stop name => name = "table"
    | _ => false
  if ends then
    if inside then
      closeCaption
      return .again token
    else return .done
  match token with
  | .stop name =>
    if name = "caption" then
      if inside then closeCaption
      pure .done
    else if ["body", "html"].contains name || partNames.contains name then pure .done
    else takeInBody token
  | _ => takeInBody token

/-- Takes a token among the columns of a table. -/
def takeInColumnGroup (token : Token) : Build Rest := do
  let other : Build Rest := do
    if (← get).currentIsAny ["colgroup"] then
      pop
      switchTo .inTable
      return .again token
    pure .done
  match token with
  | .text cs =>
    if cs.all isSpace then
      insertText cs
      pure .done
    else other
  | .comment => do
    insertComment
    pure .done
  | .doctype _ => pure .done
  | .start tag =>
    if tag.name = "html" then takeInBody token
    else if tag.name = "col" then
      insertVoid tag
      pure .done
    else if tag.name = "template" then
      startHeadContent tag
      pure .done
    else other
  | .stop name =>
    if name = "colgroup" then
      if (← get).currentIsAny ["colgroup"] then
        pop
        switchTo .inTable
      pure .done
    else if name = "col" then pure .done
    else if name = "template" then
      endTemplate
      pure .done
    else other
  | .finish => takeInBody token
  | .null => other

/-- Closes the open section of a table. -/
def closeSection : Build Unit := do
  popTo ("template" :: "html" :: sectionNames)
  pop
  switchTo .inTable

/-- Takes a token in a section of a table. -/
def takeInTableBody (token : Token) : Build Rest := do
  let b ← get
  let leave : Build Rest := do
    if b.inTableScope sectionNames then
      closeSection
      return .again token
    pure .done
  match token with
  | .start tag =>
    if tag.name = "tr" then
      popTo ("template" :: "html" :: sectionNames)
      insert tag
      switchTo .inRow
      pure .done
    else if cellNames.contains tag.name then
      popTo ("template" :: "html" :: sectionNames)
      insert (bareTag "tr")
      switchTo .inRow
      pure (.again token)
    else if partNames.contains tag.name then leave
    else takeInTable token
  | .stop name =>
    if sectionNames.contains name then
      if b.inTableScope [name] then closeSection
      pure .done
    else if name = "table" then leave
    else if ["body", "html"].contains name || partNames.contains name then pure .done
    else takeInTable token
  | _ => takeInTable token

/-- Closes the open row. -/
def closeRow : Build Unit := do
  popTo ["tr", "template", "html"]
  pop
  switchTo .inTableBody

/-- Takes a token in a row. -/
def takeInRow (token : Token) : Build Rest := do
  let b ← get
  let leave : Build Rest := do
    if b.inTableScope ["tr"] then
      closeRow
      return .again token
    pure .done
  match token with
  | .start tag =>
    if cellNames.contains tag.name then
      popTo ["tr", "template", "html"]
      insert tag
      switchTo .inCell
      pushBarrier
      pure .done
    else if partNames.contains tag.name then leave
    else takeInTable token
  | .stop name =>
    if name = "tr" then
      if b.inTableScope ["tr"] then closeRow
      pure .done
    else if name = "table" then leave
    else if sectionNames.contains name then
      if b.inTableScope [name] then leave else pure .done
    else if ["body", "html"].contains name || partNames.contains name then pure .done
    else takeInTable token
  | _ => takeInTable token

/-- Closes the open cell. -/
def closeCell : Build Unit := do
  closeImplied ""
  popThrough cellNames
  clearToBarrier
  switchTo .inRow

/-- Takes a token in a cell. -/
def takeInCell (token : Token) : Build Rest := do
  let b ← get
  match token with
  | .start tag =>
    if partNames.contains tag.name then
      if b.inTableScope cellNames then
        closeCell
        pure (.again token)
      else pure .done
    else takeInBody token
  | .stop name =>
    if cellNames.contains name then
      if b.inTableScope [name] then
        closeImplied ""
        popThrough [name]
        clearToBarrier
        switchTo .inRow
      pure .done
    else if ["body", "caption", "col", "colgroup", "html"].contains name then pure .done
    else if name = "table" || name = "tr" || sectionNames.contains name then
      if b.inTableScope [name] then
        closeCell
        pure (.again token)
      else pure .done
    else takeInBody token
  | _ => takeInBody token

end Galley.Html.Builder
