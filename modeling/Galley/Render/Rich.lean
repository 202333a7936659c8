/-!
# Formatted text

Formatted text is a value: what is emphasised, linked, joined or framed. It is written in two
ways, as HTML and as plain text, and both are read off the same value.
-/

namespace Galley

/-- Formatted text. -/
inductive Rich where
  | text (s : String)
  | emph (content : Rich)
  | link (url : String) (content : Rich)
  /-- Content between two strings that are written as they are. -/
  | affix (before : String) (content : Rich) (after : String)
  /-- Items with a string between them that is written as it is. -/
  | join (items : List Rich) (delimiter : String)
  /-- One entry of the reference list. -/
  | entry (id : String) (content : Rich)
  /-- The reference list, one entry a line. -/
  | bibliography (entries : List Rich)
  deriving Inhabited

namespace Rich

/-! ## 1. HTML -/

/-- One character of running text in HTML. -/
def escapedTextChar (c : Char) : List Char :=
  if c = '&' then "&amp;".toList
  else if c = '<' then "&lt;".toList
  else if c = '>' then "&gt;".toList
  else [c]

/-- One character of a quoted attribute in HTML. -/
def escapedAttributeChar (c : Char) : List Char :=
  if c = '"' then "&quot;".toList else escapedTextChar c

/-- Running text in HTML. -/
def escapeText (s : String) : String :=
  String.ofList (s.toList.flatMap escapedTextChar)

/-- The value of a quoted attribute in HTML. -/
def escapeAttribute (s : String) : String :=
  String.ofList (s.toList.flatMap escapedAttributeChar)

/-- Emphasis in HTML; empty content stays empty. -/
def htmlEmph (content : String) : String :=
  if content.isEmpty then content else "<i>" ++ content ++ "</i>"

/-- A link in HTML; empty content stays empty. -/
def htmlLink (url content : String) : String :=
  if content.isEmpty then content
  else "<a href=\"" ++ escapeAttribute url ++ "\">" ++ content ++ "</a>"

mutual

/-- Formatted text as HTML. -/
def html : Rich → String
  | .text s => escapeText s
  | .emph content => htmlEmph content.html
  | .link url content => htmlLink url content.html
  | .affix before content after => before ++ content.html ++ after
  | .join items delimiter => delimiter.intercalate (htmls items)
  | .entry _ content => "  <div class=\"csl-entry\">" ++ content.html ++ "</div>"
  | .bibliography entries =>
    "<div class=\"csl-bib-body\">\n" ++ "\n".intercalate (htmls entries) ++ "\n</div>"

/-- Items as HTML. -/
def htmls : List Rich → List String
  | [] => []
  | r :: rs => html r :: htmls rs

end

/-! ## 2. Plain text -/

mutual

/-- Formatted text without its formatting. -/
def plain : Rich → String
  | .text s => s
  | .emph content => content.plain
  | .link _ content => content.plain
  | .affix before content after => before ++ content.plain ++ after
  | .join items delimiter => delimiter.intercalate (plains items)
  | .entry _ content => content.plain
  | .bibliography entries => "\n".intercalate (plains entries)

/-- Items without their formatting. -/
def plains : List Rich → List String
  | [] => []
  | r :: rs => plain r :: plains rs

end

theorem htmls_eq_map (rs : List Rich) : htmls rs = rs.map html := by
  induction rs with
  | nil => rfl
  | cons r rs ih => simp [htmls, ih]

theorem plains_eq_map (rs : List Rich) : plains rs = rs.map plain := by
  induction rs with
  | nil => rfl
  | cons r rs ih => simp [plains, ih]

end Rich

end Galley
