import Galley.Config.Basic
import Galley.Html.Import
import Galley.Text.Percent

/-!
# Reference list and front matter

The formatted reference list becomes one paragraph an entry behind a heading. Abstract, keywords
and the badge of the DOI come before the text, each only when it is given.
-/

namespace Galley

open Galley.Text

/-! ## 1. The reference list -/

/-- A text without its outermost `div`: the first start tag and the last end tag behind it. -/
def unwrapOuterDiv (cs : List Char) : List Char :=
  let unwrapped := do
    let (front, rest) ← cut? "<div".toList cs
    let (_, inside) ← cut? ['>'] rest
    let (content, back) ← cutLast? "</div>".toList inside
    some (front ++ content ++ back)
  unwrapped.getD cs

/-- The rule that writes `new` for a tag that begins with `old`, when its name ends there. -/
def renameTag (old new : List Char) : Rule := fun cs =>
  (after? old cs).bind fun rest =>
    if rest.head?.any isWordChar then none else some (new, rest)

/-- A text with paragraphs for its divisions. -/
def divsToParagraphs (cs : List Char) : List Char :=
  replaceAll ((renameTag "<div".toList "<p".toList).orElse
    (renameTag "</div".toList "</p".toList)) cs

/-- The lines of a reference list that hold an entry. -/
def entryLines (html : String) : List String :=
  let lines := splitLines (divsToParagraphs (unwrapOuterDiv html.toList))
  (lines.map trimChars |>.filter fun line => !line.isEmpty).map String.ofList

/-- The entries of a formatted reference list. -/
def bibliographyNodes (html : String) : Except Failure (List Node) :=
  (entryLines html).mapM Html.importNode

/-- The heading of the reference list and its entries; nothing without entries. -/
def referencesSection (config : HeadingsConfig) (entries : List Node) : Fragment :=
  if entries.isEmpty then []
  else .heading 1 Dict.empty [.plain config.referencesTitle] :: entries

/-! ## 2. Front matter -/

/-- The address of the badge's dialog. -/
def crossmarkHref (config : CrossmarkConfig) (doi : String) : String :=
  config.dialogUrl ++ "?doi=" ++ percentEncode doi ++ "&domain=" ++ config.domain ++
    "&uri_scheme=https%3A&cm_version=v2.0"

/-- What comes before the text. -/
structure FrontMatter where
  /-- The abstract, in HTML. -/
  abstract : Option String
  keywords : Option String
  doi : Option String
  deriving DecidableEq, Repr, Inhabited

/-- The heading of the abstract. -/
def abstractHeading (config : HeadingsConfig) : Node :=
  .heading 1
    (Dict.ofList [("id", .string config.abstractId), ("fixedId", .string config.abstractId)])
    [.plain config.abstractTitle]

/-- The paragraph of the keywords. -/
def keywordsParagraph (config : HeadingsConfig) (keywords : String) : Node :=
  .paragraph [.text config.keywordsLabel [.strong], .text keywords [.em]]

/-- The badge of a DOI. -/
def crossmarkBadge (config : CrossmarkConfig) (doi : String) : Node :=
  .image <| Dict.ofList [
    ("url", .string config.logoUrl),
    ("size", Json.nat config.size),
    ("align", .string config.align),
    ("hideLabel", .bool true),
    ("href", .string (crossmarkHref config doi))]

/-- The heading and the text of an abstract. -/
def abstractNodes (config : HeadingsConfig) (html : String) : Except Failure Fragment := do
  let text ← Html.importFragment html
  .ok (abstractHeading config :: text)

/-- The nodes of the front matter. -/
def FrontMatter.nodes (front : FrontMatter) (headings : HeadingsConfig)
    (crossmark : CrossmarkConfig) : Except Failure Fragment := do
  let abstract ← match front.abstract with
    | some html => abstractNodes headings html
    | none => .ok []
  let keywords := front.keywords.toList.map (keywordsParagraph headings)
  let badge := front.doi.toList.flatMap fun doi =>
    [crossmarkBadge crossmark doi, .emptyParagraph, .emptyParagraph]
  .ok (abstract ++ keywords ++ badge)

end Galley
