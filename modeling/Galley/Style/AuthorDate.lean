import Galley.Render.Rich
import Galley.Style.Formatter
import Galley.Text.Lowercase

/-!
# The author-date style

Labels such as "(Lee & Kim, 2021)" and a reference list sorted by first family name and year. The
style has one form, whatever style name is asked for.
-/

namespace Galley.AuthorDate

/-- What stands for a year that is not known. -/
def noDate : String := "n.d."

/-- The year as it is shown. -/
def yearText (r : Reference) : String :=
  r.year.getD noDate

/-! ## 1. Labels -/

/-- The authors as a label names them; the title, or else the identifier, of a work without
    names. -/
def labelAuthors (r : Reference) : String :=
  match r.names with
  | [] => r.title.getD r.id
  | [only] => only.family
  | [first, second] => first.family ++ " & " ++ second.family
  | first :: _ => first.family ++ " et al."

/-- The label of a work. -/
def label (r : Reference) : Rich :=
  .affix "(" (.text (labelAuthors r ++ ", " ++ yearText r)) ")"

/-! ## 2. Entries of the reference list -/

/-- A name with the family name first. -/
def invertedName (n : Name) : String :=
  if n.initials.isEmpty then n.family else n.family ++ ", " ++ n.initials

/-- Names with commas between them and an ampersand before the last. -/
def nameList (names : List Name) : String :=
  match (names.map invertedName).reverse with
  | [] => ""
  | [only] => only
  | last :: rest => ", ".intercalate rest.reverse ++ ", & " ++ last

/-- The people behind a work, marked when they are its editors. -/
def contributors (r : Reference) : String :=
  nameList r.names ++
    if r.authors.isEmpty then (if 1 < r.names.length then " (Eds.)" else " (Ed.)") else ""

/-- The title, emphasised when the work does not appear in another. -/
def styledTitle (r : Reference) : Rich :=
  let title := .text (r.title.getD "")
  if r.containerTitle.isSome then title else .emph title

/-- The year in parentheses. -/
def yearPart (r : Reference) : Rich :=
  .text ("(" ++ yearText r ++ ").")

/-- Who, when and what, in the order of the style. -/
def headParts (r : Reference) : List Rich :=
  let title := Rich.affix "" (styledTitle r) "."
  if r.names.isEmpty then [title, yearPart r]
  else
    [.text (contributors r), yearPart r] ++
      if (r.title.getD "").isEmpty then [] else [title]

/-- Volume and issue behind the title of the container. -/
def volumeParts (r : Reference) : List Rich :=
  match r.volume with
  | none => []
  | some volume =>
    .emph (.text volume) ::
      match r.issue with
      | none => []
      | some issue => [.text ("(" ++ issue ++ ")")]

/-- Every pair of hyphens becomes a dash. -/
def dashed : List Char → List Char
  | '-' :: '-' :: cs => '–' :: dashed cs
  | c :: cs => c :: dashed cs
  | [] => []

/-- The pages of a work in a container. -/
def pagesParts (r : Reference) : List Rich :=
  match r.pages with
  | none => []
  | some pages => [.text (", " ++ String.ofList (dashed pages.toList))]

/-- Where the work appeared. -/
def sourceParts (r : Reference) : List Rich :=
  match r.containerTitle with
  | some container =>
    let title := Rich.emph (.text container)
    let head := if r.volume.isSome then Rich.affix "" title ", " else title
    [.affix "" (.join (head :: volumeParts r ++ pagesParts r) "") "."]
  | none =>
    match r.publisher with
    | some publisher => [.text (publisher ++ ".")]
    | none => []

/-- Where the work can be found: the address of its DOI, or else its own. -/
def linkParts (r : Reference) : List Rich :=
  match r.doi with
  | some doi =>
    let url := "https://doi.org/" ++ doi
    [.link url (.text url)]
  | none =>
    match r.url with
    | some url => [.link url (.text url)]
    | none => []

/-- The entry of a work. -/
def entry (r : Reference) : Rich :=
  .entry r.id (.join (headParts r ++ sourceParts r ++ linkParts r) " ")

/-! ## 3. The reference list -/

/-- What the list is sorted by: the first family name in small letters, or else the title, and
    then the year. -/
def sortKey (r : Reference) : String × String :=
  let primary := (r.firstName?.map Name.family).getD (r.title.getD "")
  (Text.toLower primary, r.year.getD "")

/-- The order of sort keys. -/
def keyLe (a b : String × String) : Bool :=
  a.1 < b.1 || (a.1 == b.1 && (a.2 < b.2 || a.2 == b.2))

/-- The references of a bibliography in sorted order; those with equal keys keep the order of the
    database. -/
def sorted (b : Bibliography) : List Reference :=
  (b.values.map fun r => (sortKey r, r)).mergeSort (fun x y => keyLe x.1 y.1) |>.map Prod.snd

/-- The reference list of a bibliography. -/
def referenceList (b : Bibliography) : Rich :=
  .bibliography ((sorted b).map entry)

/-! ## 4. The formatter -/

/-- Formatted text in the markup that is asked for. -/
def render (output : Output) (r : Rich) : String :=
  match output with
  | .text => r.plain
  | .html => r.html

/-- The author-date style as a formatter. -/
def formatter : Formatter where
  citation b request :=
    match b.get? request.key with
    | some r => .ok (render request.output (label r))
    | none => .error (.unknownReference request.key)
  bibliography b _ output := .ok (render output (referenceList b))

end Galley.AuthorDate
