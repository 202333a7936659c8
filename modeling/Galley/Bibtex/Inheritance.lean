import Galley.Bibtex.Date
import Galley.Bibtex.Person
import Galley.Dict

/-!
# Inheritance

A work may point to others, from which it takes over what it lacks. Its kind says which fields it
takes, the kind of the other work where the title of a container comes from. A date is taken over
even by a work that has one.
-/

namespace Galley.Bibtex

open Galley.Text

/-- An entry whose fields have been read. -/
structure Work where
  kind : String
  key : String
  /-- The fields, with their names in small letters. -/
  fields : Dict Content

/-! ## 1. Fields -/

/-- The text of a field, if the work has the field. -/
def Work.text? (w : Work) (field : String) : Option String :=
  (w.fields.get? field).map Content.text

/-- A field as it is written, if the work has the field. -/
def Work.written? (w : Work) (field : String) : Option (List Char) :=
  (w.fields.get? field).map Content.written

/-- The items of a field with commas between them. -/
def Work.listed (w : Work) (field : String) : List String :=
  match w.fields.get? field with
  | some content => (commaParts content).map partText
  | none => []

/-- The key of a work and its other keys. -/
def Work.keys (w : Work) : List String :=
  w.key :: w.listed "ids"

/-- The work with the given key, the last one if several have it among their keys. -/
def find? (works : List Work) (key : String) : Option Work :=
  works.reverse.find? fun w => w.keys.contains key

/-! ## 2. Kinds of entries -/

/-- The kinds of entries. -/
def kinds : List String := [
  "article", "book", "booklet", "inbook", "incollection", "inproceedings", "manual",
  "mastersthesis", "phdthesis", "misc", "proceedings", "techreport", "unpublished", "mvbook",
  "bookinbook", "suppbook", "periodical", "suppperiodical", "collection", "mvcollection",
  "suppcollection", "reference", "mvreference", "inreference", "mvproceedings", "report", "patent",
  "thesis", "online", "software", "dataset", "set", "xdata"]

/-- Other names of kinds. -/
def kindAliases : List (String × String) :=
  [("conference", "inproceedings"), ("electronic", "online"), ("www", "online")]

/-- The kind that a name stands for. -/
def kindOf (name : String) : String :=
  let name := (kindAliases.lookup name).getD name
  if kinds.contains name then name else "unknown"

/-- The fields that a work of the given kind takes over from another. A title is never taken
    over. -/
def inherited (kind : String) : List String :=
  match kind with
  | "article" | "suppperiodical" =>
    ["author", "editor", "volume", "number", "issue", "pages", "journaltitle", "doi", "url"]
  | "periodical" => ["editor", "volume", "number", "issue", "doi", "url"]
  | "book" => ["author", "editor", "volume", "number", "pages", "publisher", "doi", "url"]
  | "collection" | "proceedings" | "reference" =>
    ["editor", "volume", "number", "pages", "publisher", "doi", "url"]
  | "mvbook" => ["author", "editor", "number", "publisher", "doi", "url"]
  | "mvcollection" | "mvproceedings" | "mvreference" | "unknown" =>
    ["editor", "number", "publisher", "doi", "url"]
  | "inbook" | "incollection" | "inproceedings" | "inreference" | "bookinbook" | "suppbook"
  | "suppcollection" =>
    ["author", "editor", "volume", "number", "pages", "publisher", "booktitle", "doi", "url"]
  | "booklet" => ["author", "editor", "pages", "doi", "url"]
  | "manual" => ["author", "editor", "pages", "publisher", "doi", "url"]
  | "mastersthesis" | "phdthesis" => ["author", "school", "doi", "url"]
  | "thesis" => ["author", "pages", "institution", "doi", "url"]
  | "techreport" => ["author", "number", "institution", "doi", "url"]
  | "report" => ["author", "number", "pages", "institution", "doi", "url"]
  | "patent" => ["author", "number", "doi", "url"]
  | "dataset" => ["author", "editor", "number", "publisher", "doi", "url"]
  | "misc" | "software" => ["author", "editor", "doi", "url"]
  | "online" => ["author", "editor", "url"]
  | "unpublished" => ["author", "doi", "url"]
  | _ => []

/-- The kinds of works whose title is the title of a container. -/
def containerKinds : List String :=
  ["book", "collection", "periodical", "proceedings", "reference"]

/-! ## 3. Taking over -/

/-- What a work takes over from `source` for a field. -/
def sourceField? (source : Work) (field : String) : Option Content :=
  match field with
  | "booktitle" =>
    source.fields.get? (if containerKinds.contains source.kind then "title" else "booktitle")
  | "journaltitle" =>
    if source.kind = "periodical" then source.fields.get? "title"
    else (source.fields.get? "journaltitle").or (source.fields.get? "journal")
  | "institution" | "school" =>
    (source.fields.get? "institution").or (source.fields.get? "school")
  | "title" => none
  | field => source.fields.get? field

/-- A work with a field from `source`, if it lacks the field. -/
def Work.takeField (source w : Work) (field : String) : Work :=
  if w.fields.contains field then w
  else match sourceField? source field with
    | some content => { w with fields := w.fields.insert field content }
    | none => w

/-- A work with the given date and no other. -/
def Work.withDate (w : Work) (date : List Char) : Work :=
  let others := w.fields.entries.filter fun f => !(["year", "month", "day"].contains f.1)
  { w with fields := (Dict.ofList others).insert "date" (Content.ofChars date) }

/-- A work with the date of `source`, if that has one and the kind of the work asks for one. There
    is no result if the year of `source` is none. -/
def Work.takeDate? (source w : Work) : Option Work :=
  if w.kind = "misc" then some w
  else match source.written? "date", source.written? "year" with
    | some date, _ => some (w.withDate (settledDate date))
    | none, some year => (settledYear? year).map w.withDate
    | none, none => some w

/-- A work with what it lacks taken from `source`. -/
def Work.inherit? (w source : Work) : Option Work :=
  let fields := if w.kind = "xdata" then source.fields.keys else inherited w.kind
  Work.takeDate? source (fields.foldl (Work.takeField source) w)

/-- A work with what it lacks taken from the works that it points to, which are completed first,
    at most `depth` deep. -/
def Work.complete? (works : List Work) : (depth : Nat) → Work → Option Work
  | 0, _ => none
  | depth + 1, w =>
    let crossref := (w.written? "crossref").toList.map String.ofList
    let sources := (crossref ++ w.listed "xdata").filterMap (find? works)
    sources.foldlM (fun w source => do w.inherit? (← Work.complete? works depth source)) w

end Galley.Bibtex
