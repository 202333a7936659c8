import Galley.Bibtex.Database
import Galley.Failure

/-!
# References from a database

A reference is made from the fields of a work. The key of an entry can also be found without
reading the entry.
-/

namespace Galley.Bibtex

open Galley.Text

/-- The text of the first of some fields that a work has. -/
def Work.firstOf? (w : Work) (fields : List String) : Option String :=
  fields.findSome? w.text?

/-- The people in a field. -/
def Work.people (w : Work) (field : String) : List Name :=
  match w.fields.get? field with
  | some content => peopleOf content
  | none => []

/-- The year of a work: its year field, or else the first four characters of its date. A blank
    year is no year. -/
def Work.year? (w : Work) : Option String :=
  let fromDate (date : String) : String := String.ofList (date.toList.take 4)
  ((w.text? "year").or ((w.text? "date").map fromDate)).filter fun year => !isBlankText year

/-- The reference that a work makes. -/
def Work.reference (w : Work) : Reference where
  id := w.key
  entryType := w.kind
  authors := w.people "author"
  editors := ["editor", "editora", "editorb", "editorc"].flatMap w.people
  title := w.text? "title"
  year := w.year?
  containerTitle := w.firstOf? ["journaltitle", "journal", "booktitle"]
  volume := w.text? "volume"
  issue := w.firstOf? ["number", "issue"]
  pages := w.text? "pages"
  publisher := w.firstOf? ["publisher", "institution"]
  doi := w.text? "doi"
  url := w.text? "url"

/-- The bibliography that a database spells. -/
def bibliography (s : String) : Except Failure Bibliography :=
  match database? s.toList with
  | some works => .ok (Dict.ofList (works.map fun w => (w.key, w.reference)))
  | none => .error .malformedBibliography

/-- The reference with the given key in a database. -/
def referenceIn (s key : String) : Except Failure (Option Reference) :=
  match database? s.toList with
  | some works => .ok ((find? works key).map Work.reference)
  | none => .error .malformedBibliography

/-! ## Keys -/

/-- `cs` from its next character on that is no blank. -/
def skipBlanks (cs : List Char) : List Char :=
  cs.dropWhile isBlank

/-- The key behind an at sign: a word, a brace, and the key up to a blank or a comma, with a comma
    behind it. -/
def keyAhead? (cs : List Char) : Option (List Char) := do
  let rest ← after? ['\x7b'] (skipBlanks (cs.dropWhile isWordChar))
  let isKeyChar := fun c => c != ',' && !isBlank c
  let rest := skipBlanks rest
  let key := rest.takeWhile isKeyChar
  guard !key.isEmpty
  let _ ← after? [','] (skipBlanks (rest.dropWhile isKeyChar))
  some key

/-- The first key that stands in a text in the form of an entry. -/
def keyIn? : List Char → Option (List Char)
  | [] => none
  | c :: cs =>
    match if c = '@' then keyAhead? cs else none with
    | some key => some key
    | none => keyIn? cs

/-- The key of a raw entry such as "@article\x7blee2021, …\x7d". -/
def entryKey? (entry : String) : Option String :=
  (keyIn? entry.toList).map String.ofList

end Galley.Bibtex
