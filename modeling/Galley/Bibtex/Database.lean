import Galley.Bibtex.Inheritance
import Galley.Bibtex.Source

/-!
# Databases

A database is read in three steps: its items are taken from the text, the values of their fields
are put together, and entries that point to another entry take over what they lack.
-/

namespace Galley.Bibtex

open Galley.Text

/-! ## 1. Values -/

/-- The abbreviations that are always there. -/
def months : List (String × String) := [
  ("jan", "January"), ("feb", "February"), ("mar", "March"), ("apr", "April"), ("may", "May"),
  ("jun", "June"), ("jul", "July"), ("aug", "August"), ("sep", "September"), ("oct", "October"),
  ("nov", "November"), ("dec", "December")]

/-- The value of an abbreviation, as the first field with its name gives it. -/
def definition? (abbreviations : List Field) (name : String) : Option (List ValuePart) :=
  (abbreviations.find? fun f => f.name == name).map Field.value

/-- The content of a value. Abbreviations are looked up among the given ones first, at most
    `depth` deep. -/
def valueContent? (abbreviations : List Field) (field : String) :
    (depth : Nat) → List ValuePart → Option Content
  | 0, _ => none
  | depth + 1, parts =>
    let partContent? (part : ValuePart) : Option Content :=
      match part with
      | .text cs => contentOf? field cs
      | .abbreviation name =>
        match definition? abbreviations name with
        | some value => valueContent? abbreviations field depth value
        | none => (months.lookup name.toLower).map fun month => Content.ofChars month.toList
    (parts.mapM partContent?).map fun contents => Content.join contents.flatten

/-- The name and the content of a field. -/
def fieldContent? (abbreviations : List Field) (f : Field) : Option (String × Content) :=
  let name := f.name.toLower
  (valueContent? abbreviations name (abbreviations.length + 1) f.value).map fun content =>
    (name, content)

/-- The fields of an entry. Of two fields with one name the later one counts. -/
def fieldContents? (abbreviations fields : List Field) : Option (Dict Content) :=
  (fields.mapM (fieldContent? abbreviations)).map Dict.ofList

/-! ## 2. Works -/

/-- The works that entries spell, where `done` holds those before them. No key may come again. -/
def worksOf? (abbreviations : List Field) (done : List Work) : List Entry → Option (List Work)
  | [] => some done
  | e :: es =>
    if done.any fun w => w.keys.contains e.key then none
    else do
      let fields ← fieldContents? abbreviations e.fields
      worksOf? abbreviations (done ++ [⟨kindOf e.kind, e.key, fields⟩]) es

/-! ## 3. The whole database -/

/-- The entries among items. -/
def entriesOf (items : List Item) : List Entry :=
  items.filterMap fun
    | .entry e => some e
    | _ => none

/-- The abbreviations among items. -/
def abbreviationsOf (items : List Item) : List Field :=
  items.flatMap fun
    | .abbreviations fields => fields
    | _ => []

/-- The works of the database that a text spells. -/
def database? (cs : List Char) : Option (List Work) := do
  let items ← itemsOf? cs
  let works ← worksOf? (abbreviationsOf items) [] (entriesOf items)
  works.mapM (Work.complete? works (works.length + 1))

end Galley.Bibtex
