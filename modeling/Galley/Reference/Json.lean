import Galley.Reference.Basic
import Galley.Record

/-!
# References as JSON

Field names are written with hyphens. What a reference lacks is null; on reading it may also be
left out.
-/

namespace Galley

namespace Name

/-- The name that a value spells; the given name may be left out. -/
def ofJson? (v : Json) : Option Name := do
  let r ← Record.read? ["family", "given"] v
  let family ← r.required? "family" Json.asString?
  let given ← r.withDefault? "given" Json.asString? ""
  some ⟨family, given⟩

/-- A name as a value. -/
def toJson (n : Name) : Json :=
  .object [("family", .string n.family), ("given", .string n.given)]

end Name

namespace Reference

/-- The fields of a reference, in order. -/
def fieldNames : List String :=
  ["id", "entry-type", "author", "editor", "title", "year", "container-title", "volume", "issue",
    "pages", "publisher", "doi", "url"]

/-- The reference that a value spells. -/
def ofJson? (v : Json) : Option Reference := do
  let r ← Record.read? fieldNames v
  let text := fun name => r.optional? name Json.asString?
  some {
    id := ← r.required? "id" Json.asString?
    entryType := ← r.required? "entry-type" Json.asString?
    authors := ← r.withDefault? "author" (readAll? Name.ofJson?) []
    editors := ← r.withDefault? "editor" (readAll? Name.ofJson?) []
    title := ← text "title"
    year := ← text "year"
    containerTitle := ← text "container-title"
    volume := ← text "volume"
    issue := ← text "issue"
    pages := ← text "pages"
    publisher := ← text "publisher"
    doi := ← text "doi"
    url := ← text "url" }

/-- A reference as a value, with all its fields. -/
def toJson (r : Reference) : Json :=
  .object [
    ("id", .string r.id),
    ("entry-type", .string r.entryType),
    ("author", .array (r.authors.map Name.toJson)),
    ("editor", .array (r.editors.map Name.toJson)),
    ("title", Json.text? r.title),
    ("year", Json.text? r.year),
    ("container-title", Json.text? r.containerTitle),
    ("volume", Json.text? r.volume),
    ("issue", Json.text? r.issue),
    ("pages", Json.text? r.pages),
    ("publisher", Json.text? r.publisher),
    ("doi", Json.text? r.doi),
    ("url", Json.text? r.url)]

end Reference

end Galley
