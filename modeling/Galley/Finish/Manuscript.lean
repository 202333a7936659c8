import Galley.Finish.Assembly
import Galley.Finish.Relabel
import Galley.Finish.Structure
import Galley.Markup.CitationCommand
import Galley.Tree.Json

/-!
# Finishing a document

A tree that was built from markup is finished: its citations get labels, its tables captions, and
front matter and reference list are put around it. What is odd in the document is only warned
about; a run fails only when the formatter gives no reference list, or when that list or the
abstract cannot be imported.
-/

namespace Galley

/-- What a document is finished with. -/
structure Manuscript where
  /-- The markup that the tree was built from. -/
  tex : String
  bibliography : Option Bibliography
  /-- The abstract, in HTML. -/
  abstract : Option String
  keywords : Option String
  doi : Option String
  /-- What is said about funding, which is handed on as it is. -/
  funding : Option Attrs
  deriving Inhabited

/-- A finished document. -/
structure Finished where
  doc : Node
  funding : Option Attrs

/-- A text that has something to see in it. -/
def nonBlank (s : Option String) : Option String :=
  s.filter fun s => !Text.isBlankText s

namespace Manuscript

/-- What comes before the text. Blank texts count as missing. -/
def frontMatter (m : Manuscript) : FrontMatter :=
  ⟨nonBlank m.abstract, nonBlank m.keywords, nonBlank m.doi⟩

/-- The citations of a tree, and the tree with their labels. -/
def relabel (config : Config) (f : Formatter) (m : Manuscript) (doc : Fragment) :
    Logged (CitationStore × Fragment) := do
  let occurrences := Markup.citations m.tex.toList
  let collected ← CitationStore.collect doc m.bibliography
  let store ← collected.resolve f config.style
  let (doc, count) ← (relabelNodes store occurrences doc).run 0
  unless count = occurrences.length do
    Logged.warn (.countsDiffer count occurrences.length)
  pure (store, doc)

/-- The text of a document: its tree with labels, and with headings and tables in order, beside
    the references that are cited in it. -/
def text (config : Config) (f : Formatter) (m : Manuscript) (doc : Fragment) :
    Logged (Bibliography × Fragment) := do
  let (store, doc) ← relabel config f m doc
  let doc := blankAbstracts config.headings m.frontMatter.abstract.isSome doc
  let doc ← captionTables config.tables (Markup.tableCaptions m.tex.toList) doc
  pure (store.database, doc)

/-- The reference list of a bibliography, behind its heading. -/
def references (config : Config) (f : Formatter) (b : Bibliography) : Except Failure Fragment := do
  let html ← f.bibliography b config.style .html
  let entries ← bibliographyNodes html
  .ok (referencesSection config.headings entries)

/-- The nodes of the finished document. -/
def nodes (config : Config) (f : Formatter) (m : Manuscript) (doc : Fragment) :
    Except Failure (Logged Fragment) := do
  let text := text config f m doc
  let references ← references config f (m.bibliography.getD text.value.1)
  let front ← m.frontMatter.nodes config.headings config.crossmark
  .ok do
    let (_, doc) ← text
    pure (front ++ (doc ++ references))

/-- The finished document. -/
def finish (config : Config) (f : Formatter) (m : Manuscript) (doc : Fragment) :
    Except Failure (Logged Finished) := do
  let nodes ← m.nodes config f doc
  .ok do
    let nodes ← nodes
    pure ⟨Fragment.toDoc nodes, m.funding⟩

end Manuscript

/-- A finished document as a value. -/
def Finished.toJson (d : Finished) : Json :=
  .object [
    ("doc", d.doc.toJson),
    ("funding", match d.funding with
      | some funding => .object funding.entries
      | none => .null)]

end Galley
