import Galley.Bibtex.Reference
import Galley.Label.Assignment
import Galley.Label.Inline
import Galley.Markup.CitationCommand
import Galley.Markup.Environment
import Galley.Markup.Region

/-!
# Clean markup

Before a tree is built from markup, its environments are rearranged, and citations inside
footnotes and captions become plain text, since the tree will have no citations there. The
citations of the body are labelled first, so that a key has one label everywhere.
-/

namespace Galley.Markup

open Galley.Label (Labelling assignLabel)

/-- A text with a backslash before every percent sign and ampersand. -/
def escapeSpecials (cs : List Char) : List Char :=
  cs.flatMap fun c => if c = '%' || c = '&' then ['\\', c] else [c]

/-- The label of an occurrence. Every key of the bibliography counts as cited after it. -/
def occurrenceLabel (f : Formatter) (style : String) (b : Bibliography) (o : Occurrence) :
    Labelling String := do
  let labelled ← assignLabel f b ⟨o.key, style, .text, [], b.keys⟩
  pure labelled.label

/-- What stands for an occurrence inside a region. -/
def regionText (f : Formatter) (style : String) (b : Bibliography) (o : Occurrence) :
    Labelling String := do
  let label ← occurrenceLabel f style b o
  pure (String.ofList (escapeSpecials (Label.inline o label).toList))

/-- A piece of markup with the citations of regions resolved. -/
def resolvePiece (f : Formatter) (style : String) (b : Bibliography) :
    Piece → Labelling (List Char)
  | .body cs => pure cs
  | .region a => do
    let text ← replaceCitations (regionText f style b) a.text
    pure (Argument.source { a with text := text })

/-- Markup with the citations of regions resolved, the citations of the body labelled first. -/
def resolveRegions (f : Formatter) (style : String) (b : Bibliography) (cs : List Char) :
    Labelling (List Char) := do
  let _ ← (citations (body cs)).mapM (occurrenceLabel f style b)
  let resolved ← (pieces cs).mapM (resolvePiece f style b)
  pure resolved.flatten

/-- The bibliography of a run: the one that is given, or else the one that is embedded in the
    markup. -/
def bibliographyFor (given : Option Bibliography) (cs : List Char) :
    Except Failure (Logged Bibliography) :=
  match given, embeddedBibliography? cs with
  | some b, _ => .ok (pure b)
  | none, some source => (Bibtex.bibliography (String.ofList source)).map pure
  | none, none => .ok do
    Logged.warn .noBibliography
    pure Dict.empty

/-- Markup as a tree can be built from it. -/
def clean (config : Config) (f : Formatter) (given : Option Bibliography) (tex : String) :
    Except Failure (Logged String) := do
  let found ← bibliographyFor given tex.toList
  let arranged := restructure config.preclean tex.toList
  .ok do
    let b ← found
    let (cleaned, _) ← resolveRegions f config.style b arranged []
    pure (String.ofList cleaned)

end Galley.Markup
