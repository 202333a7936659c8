import Galley.Label.Disambiguation
import Galley.Log

/-!
# Handing out labels in a run

Every key that is cited is formatted by the formatter and then kept apart from the keys before it.
The labels handed out so far are the state of the run, and the requests are in its log.
-/

namespace Galley.Label

/-- A run that hands out labels. -/
abbrev Labelling := StateT Disambiguator Logged

/-- A label before and after it was kept apart from others. -/
structure Labelled where
  rendered : String
  label : String
  deriving DecidableEq, Repr, Inhabited

/-- The label of the key of a request. -/
def assignLabel (f : Formatter) (b : Bibliography) (r : CitationRequest) : Labelling Labelled :=
  fun d => do
    let rendered ← renderLabel f b r
    let (label, d) := d.assign r.key (b.get? r.key) rendered
    pure (⟨rendered, label⟩, d)

end Galley.Label
