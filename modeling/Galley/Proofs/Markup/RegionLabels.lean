import Galley.Proofs.Label.Run
import Galley.Proofs.Markup.Replacement

/-!
# The labels of region citations

Labelling the occurrences of a text makes one call for each, and all the labels it gives can be read
off the end of the run, since a key keeps its label. Main statement: `value_regionLabels`, the
labels of region citations are those that their keys show after the calls of the body and then of
the regions.
-/

namespace Galley.Markup

open Galley.Label (Call Disambiguator Labelling assignLabel)

variable (f : Formatter) (style : String) (b : Bibliography)

/-- The call for the label of a key, wherever it is cited. -/
def callFor (key : String) : Call :=
  ⟨key, b.get? key, (renderLabel f b ⟨key, style, .text, [], b.keys⟩).value⟩

/-- The calls for the labels of occurrences. -/
def callsFor (os : List Occurrence) : List Call :=
  (os.map Occurrence.key).map (callFor f style b)

theorem value_occurrenceLabel (o : Occurrence) (d : Disambiguator) :
    (occurrenceLabel f style b o d).value =
      ((d.assign o.key (callFor f style b o.key).reference (callFor f style b o.key).rendered).1,
        d.called (callFor f style b o.key)) := rfl

theorem value_mapM_occurrenceLabel (os : List Occurrence) (d : Disambiguator) :
    (os.mapM (occurrenceLabel f style b) d).value =
      (os.map fun o => (d.run (callsFor f style b os)).shown o.key,
        d.run (callsFor f style b os)) := by
  induction os generalizing d with
  | nil => rfl
  | cons o os ih =>
    have hshown := Disambiguator.assign_eq_shown d (callFor f style b o.key) (callsFor f style b os)
    rw [List.mapM_cons]
    simp only [Logged.value_state_bind, Logged.value_state_pure, value_occurrenceLabel, ih]
    exact Prod.ext (congrArg (· :: _) hshown) rfl

/-- The labels handed out for the citations of the body of a text. -/
def bodyHandedOut (cs : List Char) : Disambiguator :=
  Disambiguator.run [] (callsFor f style b (citations (body cs)))

/-- **The labels of region citations** are those that their keys show at the end. -/
theorem value_regionLabels (cs : List Char) :
    (regionLabels f style b cs []).value.1 =
      (regionOccurrences cs).map fun o =>
        ((bodyHandedOut f style b cs).run (callsFor f style b (regionOccurrences cs))).shown
          o.key := by
  rw [regionLabels, Logged.value_state_bind, value_mapM_occurrenceLabel,
    value_mapM_occurrenceLabel]
  rfl

end Galley.Markup
