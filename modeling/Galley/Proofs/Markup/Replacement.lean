import Galley.Markup.Clean

/-!
# Replacing citations

Replacing the citations of a text by what a run gives for them, one by one, is the same as first
running over all occurrences of the text in order and then putting the results in their places.
The first says how the run goes, and the second says which characters change: nothing but the
commands. The same holds of the regions of markup. Main statements: `replaceCitations_eq` and
`resolveRegions_eq`.
-/

namespace Galley.Markup

open Galley.Label (Labelling)

/-! ## 1. Runs over lists -/

section Runs

variable {m : Type → Type} [Monad m] [LawfulMonad m] {α β γ : Type}

/-- A run over two lists, one after the other, whose results are told apart by their number. -/
theorem map_split_mapM (f : List β → List β → γ) (run : α → m β) (xs ys : List α) :
    (fun zs => f (zs.take xs.length) (zs.drop xs.length)) <$> (xs ++ ys).mapM run =
      (do
        let first ← xs.mapM run
        let second ← ys.mapM run
        pure (f first second)) := by
  induction xs generalizing f with
  | nil => simp
  | cons x xs ih =>
    have h (z : β) := ih fun first second => f (z :: first) second
    simp only [List.cons_append, List.mapM_cons, map_bind, map_pure, bind_assoc, pure_bind,
      List.length_cons, List.take_succ_cons, List.drop_succ_cons]
    exact bind_congr fun z => (map_eq_pure_bind _ _).symm.trans (h z)

/-- What is made of every result may be made after the run. -/
theorem mapM_map_eq (f : α → β → γ) (run : α → m β) (xs : List α) :
    xs.mapM (fun x => f x <$> run x) = (fun ys => List.zipWith f xs ys) <$> xs.mapM run := by
  induction xs with
  | nil => simp
  | cons x xs ih => simp [List.mapM_cons, ih]

end Runs

/-! ## 2. Texts in the places of citations -/

/-- Segments with texts in the places of their occurrences, in order. -/
def refill : List Segment → List String → List Char
  | [], _ => []
  | .char c :: ss, texts => c :: refill ss texts
  | .command c :: ss, texts =>
    (String.join (texts.take c.occurrences.length)).toList ++
      refill ss (texts.drop c.occurrences.length)

theorem renderSegments_eq {m : Type → Type} [Monad m] [LawfulMonad m]
    (render : Occurrence → m String) (ss : List Segment) :
    renderSegments render ss =
      refill ss <$> (ss.flatMap Segment.occurrences).mapM render := by
  induction ss with
  | nil => simp [renderSegments, refill]
  | cons s ss ih =>
    cases s with
    | char c =>
      rw [renderSegments, ih]
      simp [refill, Segment.occurrences]
    | command c =>
      rw [renderSegments, ih, List.flatMap_cons]
      have h := map_split_mapM (fun first second => (String.join first).toList ++ refill ss second)
        render c.occurrences (ss.flatMap Segment.occurrences)
      exact Eq.trans (by simp) h.symm

/-- **Replacing citations is a run over the occurrences**, with the results put in their places. -/
theorem replaceCitations_eq {m : Type → Type} [Monad m] [LawfulMonad m]
    (render : Occurrence → m String) (cs : List Char) :
    replaceCitations render cs = refill (segments cs) <$> (citations cs).mapM render :=
  renderSegments_eq render (segments cs)

/-! ## 3. Texts in the places of region citations -/

/-- What a piece cites inside a region. -/
def Piece.occurrences : Piece → List Occurrence
  | .body _ => []
  | .region a => citations a.text

/-- What is cited inside regions, in the order of the text. -/
def regionOccurrences (cs : List Char) : List Occurrence :=
  (regions cs).flatMap fun r => citations r.text

/-- Pieces with texts in the places of what they cite inside regions, in order. -/
def refillRegions : List Piece → List String → List Char
  | [], _ => []
  | .body cs :: ps, texts => cs ++ refillRegions ps texts
  | .region a :: ps, texts =>
    Argument.source { a with
      text := refill (segments a.text) (texts.take (citations a.text).length) } ++
      refillRegions ps (texts.drop (citations a.text).length)

/-- What stands for an occurrence inside a region, where its label is known. -/
def escapedText (o : Occurrence) (label : String) : String :=
  String.ofList (escapeSpecials (Label.inline o label).toList)

/-- Markup with what stands for these labels in the places of its region citations. -/
def withRegionLabels (cs : List Char) (labels : List String) : List Char :=
  refillRegions (pieces cs) (List.zipWith escapedText (regionOccurrences cs) labels)

/-- The labels of all region citations, in order, when those of the body come first. -/
def regionLabels (f : Formatter) (style : String) (b : Bibliography) (cs : List Char) :
    Labelling (List String) := do
  let _ ← (citations (body cs)).mapM (occurrenceLabel f style b)
  (regionOccurrences cs).mapM (occurrenceLabel f style b)

theorem flatMap_regionsFrom (offset : Nat) (ps : List Piece) :
    ((regionsFrom offset ps).flatMap fun r => citations r.text) =
      ps.flatMap Piece.occurrences := by
  induction ps generalizing offset with
  | nil => rfl
  | cons p ps ih =>
    rw [List.flatMap_cons]
    cases p with
    | body cs => exact ih _
    | region a => rw [regionsFrom, List.flatMap_cons, ih]; rfl

theorem mapM_resolvePiece (f : Formatter) (style : String) (b : Bibliography) (ps : List Piece) :
    List.flatten <$> ps.mapM (resolvePiece f style b) =
      refillRegions ps <$> (ps.flatMap Piece.occurrences).mapM (regionText f style b) := by
  induction ps with
  | nil => simp [refillRegions]
  | cons p ps ih =>
    rw [List.mapM_cons, List.flatMap_cons]
    cases p with
    | body cs =>
      have h := congrArg (fun run => (cs ++ ·) <$> run) ih
      simpa [resolvePiece, Piece.occurrences, refillRegions] using h
    | region a =>
      have hsplit := map_split_mapM
        (fun first second => Argument.source { a with text := refill (segments a.text) first } ++
          refillRegions ps second)
        (regionText f style b) (citations a.text) (ps.flatMap Piece.occurrences)
      refine Eq.trans ?_ hsplit.symm
      rw [resolvePiece, replaceCitations_eq]
      simp only [map_bind, bind_assoc, bind_map_left, pure_bind, map_pure]
      refine bind_congr fun first => ?_
      have h := congrArg (fun run => (Argument.source
        { a with text := refill (segments a.text) first } ++ ·) <$> run) ih
      simpa using h

theorem regionText_eq (f : Formatter) (style : String) (b : Bibliography) :
    regionText f style b = fun o => escapedText o <$> occurrenceLabel f style b o := by
  funext o
  rw [map_eq_pure_bind]
  rfl

/-- **Resolving regions is a run over the citations of the body and then of the regions**, whose
    labels are put in the places of the region citations. -/
theorem resolveRegions_eq (f : Formatter) (style : String) (b : Bibliography) (cs : List Char) :
    resolveRegions f style b cs = withRegionLabels cs <$> regionLabels f style b cs := by
  have hregions : regionOccurrences cs = (pieces cs).flatMap Piece.occurrences :=
    flatMap_regionsFrom 0 (pieces cs)
  have hpieces := mapM_resolvePiece f style b (pieces cs)
  rw [regionText_eq, mapM_map_eq, ← hregions] at hpieces
  rw [resolveRegions, regionLabels, map_bind]
  refine bind_congr fun _ => ?_
  rw [← map_eq_pure_bind, hpieces, Functor.map_map]
  rfl

end Galley.Markup
