import Galley.Proofs.Markup.LineBreaks
import Galley.Proofs.Markup.Shown

/-!
# Escaped text

Escaping puts a backslash before every special character. Taking these away gives the text back,
whatever it was. But a text that has escapes already has two backslashes before its special
characters then. Main statement: `OnlyEscapes.escapedOnce_iff`.
-/

namespace Galley.Markup

open Galley.Text

/-! ## 1. Escaped text -/

/-- A special character: one that escaping puts a backslash before. -/
def needsEscape (c : Char) : Bool := c = '%' || c = '&'

/-- Directly before every special character stands exactly one backslash. -/
def EscapedOnce (cs : List Char) : Prop :=
  ∀ front c rest, cs = front ++ c :: rest → needsEscape c = true → backslashesAtEnd front = 1

/-- Directly behind every backslash stands a special character. -/
def OnlyEscapes (cs : List Char) : Prop :=
  ∀ front rest, cs = front ++ '\\' :: rest → rest.head?.any needsEscape = true

/-- A text without the backslashes that stand directly before special characters. -/
def withoutEscapes : List Char → List Char
  | [] => []
  | c :: cs =>
    if c = '\\' ∧ cs.head?.any needsEscape = true then withoutEscapes cs else c :: withoutEscapes cs

variable {cs ds : List Char}

theorem ne_backslash_of_needsEscape {c : Char} (h : needsEscape c = true) : c ≠ '\\' := by
  rintro rfl
  cases h

theorem escapeSpecials_cons (c : Char) (cs : List Char) :
    escapeSpecials (c :: cs) =
      if needsEscape c = true then '\\' :: c :: escapeSpecials cs else c :: escapeSpecials cs := by
  by_cases h : needsEscape c = true
  · rw [if_pos h, escapeSpecials, List.flatMap_cons, if_pos (by simpa [needsEscape] using h)]
    rfl
  · rw [if_neg h, escapeSpecials, List.flatMap_cons, if_neg (by simpa [needsEscape] using h)]
    rfl

theorem escapeSpecials_append (cs ds : List Char) :
    escapeSpecials (cs ++ ds) = escapeSpecials cs ++ escapeSpecials ds := List.flatMap_append

/-- No escaped text begins with a special character. -/
theorem head?_escapeSpecials (cs : List Char) :
    (escapeSpecials cs).head?.any needsEscape = false := by
  cases cs with
  | nil => rfl
  | cons c cs =>
    rw [escapeSpecials_cons]
    split
    · rfl
    · next h => exact (Bool.not_eq_true _).mp h

/-- **Taking the escapes away undoes escaping**, of any text. -/
theorem withoutEscapes_escapeSpecials (cs : List Char) :
    withoutEscapes (escapeSpecials cs) = cs := by
  induction cs with
  | nil => rfl
  | cons c cs ih =>
    rw [escapeSpecials_cons]
    split
    · next h =>
      rw [withoutEscapes, if_pos ⟨rfl, h⟩, withoutEscapes,
        if_neg fun hc => ne_backslash_of_needsEscape h hc.1, ih]
    · have hno : ¬ (c = '\\' ∧ (escapeSpecials cs).head?.any needsEscape = true) := fun hc =>
        Bool.noConfusion ((head?_escapeSpecials cs).symm.trans hc.2)
      rw [withoutEscapes, if_neg hno, ih]

/-- Only the characters from the last one that is no backslash on count at the end. -/
theorem backslashesAtEnd_append_cons {c : Char} (hc : c ≠ '\\') (front behind : List Char) :
    backslashesAtEnd (front ++ c :: behind) = backslashesAtEnd behind := by
  induction behind using List.reverseRecOn with
  | nil => rw [backslashesAtEnd_concat, if_neg hc]; rfl
  | append_singleton behind d ih =>
    rw [← List.cons_append, ← List.append_assoc, backslashesAtEnd_concat, backslashesAtEnd_concat,
      ih]

/-! ## 2. Texts with escapes only -/

namespace OnlyEscapes

theorem of_not_mem (h : '\\' ∉ cs) : OnlyEscapes cs := by
  rintro front rest rfl
  exact absurd (by simp) h

theorem append (hcs : OnlyEscapes cs) (hds : OnlyEscapes ds) : OnlyEscapes (cs ++ ds) := by
  intro front rest he
  rcases append_eq_append_cons he with ⟨between, hfront, rfl⟩ | ⟨between, -, hrest⟩
  · have hhead := hcs _ _ hfront
    cases between with
    | nil => cases hhead
    | cons c between => exact hhead
  · exact hds _ _ hrest

theorem flatMap {α : Type} {xs : List α} {f : α → List Char} (h : ∀ x ∈ xs, OnlyEscapes (f x)) :
    OnlyEscapes (xs.flatMap f) := by
  induction xs with
  | nil => exact of_not_mem List.not_mem_nil
  | cons x xs ih =>
    rw [List.flatMap_cons]
    exact (h x List.mem_cons_self).append (ih fun y hy => h y (List.mem_cons_of_mem x hy))

theorem of_suffix (h : OnlyEscapes cs) (hs : ds <:+ cs) : OnlyEscapes ds := by
  obtain ⟨before, rfl⟩ := hs
  rintro front rest rfl
  exact h (before ++ front) rest (by simp)

/-- Where escapes are all that backslashes do, none is left without them. -/
theorem not_mem_withoutEscapes (h : OnlyEscapes cs) : '\\' ∉ withoutEscapes cs := by
  induction cs with
  | nil => exact List.not_mem_nil
  | cons c cs ih =>
    have hcs := ih (h.of_suffix (List.suffix_cons c cs))
    rw [withoutEscapes]
    split
    · exact hcs
    · next hno =>
      refine List.not_mem_cons_of_ne_of_not_mem ?_ hcs
      rintro rfl
      exact hno ⟨rfl, h [] cs rfl⟩

/-- **Escaping gives every special character just one backslash exactly when the text has no
    escapes yet.** -/
theorem escapedOnce_iff (h : OnlyEscapes cs) : EscapedOnce (escapeSpecials cs) ↔ '\\' ∉ cs := by
  constructor
  · intro honce hmem
    obtain ⟨front, rest, rfl⟩ := List.append_of_mem hmem
    have hhead := h front rest rfl
    cases rest with
    | nil => cases hhead
    | cons c rest =>
      -- the escape of the text and the new one stand before the special character
      have hescaped : escapeSpecials (front ++ '\\' :: c :: rest) =
          (escapeSpecials front ++ ['\\'] ++ ['\\']) ++ c :: escapeSpecials rest := by
        have hc : needsEscape c = true := hhead
        rw [escapeSpecials_append, escapeSpecials_cons, if_neg (by decide), escapeSpecials_cons,
          if_pos hc]
        simp
      have htwo := honce _ _ _ hescaped hhead
      rw [backslashesAtEnd_concat, if_pos rfl, backslashesAtEnd_concat, if_pos rfl] at htwo
      omega
  · intro hno
    clear h
    induction cs with
    | nil =>
      intro front c rest he
      simp [escapeSpecials] at he
    | cons d cs ih =>
      obtain ⟨hd, hcs⟩ := not_or.1 (mt List.mem_cons.2 hno)
      have hkept : ∀ before front, backslashesAtEnd (before ++ d :: front) =
          backslashesAtEnd front := fun before front =>
        backslashesAtEnd_append_cons (fun hc => hd hc.symm) before front
      intro front c rest he hc
      rw [escapeSpecials_cons] at he
      split at he
      · rcases front with _ | ⟨x, _ | ⟨y, front⟩⟩
        · obtain ⟨rfl, -⟩ := List.cons.inj he
          cases hc
        · obtain ⟨rfl, -⟩ := List.cons.inj he
          rfl
        · obtain ⟨hx, hbehind⟩ := List.cons.inj he
          obtain ⟨rfl, hrest⟩ := List.cons.inj hbehind
          rw [← hx]
          exact (hkept ['\\'] front).trans (ih hcs front c rest hrest hc)
      · next hplain =>
        rcases front with _ | ⟨x, front⟩
        · obtain ⟨rfl, -⟩ := List.cons.inj he
          exact absurd hc hplain
        · obtain ⟨rfl, hrest⟩ := List.cons.inj he
          exact (hkept [] front).trans (ih hcs front c rest hrest hc)

end OnlyEscapes

/-- In a text with all special characters escaped, there are none exactly when there is no
    backslash. -/
theorem backslash_mem_iff (honce : EscapedOnce cs) (honly : OnlyEscapes cs) :
    '\\' ∈ cs ↔ ∃ c ∈ cs, needsEscape c = true := by
  constructor
  · intro h
    obtain ⟨front, rest, rfl⟩ := List.append_of_mem h
    have hhead := honly front rest rfl
    cases rest with
    | nil => cases hhead
    | cons c rest => exact ⟨c, by simp, hhead⟩
  · rintro ⟨c, hmem, hc⟩
    obtain ⟨front, rest, rfl⟩ := List.append_of_mem hmem
    have hend := honce front c rest rfl hc
    rcases List.eq_nil_or_concat front with rfl | ⟨front, x, rfl⟩
    · cases hend
    · rw [List.concat_eq_append, backslashesAtEnd_concat] at hend
      split at hend
      · next hx => simp [hx]
      · cases hend

theorem withoutEscapes_of_not_mem (h : '\\' ∉ cs) : withoutEscapes cs = cs := by
  induction cs with
  | nil => rfl
  | cons c cs ih =>
    obtain ⟨hc, hcs⟩ := not_or.1 (mt List.mem_cons.2 h)
    rw [withoutEscapes, if_neg fun hb => hc hb.1.symm, ih hcs]

theorem withoutEscapes_subset (cs : List Char) : withoutEscapes cs ⊆ cs := by
  induction cs with
  | nil => exact List.Subset.refl _
  | cons c cs ih =>
    rw [withoutEscapes]
    split
    · exact List.subset_cons_of_subset c ih
    · exact List.cons_subset_cons c ih

/-- A plain text is escaped as notes are to be. -/
theorem escaped_escapeSpecials (h : '\\' ∉ cs) :
    EscapedOnce (escapeSpecials cs) ∧ OnlyEscapes (escapeSpecials cs) := by
  refine ⟨(OnlyEscapes.of_not_mem h).escapedOnce_iff.2 h, fun front rest he => ?_⟩
  obtain ⟨x, more, rfl, hx⟩ := escapeSpecials_backslash h he
  simpa [needsEscape] using hx

end Galley.Markup
