import Galley.Text.Blank
import Galley.Text.Scan

/-!
# Plain text

Text is *plain* when it holds no backslash and no brace, so that in markup it begins no command and
groups nothing. Everything that is made of parts of plain texts is plain.
-/

namespace Galley.Text

/-- A backslash or a brace. -/
def isControl (c : Char) : Bool := c = '\\' || c = '\x7b' || c = '\x7d'

/-- Text without backslashes and braces. -/
def Plain (cs : List Char) : Prop := ∀ c ∈ cs, isControl c = false

instance (cs : List Char) : Decidable (Plain cs) :=
  decidable_of_iff (cs.all fun c => !isControl c) (by simp [Plain])

variable {cs ds : List Char}

@[simp] theorem plain_nil : Plain [] := by simp [Plain]

@[simp] theorem plain_cons {c : Char} : Plain (c :: cs) ↔ isControl c = false ∧ Plain cs :=
  List.forall_mem_cons

@[simp] theorem plain_append : Plain (cs ++ ds) ↔ Plain cs ∧ Plain ds :=
  List.forall_mem_append

theorem plain_flatMap {α : Type} {xs : List α} {f : α → List Char} :
    Plain (xs.flatMap f) ↔ ∀ x ∈ xs, Plain (f x) := by
  simp only [Plain, List.mem_flatMap]
  exact ⟨fun h x hx c hc => h c ⟨x, hx, hc⟩, fun h c ⟨x, hx, hc⟩ => h x hx c hc⟩

/-- What stands in joined texts stands in one of them or between them. -/
theorem mem_of_mem_intercalate {sep : List Char} {xs : List (List Char)} {c : Char}
    (h : c ∈ sep.intercalate xs) : c ∈ sep ∨ ∃ x ∈ xs, c ∈ x := by
  induction xs with
  | nil => cases h
  | cons x xs ih =>
    cases xs with
    | nil => exact Or.inr ⟨x, List.mem_cons_self, by simpa using h⟩
    | cons y ys =>
      rw [List.intercalate_cons_cons, List.mem_append, List.mem_append] at h
      rcases h with (hx | hsep) | hrest
      · exact Or.inr ⟨x, List.mem_cons_self, hx⟩
      · exact Or.inl hsep
      · exact (ih hrest).imp_right fun ⟨z, hz, hc⟩ => ⟨z, List.mem_cons_of_mem x hz, hc⟩

theorem Plain.not_mem (h : Plain cs) {c : Char} (hc : isControl c = true) : c ∉ cs := fun hm => by
  rw [h c hm] at hc
  cases hc

theorem Plain.of_subset (h : Plain cs) (hs : ds ⊆ cs) : Plain ds :=
  fun c hc => h c (hs hc)

theorem trimChars_subset (cs : List Char) : trimChars cs ⊆ cs := by
  intro c hc
  have hright := (List.dropWhile_sublist isBlank).subset (List.mem_reverse.1 hc)
  exact (List.dropWhile_sublist isBlank).subset (List.mem_reverse.1 hright)

theorem Plain.trimChars (h : Plain cs) : Plain (trimChars cs) :=
  h.of_subset (trimChars_subset cs)

/-! ## Places in two texts, one behind the other -/

section Append

variable {α : Type} {a b front rest : List α} {x : α}

/-- A place in two lists, one behind the other, is in the first or in the second. -/
theorem append_eq_append_cons (h : a ++ b = front ++ x :: rest) :
    (∃ between, a = front ++ x :: between ∧ rest = between ++ b) ∨
      ∃ between, front = a ++ between ∧ b = between ++ x :: rest := by
  rcases List.append_eq_append_iff.1 h with ⟨between, hf, hb⟩ | ⟨between, ha, hr⟩
  · exact Or.inr ⟨between, hf, hb⟩
  · cases between with
    | nil => exact Or.inr ⟨[], by simpa using ha.symm, by simpa using hr.symm⟩
    | cons y between =>
      obtain ⟨rfl, hrest⟩ := List.cons.inj hr
      exact Or.inl ⟨between, ha, hrest⟩

theorem exists_append_of_not_mem (hx : x ∉ a) (h : a ++ b = front ++ x :: rest) :
    ∃ between, front = a ++ between ∧ b = between ++ x :: rest := by
  rcases append_eq_append_cons h with ⟨between, ha, -⟩ | hbehind
  · exact absurd (by simp [ha]) hx
  · exact hbehind

end Append

end Galley.Text
