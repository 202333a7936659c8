import Galley.Failure
import Mathlib.Data.List.Forall2

/-!
# Runs over lists

A run over a list whose steps can fail gives a list only when every step gives something, and then
one item for each step.
-/

namespace Galley

section Steps

variable {α β γ : Type}

/-! ## 1. What a run gives -/

/-- Two steps give something only when both do. -/
theorem exists_of_bind_eq_ok {x : Except Failure α} {next : α → Except Failure β} {b : β}
    (h : (x >>= next) = .ok b) : ∃ a, x = .ok a ∧ next a = .ok b := by
  cases x with
  | error cause => cases h
  | ok a => exact ⟨a, rfl, h⟩

/-- What runs give: a run without steps gives its value, and one with two steps what the second of
    them makes of what the first one gives. -/
structure Giving (m : Type → Type) [Monad m] (Gives : {α : Type} → m α → α → Prop) : Prop where
  pure : ∀ {α : Type} {a b : α}, Gives (pure a : m α) b → a = b
  bind : ∀ {α β : Type} {x : m α} {next : α → m β} {b : β},
    Gives (x >>= next) b → ∃ a, Gives x a ∧ Gives (next a) b

theorem giving_ok : Giving (Except Failure) fun x a => x = .ok a where
  pure := Except.ok.inj
  bind := exists_of_bind_eq_ok

theorem giving_some : Giving Option fun x a => x = some a where
  pure := Option.some.inj
  bind := Option.bind_eq_some_iff.1

/-- **A run over a list gives a list of what its steps give.** -/
theorem Giving.forall₂_mapM {m : Type → Type} [Monad m] [LawfulMonad m]
    {Gives : {α : Type} → m α → α → Prop} (hgives : Giving m Gives) {f : α → m β} {xs : List α}
    {ys : List β} (h : Gives (xs.mapM f) ys) :
    List.Forall₂ (fun x y => Gives (f x) y) xs ys := by
  induction xs generalizing ys with
  | nil =>
    rw [List.mapM_nil] at h
    rw [← hgives.pure h]
    exact List.Forall₂.nil
  | cons x xs ih =>
    rw [List.mapM_cons] at h
    obtain ⟨y, hy, h⟩ := hgives.bind h
    obtain ⟨rest, hrest, h⟩ := hgives.bind h
    rw [← hgives.pure h]
    exact List.Forall₂.cons hy (ih hrest)

theorem exists_of_forall₂ {R : α → β → Prop} {xs : List α} {ys : List β}
    (h : List.Forall₂ R xs ys) {y : β} (hy : y ∈ ys) : ∃ x ∈ xs, R x y := by
  induction h with
  | nil => cases hy
  | cons hxy _ ih =>
    rcases List.mem_cons.1 hy with rfl | hy
    · exact ⟨_, List.mem_cons_self, hxy⟩
    · obtain ⟨x', hx', hR⟩ := ih hy
      exact ⟨x', List.mem_cons_of_mem _ hx', hR⟩

/-- What a run over a list gives holds what its steps gave. -/
theorem mem_of_mapM_eq_ok {f : α → Except Failure β} {xs : List α} {ys : List β}
    (h : xs.mapM f = .ok ys) {y : β} (hy : y ∈ ys) : ∃ x ∈ xs, f x = .ok y :=
  exists_of_forall₂ (giving_ok.forall₂_mapM h) hy

theorem mem_of_mapM_eq_some {f : α → Option β} {xs : List α} {ys : List β}
    (h : xs.mapM f = some ys) {y : β} (hy : y ∈ ys) : ∃ x ∈ xs, f x = some y :=
  exists_of_forall₂ (giving_some.forall₂_mapM h) hy

/-- What a run over a list gives is as long as the list. -/
theorem length_of_mapM_eq_ok {f : α → Except Failure β} {xs : List α} {ys : List β}
    (h : xs.mapM f = .ok ys) : ys.length = xs.length :=
  (giving_ok.forall₂_mapM h).length_eq.symm

/-! ## 2. Runs that succeed -/

theorem mapM_congr_left {m : Type → Type} [Monad m] [LawfulMonad m] {f g : α → m β} {xs : List α}
    (h : ∀ x ∈ xs, f x = g x) : xs.mapM f = xs.mapM g := by
  induction xs with
  | nil => rw [List.mapM_nil, List.mapM_nil]
  | cons x xs ih =>
    obtain ⟨hx, hxs⟩ := List.forall_mem_cons.1 h
    rw [List.mapM_cons, List.mapM_cons, hx, ih hxs]

/-- Steps that all give something give a list. -/
theorem mapM_eq_ok {f : α → Except Failure β} {g : α → β} {xs : List α}
    (h : ∀ x ∈ xs, f x = .ok (g x)) : xs.mapM f = .ok (xs.map g) :=
  (mapM_congr_left h).trans List.mapM_pure

/-- Items that each read back, up to `g`, read back as a list. -/
theorem mapM_map_of_forall {write : α → β} {read : β → Option γ} {g : α → γ} {xs : List α}
    (h : ∀ x ∈ xs, read (write x) = some (g x)) :
    (xs.map write).mapM read = some (xs.map g) := by
  rw [List.mapM_map]
  exact (mapM_congr_left h).trans List.mapM_pure

end Steps

end Galley
