import Galley.Json.Value
import Galley.Dict
import Mathlib.Data.String.Basic

/-!
# Canonical values

The canonical form of an object has its keys in order, and under every key that the object has once
the canonical form of its value. So the canonical form of a canonical form is itself, and two
objects without repeated keys that hold the same under every key have one canonical form. Main
statements: `isCanonical_canonical`, `lookup_canonicalFields`.
-/

namespace Galley

/-- What is found under a key stands there. -/
theorem Dict.mem_of_lookup {α : Type} {es : List (String × α)} {key : String} {value : α}
    (h : es.lookup key = some value) : (key, value) ∈ es := by
  obtain ⟨before, after, hsplit, -⟩ := List.lookup_eq_some_iff.1 h
  rw [hsplit]
  exact List.mem_append_right _ List.mem_cons_self

namespace Json

/-- Fields in the order of their keys, each key once. -/
def SortedFields (fields : List (String × Json)) : Prop :=
  (fields.map Prod.fst).Pairwise (· < ·)

/-- A value that is its own canonical form. -/
def IsCanonical (v : Json) : Prop := v.canonical = v

/-! ## 1. Setting a field -/

section InsertField

variable {key : String} {value : Json} {fields : List (String × Json)}

theorem mem_insertField {e : String × Json} (h : e ∈ insertField key value fields) :
    e = (key, value) ∨ e ∈ fields := by
  induction fields with
  | nil => exact Or.inl (List.mem_singleton.1 h)
  | cons e' fields ih =>
    obtain ⟨k, v⟩ := e'
    rw [insertField] at h
    split at h
    · exact (List.mem_cons.1 h).imp_right (List.mem_cons_of_mem _)
    · split at h
      · exact List.mem_cons.1 h
      · rcases List.mem_cons.1 h with h | h
        · exact Or.inr (h ▸ List.mem_cons_self)
        · exact (ih h).imp_right (List.mem_cons_of_mem _)

theorem mem_keys_insertField {other : String}
    (h : other ∈ (insertField key value fields).map Prod.fst) :
    other = key ∨ other ∈ fields.map Prod.fst := by
  obtain ⟨e, he, rfl⟩ := List.mem_map.1 h
  exact (mem_insertField he).imp (congrArg Prod.fst) (List.mem_map_of_mem)

theorem SortedFields.insertField (h : SortedFields fields) :
    SortedFields (insertField key value fields) := by
  induction fields with
  | nil => exact List.pairwise_singleton _ _
  | cons e fields ih =>
    obtain ⟨k, v⟩ := e
    obtain ⟨hk, hfields⟩ := List.pairwise_cons.1 h
    rw [Json.insertField]
    split
    · next heq =>
      subst heq
      exact h
    · next hne =>
      split
      · next hlt =>
        refine List.pairwise_cons.2 ⟨fun other hother => ?_, h⟩
        rcases List.mem_cons.1 hother with rfl | hother
        · exact hlt
        · exact hlt.trans (hk other hother)
      · next hge =>
        refine List.pairwise_cons.2 ⟨fun other hother => ?_, ih hfields⟩
        rcases mem_keys_insertField hother with rfl | hother
        · exact lt_of_le_of_ne (not_lt.1 hge) (Ne.symm hne)
        · exact hk other hother

@[simp] theorem lookup_insertField_self :
    (insertField key value fields).lookup key = some value := by
  induction fields with
  | nil => exact List.lookup_cons_self
  | cons e fields ih =>
    obtain ⟨k, v⟩ := e
    rw [insertField]
    split
    · exact List.lookup_cons_self
    · next hne =>
      have hb : (key == k) = false := beq_eq_false_iff_ne.2 hne
      split
      · exact List.lookup_cons_self
      · rw [List.lookup_cons, hb]
        exact ih

theorem lookup_insertField_of_ne {other : String} (h : other ≠ key) :
    (insertField key value fields).lookup other = fields.lookup other := by
  have hb : (other == key) = false := beq_eq_false_iff_ne.2 h
  induction fields with
  | nil => rw [insertField, List.lookup_cons, hb]
  | cons e fields ih =>
    obtain ⟨k, v⟩ := e
    rw [insertField]
    split
    · next heq =>
      subst heq
      rw [List.lookup_cons, List.lookup_cons, hb]
    · split
      · rw [List.lookup_cons, hb]
      · rw [List.lookup_cons, List.lookup_cons, ih]

end InsertField

/-! ## 2. The canonical form of fields -/

theorem SortedFields.canonicalFields {sorted : List (String × Json)} (h : SortedFields sorted)
    (fields : List (String × Json)) : SortedFields (canonicalFields sorted fields) := by
  induction fields generalizing sorted with
  | nil => exact h
  | cons e fields ih => exact ih h.insertField

theorem sortedFields_nil : SortedFields [] := List.Pairwise.nil

/-- No key of sorted fields comes twice. -/
theorem SortedFields.nodup {fields : List (String × Json)} (h : SortedFields fields) :
    (fields.map Prod.fst).Nodup :=
  h.imp fun hlt => ne_of_lt hlt

/-- Under a key that comes once stands the canonical form of its value. -/
theorem lookup_canonicalFields_from (sorted : List (String × Json))
    {fields : List (String × Json)} (h : (fields.map Prod.fst).Nodup) (key : String) :
    (canonicalFields sorted fields).lookup key =
      ((fields.lookup key).map canonical).or (sorted.lookup key) := by
  induction fields generalizing sorted with
  | nil => rfl
  | cons e fields ih =>
    obtain ⟨k, v⟩ := e
    obtain ⟨hnew, hfields⟩ := List.nodup_cons.1 h
    rw [canonicalFields, ih _ hfields, List.lookup_cons]
    by_cases hk : key = k
    · subst hk
      have hnone : fields.lookup key = none := by
        rw [List.lookup_eq_none_iff]
        intro e he
        exact bne_iff_ne.2 fun hkey => hnew (List.mem_map.2 ⟨e, he, hkey.symm⟩)
      rw [hnone, lookup_insertField_self, beq_self_eq_true]
      rfl
    · rw [lookup_insertField_of_ne hk, beq_eq_false_iff_ne.2 hk]

theorem lookup_canonicalFields {fields : List (String × Json)} (h : (fields.map Prod.fst).Nodup)
    (key : String) :
    (canonicalFields [] fields).lookup key = (fields.lookup key).map canonical := by
  rw [lookup_canonicalFields_from [] h, List.lookup_nil, Option.or_none]

theorem lookup_eq_none_of_lt {fields : List (String × Json)} {key : String}
    (h : ∀ other ∈ fields.map Prod.fst, key < other) : fields.lookup key = none := by
  rw [List.lookup_eq_none_iff]
  intro e he
  exact bne_iff_ne.2 (ne_of_lt (h e.1 (List.mem_map_of_mem he)))

/-- Sorted fields are known by what is found under their keys. -/
theorem SortedFields.eq_of_lookup {a b : List (String × Json)} (ha : SortedFields a)
    (hb : SortedFields b) (h : ∀ key, a.lookup key = b.lookup key) : a = b := by
  induction a generalizing b with
  | nil =>
    cases b with
    | nil => rfl
    | cons e b => exact absurd ((h e.1).symm.trans List.lookup_nil) (by simp)
  | cons x a ih =>
    cases b with
    | nil => exact absurd ((h x.1).trans List.lookup_nil) (by simp)
    | cons y b =>
      obtain ⟨hx, ha⟩ := List.pairwise_cons.1 ha
      obtain ⟨hy, hb⟩ := List.pairwise_cons.1 hb
      -- the first keys are the least ones, so each is found in the other list only at its head
      have hkey : x.1 = y.1 := by
        rcases lt_trichotomy x.1 y.1 with hlt | heq | hgt
        · have hnone : (y :: b).lookup x.1 = none := lookup_eq_none_of_lt fun other hother => by
            rcases List.mem_cons.1 hother with rfl | hother
            · exact hlt
            · exact hlt.trans (hy other hother)
          rw [← h, List.lookup_cons_self] at hnone
          cases hnone
        · exact heq
        · have hnone : (x :: a).lookup y.1 = none := lookup_eq_none_of_lt fun other hother => by
            rcases List.mem_cons.1 hother with rfl | hother
            · exact hgt
            · exact hgt.trans (hx other hother)
          rw [h, List.lookup_cons_self] at hnone
          cases hnone
      have hvalue : x.2 = y.2 := by
        have hhead := h x.1
        rw [List.lookup_cons_self, hkey, List.lookup_cons_self] at hhead
        exact Option.some.inj hhead
      have htail : a = b := by
        refine ih ha hb fun key => ?_
        by_cases hk : key = x.1
        · rw [hk, lookup_eq_none_of_lt hx, hkey, lookup_eq_none_of_lt hy]
        · have hrest := h key
          rwa [List.lookup_cons, List.lookup_cons, ← hkey, beq_eq_false_iff_ne.2 hk] at hrest
      rw [htail, Prod.ext hkey hvalue]

theorem mem_canonicalFields {sorted fields : List (String × Json)} {e : String × Json}
    (h : e ∈ canonicalFields sorted fields) :
    e ∈ sorted ∨ ∃ f ∈ fields, e = (f.1, f.2.canonical) := by
  induction fields generalizing sorted with
  | nil => exact Or.inl h
  | cons f fields ih =>
    obtain ⟨k, v⟩ := f
    rcases ih h with hsorted | ⟨f, hf, he⟩
    · rcases mem_insertField hsorted with he | hsorted
      · exact Or.inr ⟨(k, v), List.mem_cons_self, he⟩
      · exact Or.inl hsorted
    · exact Or.inr ⟨f, List.mem_cons_of_mem _ hf, he⟩

/-- Sorted fields with canonical values are their own canonical form. -/
theorem SortedFields.canonicalFields_eq {fields : List (String × Json)} (h : SortedFields fields)
    (hvalues : ∀ e ∈ fields, IsCanonical e.2) : Json.canonicalFields [] fields = fields := by
  refine (sortedFields_nil.canonicalFields fields).eq_of_lookup h fun key => ?_
  rw [lookup_canonicalFields h.nodup]
  cases hfound : fields.lookup key with
  | none => rfl
  | some v => exact congrArg some (hvalues _ (Dict.mem_of_lookup hfound))

/-! ## 3. The canonical form of a value -/

mutual

/-- **A canonical form is its own canonical form.** -/
theorem isCanonical_canonical : ∀ v : Json, IsCanonical v.canonical
  | .null => rfl
  | .bool _ => rfl
  | .number _ => rfl
  | .string _ => rfl
  | .array items => congrArg Json.array (canonicalItems_canonicalItems items)
  | .object fields => by
    refine congrArg Json.object ((sortedFields_nil.canonicalFields fields).canonicalFields_eq ?_)
    intro e he
    rcases mem_canonicalFields he with hnil | ⟨f, hf, rfl⟩
    · cases hnil
    · exact isCanonical_canonical_of_mem fields f hf

theorem canonicalItems_canonicalItems : ∀ items : List Json,
    canonicalItems (canonicalItems items) = canonicalItems items
  | [] => rfl
  | v :: vs =>
    congrArg₂ List.cons (isCanonical_canonical v) (canonicalItems_canonicalItems vs)

theorem isCanonical_canonical_of_mem : ∀ fields : List (String × Json), ∀ f ∈ fields,
    IsCanonical f.2.canonical
  | [], _, h => by cases h
  | (k, v) :: fields, f, h => by
    rcases List.mem_cons.1 h with rfl | h
    · exact isCanonical_canonical v
    · exact isCanonical_canonical_of_mem fields f h

end

theorem canonicalItems_eq_map (items : List Json) : canonicalItems items = items.map canonical := by
  induction items with
  | nil => rfl
  | cons v vs ih => rw [canonicalItems, ih, List.map_cons]

end Json

end Galley
