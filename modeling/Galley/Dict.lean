/-!
# Dictionaries in order

A dictionary keeps its keys in the order in which they first came. Setting a key that is there
replaces the value and keeps the place; a new key goes to the end. No key occurs twice, and the
type says so.
-/

namespace Galley

/-- Values under text keys, in order of first appearance. -/
structure Dict (α : Type) where
  entries : List (String × α)
  nodup : (entries.map Prod.fst).Nodup

namespace Dict

variable {α : Type}

/-- The dictionary without keys. -/
def empty : Dict α := ⟨[], by simp⟩

instance : Inhabited (Dict α) := ⟨empty⟩

/-- The keys, in order. -/
def keys (d : Dict α) : List String := d.entries.map Prod.fst

/-- The values, in the order of their keys. -/
def values (d : Dict α) : List α := d.entries.map Prod.snd

/-- The value under `key`. -/
def get? (d : Dict α) (key : String) : Option α := d.entries.lookup key

/-- `key` has a value. -/
def contains (d : Dict α) (key : String) : Bool := d.keys.contains key

/-- No key at all. -/
def isEmpty (d : Dict α) : Bool := d.entries.isEmpty

/-! ## 1. Setting a key -/

/-- The entries with the value under `key` replaced. -/
def replaceIn (key : String) (value : α) (es : List (String × α)) : List (String × α) :=
  es.map fun e => if e.1 = key then (key, value) else e

theorem map_fst_replaceIn (key : String) (value : α) (es : List (String × α)) :
    (replaceIn key value es).map Prod.fst = es.map Prod.fst := by
  induction es with
  | nil => rfl
  | cons e es ih =>
    simp only [replaceIn, List.map_cons] at ih ⊢
    rw [ih]
    by_cases h : e.1 = key <;> simp [h]

/-- The dictionary with `value` under `key`. -/
def insert (d : Dict α) (key : String) (value : α) : Dict α :=
  if h : key ∈ d.keys then
    ⟨replaceIn key value d.entries, by rw [map_fst_replaceIn]; exact d.nodup⟩
  else
    ⟨d.entries ++ [(key, value)], by
      rw [List.map_append, List.nodup_append]
      refine ⟨d.nodup, by simp, ?_⟩
      intro a ha b hb hab
      simp only [List.map_cons, List.map_nil, List.mem_singleton] at hb
      subst hb hab
      exact h ha⟩

/-- The dictionary that setting the keys of `es` one after the other gives. -/
def ofList (es : List (String × α)) : Dict α :=
  es.foldl (fun d e => d.insert e.1 e.2) empty

theorem keys_insert_of_mem {d : Dict α} {key : String} (h : key ∈ d.keys) (value : α) :
    (d.insert key value).keys = d.keys := by
  rw [insert, dif_pos h]
  exact map_fst_replaceIn key value d.entries

theorem keys_insert_of_not_mem {d : Dict α} {key : String} (h : key ∉ d.keys) (value : α) :
    (d.insert key value).keys = d.keys ++ [key] := by
  rw [insert, dif_neg h]
  simp [keys]

/-! ## 2. Looking up -/

theorem lookup_replaceIn_self {key : String} (value : α) {es : List (String × α)}
    (h : key ∈ es.map Prod.fst) : (replaceIn key value es).lookup key = some value := by
  induction es with
  | nil => simp at h
  | cons e es ih =>
    obtain ⟨k, v⟩ := e
    by_cases hk : k = key
    · simp [replaceIn, hk]
    · have hm : key ∈ es.map Prod.fst := by
        rw [List.map_cons] at h
        rcases List.mem_cons.1 h with h' | h'
        · exact absurd h'.symm hk
        · exact h'
      have hb : (key == k) = false := by simpa using fun h => hk h.symm
      simpa [replaceIn, List.lookup_cons, hk, hb] using ih hm

theorem lookup_replaceIn_of_ne {key other : String} (h : other ≠ key) (value : α)
    (es : List (String × α)) : (replaceIn key value es).lookup other = es.lookup other := by
  induction es with
  | nil => rfl
  | cons e es ih =>
    obtain ⟨k, v⟩ := e
    by_cases hk : k = key
    · subst hk
      have hb : (other == k) = false := by simpa using h
      simpa [replaceIn, List.lookup_cons, hb] using ih
    · simp only [replaceIn, List.map_cons, hk, if_false, List.lookup_cons]
      split
      · rfl
      · simpa [replaceIn] using ih

theorem lookup_append_new {key : String} (value : α) {es : List (String × α)}
    (h : key ∉ es.map Prod.fst) : (es ++ [(key, value)]).lookup key = some value := by
  induction es with
  | nil => simp
  | cons e es ih =>
    obtain ⟨k, v⟩ := e
    have hk : (key == k) = false := by
      simp only [beq_eq_false_iff_ne, ne_eq]
      rintro rfl
      simp at h
    have hm : key ∉ es.map Prod.fst := fun hm => h (List.mem_cons_of_mem _ hm)
    simpa [List.lookup_cons, hk] using ih hm

theorem lookup_append_of_ne {key other : String} (h : other ≠ key) (value : α)
    (es : List (String × α)) : (es ++ [(key, value)]).lookup other = es.lookup other := by
  induction es with
  | nil =>
    have hb : (other == key) = false := by simpa using h
    simp [List.lookup_cons, hb]
  | cons e es ih =>
    obtain ⟨k, v⟩ := e
    simp only [List.cons_append, List.lookup_cons, ih]

@[simp] theorem get?_insert_self (d : Dict α) (key : String) (value : α) :
    (d.insert key value).get? key = some value := by
  unfold insert get?
  split
  · next h => exact lookup_replaceIn_self value h
  · next h => exact lookup_append_new value h

theorem get?_insert_of_ne (d : Dict α) {key other : String} (h : other ≠ key) (value : α) :
    (d.insert key value).get? other = d.get? other := by
  unfold insert get?
  split
  · exact lookup_replaceIn_of_ne h value _
  · exact lookup_append_of_ne h value _

@[simp] theorem get?_empty (key : String) : (empty : Dict α).get? key = none := rfl

/-! ## 3. Whole dictionaries -/

theorem lookup_map_snd {β : Type} (f : α → β) (es : List (String × α)) (key : String) :
    (es.map fun e => (e.1, f e.2)).lookup key = (es.lookup key).map f := by
  induction es with
  | nil => rfl
  | cons e es ih =>
    obtain ⟨k, v⟩ := e
    simp only [List.map_cons, List.lookup_cons, ih]
    cases key == k <;> rfl

theorem lookup_map_self (f : String → α) {keys : List String} {key : String} (h : key ∈ keys) :
    (keys.map fun k => (k, f k)).lookup key = some (f key) := by
  induction keys with
  | nil => cases h
  | cons k keys ih =>
    rw [List.map_cons, List.lookup_cons]
    by_cases hk : key = k
    · simp [hk]
    · have hb : (key == k) = false := by simpa using hk
      rw [hb]
      exact ih ((List.mem_cons.1 h).resolve_left hk)

theorem isSome_get?_iff {d : Dict α} {key : String} : (d.get? key).isSome ↔ key ∈ d.keys := by
  simp only [get?, List.lookup_isSome_iff, keys, List.mem_map, beq_iff_eq]
  exact exists_congr fun e => and_congr_right fun _ => eq_comm

theorem get?_eq_none_iff {d : Dict α} {key : String} : d.get? key = none ↔ key ∉ d.keys := by
  rw [← isSome_get?_iff, Option.not_isSome_iff_eq_none]

/-- No key occurs twice, so an entry is what is found under its key. -/
theorem get?_of_mem {d : Dict α} {e : String × α} (h : e ∈ d.entries) : d.get? e.1 = some e.2 := by
  obtain ⟨entries, nodup⟩ := d
  rw [get?]
  induction entries with
  | nil => cases h
  | cons e' es ih =>
    obtain ⟨hnew, hes⟩ := List.nodup_cons.1 nodup
    rcases List.mem_cons.1 h with rfl | h
    · exact List.lookup_cons_self
    · have hne : (e.1 == e'.1) = false := by
        simpa using fun he : e.1 = e'.1 => hnew (he ▸ List.mem_map_of_mem h)
      rw [List.lookup_cons, hne]
      exact ih hes h

theorem values_insert_of_not_mem {d : Dict α} {key : String} (h : key ∉ d.keys) (value : α) :
    (d.insert key value).values = d.values ++ [value] := by
  rw [insert, dif_neg h]
  simp [values]

theorem entries_insert_of_not_mem {d : Dict α} {key : String} (h : key ∉ d.keys) (value : α) :
    (d.insert key value).entries = d.entries ++ [(key, value)] := by
  rw [insert, dif_neg h]

/-- Setting keys that are all new adds them in their order. -/
theorem entries_foldl_insert {d : Dict α} {es : List (String × α)}
    (h : (d.keys ++ es.map Prod.fst).Nodup) :
    (es.foldl (fun d e => d.insert e.1 e.2) d).entries = d.entries ++ es := by
  induction es generalizing d with
  | nil => simp
  | cons e es ih =>
    have hnew : e.1 ∉ d.keys := fun hm =>
      (List.nodup_append.1 h).2.2 _ hm e.1 List.mem_cons_self rfl
    rw [List.foldl_cons, ih, entries_insert_of_not_mem hnew, List.append_assoc]
    · rfl
    · rw [keys_insert_of_not_mem hnew, List.append_assoc]
      exact h

/-- Entries whose keys are distinct make a dictionary of just these entries. -/
theorem entries_ofList {es : List (String × α)} (h : (es.map Prod.fst).Nodup) :
    (ofList es).entries = es :=
  entries_foldl_insert (d := empty) h

end Dict

end Galley
