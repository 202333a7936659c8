import Mathlib.Data.List.Nodup
import Galley.Label.Disambiguation

/-!
# Runs of a disambiguator

A run hands out labels call by call, from no labels at all. A call for a key that has a label
changes nothing, and a call for a new key adds one work at the end, so the keys of a run are
distinct and a key keeps its label. What holds of every run is proved by induction on
`HandedOut`, which says how the works of a run came about, one after the other. Main statements:
`label?_run_of_some` and `run_eraseDups`.
-/

namespace Galley.Label

/-- One call for a label. -/
structure Call where
  key : String
  reference : Option Reference
  rendered : String
  deriving DecidableEq, Repr

namespace Disambiguator

/-- The work that a call for a new key adds. -/
def made (d : Disambiguator) (c : Call) : Assigned :=
  let handed := distinguish (d.colliding c.rendered) c.reference c.rendered
  ⟨c.key, c.reference, c.rendered, handed.1, handed.2⟩

/-- The labels handed out after one more call. -/
def called (d : Disambiguator) (c : Call) : Disambiguator :=
  (d.assign c.key c.reference c.rendered).2

/-- The labels handed out after some more calls. -/
def run (d : Disambiguator) (calls : List Call) : Disambiguator :=
  calls.foldl called d

/-! ## 1. Looking up labels -/

theorem label?_eq_none_iff {d : Disambiguator} {key : String} :
    d.label? key = none ↔ ∀ a ∈ d, a.key ≠ key := by
  simp [label?, List.find?_eq_none]

theorem exists_of_label? {d : Disambiguator} {key label : String}
    (h : d.label? key = some label) : ∃ a ∈ d, a.key = key ∧ a.label = label := by
  obtain ⟨a, ha, hl⟩ := Option.map_eq_some_iff.1 h
  exact ⟨a, List.mem_of_find?_eq_some ha, by simpa using List.find?_some ha, hl⟩

theorem label?_append_of_some {d : Disambiguator} {key label : String}
    (h : d.label? key = some label) (more : List Assigned) :
    label? (d ++ more) key = some label := by
  obtain ⟨a, ha, hl⟩ := Option.map_eq_some_iff.1 h
  simp [label?, List.find?_append, ha, hl]

theorem label?_of_mem {d : Disambiguator} (hd : (d.map Assigned.key).Nodup) {a : Assigned}
    (ha : a ∈ d) : d.label? a.key = some a.label := by
  induction d with
  | nil => cases ha
  | cons b d ih =>
    obtain ⟨hb, hd⟩ := List.nodup_cons.1 hd
    rcases List.mem_cons.1 ha with rfl | ha
    · simp [label?]
    · have hne : b.key ≠ a.key := fun e => hb (e ▸ List.mem_map_of_mem ha)
      simpa [label?, hne] using ih hd ha

/-! ## 2. One call -/

theorem assign_of_some {d : Disambiguator} {key label : String} (h : d.label? key = some label)
    (reference : Option Reference) (rendered : String) :
    d.assign key reference rendered = (label, d) := by
  rw [assign, h]

theorem assign_of_none {d : Disambiguator} {c : Call} (h : d.label? c.key = none) :
    d.assign c.key c.reference c.rendered = ((d.made c).label, d ++ [d.made c]) := by
  rw [assign, h]
  rfl

theorem called_of_some {d : Disambiguator} {c : Call} {label : String}
    (h : d.label? c.key = some label) : d.called c = d := by
  rw [called, assign_of_some h]

theorem called_of_none {d : Disambiguator} {c : Call} (h : d.label? c.key = none) :
    d.called c = d ++ [d.made c] := by
  rw [called, assign_of_none h]

/-- After a call its key has the label that the call gave. -/
theorem label?_called_self (d : Disambiguator) (c : Call) :
    (d.called c).label? c.key = some (d.assign c.key c.reference c.rendered).1 := by
  cases h : d.label? c.key with
  | some label => rw [called, assign_of_some h, h]
  | none =>
    rw [called, assign_of_none h, label?, List.find?_append, Option.map_eq_none_iff.1 h]
    simp [made]

/-! ## 3. Many calls -/

@[simp] theorem run_cons (d : Disambiguator) (c : Call) (calls : List Call) :
    d.run (c :: calls) = (d.called c).run calls := rfl

theorem label?_called_of_some {d : Disambiguator} {key label : String}
    (h : d.label? key = some label) (c : Call) : (d.called c).label? key = some label := by
  cases hc : d.label? c.key with
  | some _ => rw [called_of_some hc, h]
  | none => rw [called_of_none hc]; exact label?_append_of_some h _

/-- **A key keeps its label**, whatever calls come after. -/
theorem label?_run_of_some {d : Disambiguator} {key label : String}
    (h : d.label? key = some label) (calls : List Call) :
    (d.run calls).label? key = some label := by
  induction calls generalizing d with
  | nil => exact h
  | cons c calls ih => exact ih (label?_called_of_some h c)

/-- The label that a key shows: its own, or nothing. -/
def shown (d : Disambiguator) (key : String) : String := (d.label? key).getD ""

theorem shown_of_some {d : Disambiguator} {key label : String} (h : d.label? key = some label) :
    d.shown key = label := by
  rw [shown, h, Option.getD_some]

/-- The label that a call gives is the one that its key shows after all further calls. -/
theorem assign_eq_shown (d : Disambiguator) (c : Call) (calls : List Call) :
    (d.assign c.key c.reference c.rendered).1 = ((d.called c).run calls).shown c.key :=
  (shown_of_some (label?_run_of_some (label?_called_self d c) calls)).symm

/-- The labels that calls give, one after the other. -/
def given (d : Disambiguator) : List Call → List String
  | [] => []
  | c :: calls => (d.assign c.key c.reference c.rendered).1 :: given (d.called c) calls

/-- Every call gives the label that its key shows after all of them. -/
theorem given_eq_map (d : Disambiguator) (calls : List Call) :
    d.given calls = calls.map fun c => (d.run calls).shown c.key := by
  induction calls generalizing d with
  | nil => rfl
  | cons c calls ih => rw [given, ih, assign_eq_shown d c calls, List.map_cons, run_cons]

/-- Every key that was called has a label. -/
theorem exists_label?_run {calls : List Call} {c : Call} (h : c ∈ calls) (d : Disambiguator) :
    ∃ label, (d.run calls).label? c.key = some label := by
  induction calls generalizing d with
  | nil => cases h
  | cons c' calls ih =>
    rcases List.mem_cons.1 h with rfl | h
    · exact ⟨_, label?_run_of_some (label?_called_self d c) calls⟩
    · exact ih h (d.called c')

/-! ## 4. Calls by key -/

section Calls

variable {call : String → Call} (hcall : ∀ key, (call key).key = key)

include hcall

/-- Calls for a key that has a label may be left out. -/
theorem run_filter_ne {d : Disambiguator} {key label : String} (h : d.label? key = some label)
    (keys : List String) :
    d.run ((keys.filter fun k => !(k == key)).map call) = d.run (keys.map call) := by
  induction keys generalizing d with
  | nil => rfl
  | cons k keys ih =>
    rw [List.map_cons, run_cons]
    by_cases hk : k = key
    · have hc : d.label? (call k).key = some label := by rw [hcall, hk, h]
      rw [List.filter_cons_of_neg (by simp [hk]), called_of_some hc]
      exact ih h
    · rw [List.filter_cons_of_pos (by simp [hk]), List.map_cons, run_cons]
      exact ih (label?_called_of_some h (call k))

/-- **Only the first call for a key counts**, so repeated keys may be left out. -/
theorem run_eraseDups (d : Disambiguator) (keys : List String) :
    d.run (keys.eraseDups.map call) = d.run (keys.map call) := by
  -- a key is taken out of all that follows it, so the induction is on the number of keys
  induction h : keys.length using Nat.strongRecOn generalizing keys d with
  | _ n ih =>
    cases keys with
    | nil => rfl
    | cons k keys =>
      have hlt : (keys.filter fun x => !(x == k)).length < n := by
        have := List.length_filter_le (fun x => !(x == k)) keys
        rw [List.length_cons] at h
        omega
      have hk := label?_called_self d (call k)
      rw [hcall] at hk
      rw [List.eraseDups_cons, List.map_cons, List.map_cons, run_cons, run_cons,
        ih _ hlt _ _ rfl, run_filter_ne hcall hk]

end Calls

/-! ## 5. How runs come about -/

/-- How the works of a run come about: each is added by a call for a new key. -/
inductive HandedOut : Disambiguator → Prop
  | nil : HandedOut []
  | call {d : Disambiguator} (c : Call) :
      HandedOut d → d.label? c.key = none → HandedOut (d ++ [d.made c])

theorem handedOut_run {d : Disambiguator} (h : HandedOut d) (calls : List Call) :
    HandedOut (d.run calls) := by
  induction calls generalizing d with
  | nil => exact h
  | cons c calls ih =>
    cases hc : d.label? c.key with
    | some _ => rw [run_cons, called_of_some hc]; exact ih h
    | none => rw [run_cons, called_of_none hc]; exact ih (.call c h hc)

/-- The keys of a run are distinct. -/
theorem nodup_keys {d : Disambiguator} (h : HandedOut d) : (d.map Assigned.key).Nodup := by
  induction h with
  | nil => exact List.nodup_nil
  | @call d c _ hc ih =>
    rw [List.map_append, List.nodup_append]
    refine ⟨ih, by simp, ?_⟩
    intro key hkey key' hkey' he
    obtain ⟨a, ha, rfl⟩ := List.mem_map.1 hkey
    have hk : key' = c.key := by simpa [made] using hkey'
    exact label?_eq_none_iff.1 hc a ha (he.trans hk)

theorem eq_of_key_eq {d : Disambiguator} (h : HandedOut d) {a b : Assigned} (ha : a ∈ d)
    (hb : b ∈ d) (hk : a.key = b.key) : a = b :=
  List.inj_on_of_nodup_map (nodup_keys h) ha hb hk

end Disambiguator

end Galley.Label
