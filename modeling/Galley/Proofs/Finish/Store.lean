import Galley.Finish.Store
import Galley.Proofs.Label.Run

/-!
# The works of a store

Collecting gives one work for every key among the citations of a document, in the order in which
the keys first come, and every work stands under its own key. Labelling makes one call for every
work in this order, and gives the work the label that its key has after all of them. Main
statements: `keys_collectWith` and `label?_resolve`.
-/

namespace Galley.CitationStore

open Galley.Label (Call Disambiguator)

/-! ## 1. Collecting -/

/-- Every work stands under its own key. -/
def Keyed (store : CitationStore) : Prop :=
  store.works.values.map CitedWork.key = store.works.keys

section Collecting

variable (read : EntryReader) (fallback : Option Bibliography)

theorem works_addWork (store : CitationStore) (raw key : String) :
    (addWork read fallback store raw key).value.works =
      store.works.insert key ⟨key, raw, "", ""⟩ := by
  rw [addWork, Logged.value_bind]
  cases (findReference read fallback raw key).value <;> rfl

theorem keys_observe (store : CitationStore) (raw : String) :
    (observe read fallback store raw).value.works.keys =
      match Bibtex.entryKey? raw with
      | none => store.works.keys
      | some key => if key ∈ store.works.keys then store.works.keys
          else store.works.keys ++ [key] := by
  unfold observe
  cases Bibtex.entryKey? raw with
  | none => rfl
  | some key =>
    by_cases h : key ∈ store.works.keys
    · simp [Dict.contains, h]
    · simp [Dict.contains, h, works_addWork, Dict.keys_insert_of_not_mem]

theorem keyed_observe {store : CitationStore} (h : store.Keyed) (raw : String) :
    (observe read fallback store raw).value.Keyed := by
  unfold observe
  cases Bibtex.entryKey? raw with
  | none => exact h
  | some key =>
    by_cases hk : key ∈ store.works.keys
    · simpa [Dict.contains, hk] using h
    · have hc : store.works.contains key = false := by simpa [Dict.contains] using hk
      simp only [hc, Bool.false_eq_true, if_false]
      rw [Keyed, works_addWork, Dict.values_insert_of_not_mem hk,
        Dict.keys_insert_of_not_mem hk, List.map_append, h]
      rfl

theorem keyed_foldl {store : CitationStore} (h : store.Keyed) (raws : List String) :
    (raws.foldl (fun store raw => (observe read fallback store raw).value) store).Keyed := by
  induction raws generalizing store with
  | nil => exact h
  | cons raw raws ih => exact ih (keyed_observe read fallback h raw)

theorem keyed_collectWith (doc : Fragment) : (collectWith read doc fallback).value.Keyed := by
  rw [collectWith, Logged.value_foldlM]
  have hempty : Keyed empty := rfl
  exact keyed_foldl read fallback hempty _

theorem eraseDups_concat (keys : List String) (key : String) :
    (keys ++ [key]).eraseDups =
      if key ∈ keys.eraseDups then keys.eraseDups else keys.eraseDups ++ [key] := by
  rw [List.eraseDups_append]
  by_cases h : key ∈ keys <;> simp [List.cons_removeAll, List.eraseDups_cons, h]

/-- What the keys are when those of `seen` came first. -/
theorem keys_foldl {store : CitationStore} {seen : List String}
    (h : store.works.keys = seen.eraseDups) (raws : List String) :
    (raws.foldl (fun store raw => (observe read fallback store raw).value) store).works.keys =
      (seen ++ raws.filterMap Bibtex.entryKey?).eraseDups := by
  induction raws generalizing store seen with
  | nil => simpa using h
  | cons raw raws ih =>
    have hkeys := keys_observe read fallback store raw
    cases hk : Bibtex.entryKey? raw with
    | none =>
      rw [hk] at hkeys
      rw [List.filterMap_cons_none hk]
      exact ih (hkeys.trans h)
    | some key =>
      rw [hk, h] at hkeys
      rw [List.filterMap_cons_some hk, List.append_cons]
      exact ih (hkeys.trans (eraseDups_concat seen key).symm)

/-- **The keys of a store are the keys of the citations**, without repetitions. -/
theorem keys_collectWith (doc : Fragment) :
    (collectWith read doc fallback).value.works.keys =
      ((rawEntries doc).filterMap Bibtex.entryKey?).eraseDups := by
  rw [collectWith, Logged.value_foldlM]
  have hempty : empty.works.keys = [].eraseDups := rfl
  exact keys_foldl read fallback hempty _

end Collecting

/-! ## 2. Labelling -/

variable (f : Formatter) (style : String)

/-- The calls for the labels of keys, where the keys `before` were labelled before them. -/
def calls (b : Bibliography) (before : List String) : List String → List Call
  | [] => []
  | key :: keys =>
    ⟨key, b.get? key, (renderLabel f b ⟨key, style, .text, before, key :: keys⟩).value⟩ ::
      calls b (before ++ [key]) keys

/-- The labels handed out when a store is labelled. -/
def handedOut (store : CitationStore) : Disambiguator :=
  Disambiguator.run [] (calls f style store.database [] store.works.keys)

/-- A work with its label before and after it was kept apart. -/
def labelled (d : Disambiguator) (w : CitedWork) (c : Call) : CitedWork :=
  { w with rendered := c.rendered, label := d.shown w.key }

theorem length_calls (b : Bibliography) (before keys : List String) :
    (calls f style b before keys).length = keys.length := by
  induction keys generalizing before with
  | nil => rfl
  | cons key keys ih => rw [calls, List.length_cons, ih, List.length_cons]

theorem value_labelWorks (b : Bibliography) (before : List String) (ws : List CitedWork)
    (d : Disambiguator) :
    (labelWorks f style b before ws d).value =
      let made := calls f style b before (ws.map CitedWork.key)
      (ws.zipWith (labelled (d.run made)) made, d.run made) := by
  induction ws generalizing before d with
  | nil => rfl
  | cons w ws ih =>
    let request : CitationRequest :=
      ⟨w.key, style, .text, before, w.key :: ws.map CitedWork.key⟩
    let c : Call := ⟨w.key, b.get? w.key, (renderLabel f b request).value⟩
    have hc : (Label.assignLabel f b request d).value =
        (⟨c.rendered, (d.assign c.key c.reference c.rendered).1⟩, d.called c) := rfl
    -- the label is given now, and read off the end of the run
    have hshown := Disambiguator.assign_eq_shown d c
      (calls f style b (before ++ [w.key]) (ws.map CitedWork.key))
    rw [labelWorks]
    simp only [Logged.value_state_bind, Logged.value_state_pure]
    rw [hc, ih, hshown]
    rfl

theorem map_key_label_labelled (d : Disambiguator) {ws : List CitedWork} {made : List Call}
    (h : made.length = ws.length) :
    (ws.zipWith (labelled d) made).map (fun w => (w.key, w.label)) =
      (ws.map CitedWork.key).map fun key => (key, d.shown key) := by
  induction ws generalizing made with
  | nil => simp
  | cons w ws ih =>
    cases made with
    | nil => cases h
    | cons c made =>
      simp only [List.zipWith_cons_cons, List.map_cons]
      rw [ih (Nat.succ.inj h)]
      rfl

/-- The works of a store with their labels. -/
def labelledWorks (store : CitationStore) : List CitedWork :=
  (labelWorks f style store.database [] store.works.values []).value.1

/-- Labelling keeps the keys, in order, and gives each the label that it shows. -/
theorem map_key_label_labelledWorks {store : CitationStore} (h : store.Keyed) :
    (store.labelledWorks f style).map (fun w => (w.key, w.label)) =
      store.works.keys.map fun key => (key, (store.handedOut f style).shown key) := by
  have hkeys : store.works.values.map CitedWork.key = store.works.keys := h
  have hlength : (calls f style store.database [] store.works.keys).length =
      store.works.values.length := by
    rw [length_calls, ← hkeys, List.length_map]
  rw [labelledWorks, value_labelWorks, hkeys]
  exact (map_key_label_labelled _ hlength).trans (by rw [hkeys]; rfl)

theorem map_key_labelledWorks {store : CitationStore} (h : store.Keyed) :
    (store.labelledWorks f style).map CitedWork.key = store.works.keys := by
  have hlabels := congrArg (List.map Prod.fst) (map_key_label_labelledWorks f style h)
  simpa [List.map_map, Function.comp_def] using hlabels

theorem entries_resolve {store : CitationStore} (h : store.Keyed) :
    (store.resolve f style).value.works.entries =
      (store.labelledWorks f style).map fun w => (w.key, w) := by
  refine Dict.entries_ofList ?_
  have hkeys := map_key_labelledWorks f style h
  simpa [List.map_map, Function.comp_def] using hkeys ▸ store.works.nodup

/-- **A labelled store has, under every key, the label that the key shows after all calls.** -/
theorem label?_resolve {store : CitationStore} (h : store.Keyed) {key : String}
    (hkey : key ∈ store.works.keys) :
    (store.resolve f style).value.label? key = some ((store.handedOut f style).shown key) := by
  rw [label?, Dict.get?, entries_resolve f style h, ← Dict.lookup_map_snd, List.map_map]
  have hlabels := map_key_label_labelledWorks f style h
  exact (congrArg (List.lookup key) hlabels).trans (Dict.lookup_map_self _ hkey)

end Galley.CitationStore
