import Galley.Proofs.Finish.Relabelling

/-!
# What a document asks its formatter

The citations of a document at any depth give one work for every key, which carries the entry of
the first citation with that key, and the references behind the works keep their order. Labelling
the works then asks for one label per key, in the same order; each request tells the keys before
its own and the keys from its own on. An error of the formatter stays with its key. Main statement:
`collect_resolve_threads`.
-/

namespace Galley

/-! ## 1. Citations and the works they make -/

/-- The key of a citation with its raw entry; none for other nodes, and for citations without a
    key. -/
def Node.cited? (n : Node) : Option (String × String) :=
  n.citationKey?.map fun key => (key, n.rawEntry)

/-- The keys and raw entries of all citations of a fragment, at any depth, in the order of the
    text. -/
def Fragment.entries (doc : Fragment) : List (String × String) :=
  (paths doc).filterMap fun p => (at? doc p).bind Node.cited?

/-- The entry that a raw entry gives, when it has a key. -/
def entryIn? (raw : String) : Option (String × String) :=
  (Bibtex.entryKey? raw).map fun key => (key, raw)

/-- The walk that collects the citations sees what stands at all paths. -/
theorem filterMap_rawEntries (doc : Fragment) :
    (CitationStore.rawEntries doc).filterMap entryIn? = doc.entries := by
  have hnodes : doc.entries = (Fragment.allNodes doc).filterMap Node.cited? := by
    calc doc.entries
        = ((Fragment.paths doc).map (Fragment.at? doc)).filterMap (·.bind Node.cited?) := by
          rw [List.filterMap_map]; rfl
      _ = (Fragment.allNodes doc).filterMap Node.cited? := by
          rw [Fragment.map_at?_paths, List.filterMap_map]; rfl
  have hentry (n : Node) :
      (if n.isCitation then entryIn? n.rawEntry else none) = n.cited? := by
    rw [entryIn?, Node.cited?, Node.citationKey?]
    cases n.isCitation <;> rfl
  rw [hnodes, CitationStore.rawEntries, List.filterMap_map, List.filterMap_filter]
  exact List.filterMap_congr fun n _ => hentry n

/-- The formatter that fails for one key, and answers for all others as `f` does. -/
def Formatter.failingOn (f : Formatter) (failing : String) (cause : Failure) : Formatter :=
  { f with citation := fun b r => if r.key = failing then .error cause else f.citation b r }

namespace CitationStore

/-- What a store holds when citations with these keys and entries were observed, one after the
    other. -/
structure Holds (read : EntryReader) (fallback : Option Bibliography)
    (entries : List (String × String)) (store : CitationStore) : Prop where
  /-- One work for every key, in the order in which the keys first come. -/
  keys : store.works.keys = (entries.map Prod.fst).eraseDups
  /-- A work carries the first entry with its key, and no label so far. -/
  work : ∀ key, store.works.get? key =
    (entries.lookup key).map fun raw => ⟨key, raw, "", ""⟩
  /-- The references keep the order of the works, of which some may have none. -/
  references : store.database.keys.Sublist store.works.keys
  /-- A reference is found in the first entry with its key, or in the fallback. -/
  reference : ∀ key, store.database.get? key =
    (entries.lookup key).bind fun raw => (findReference read fallback raw key).value

section Collecting

variable {read : EntryReader} {fallback : Option Bibliography}
  {entries : List (String × String)} {store : CitationStore}

theorem holds_empty (read : EntryReader) (fallback : Option Bibliography) :
    Holds read fallback [] empty where
  keys := rfl
  work _ := rfl
  references := List.Sublist.refl _
  reference _ := rfl

theorem Holds.isSome_lookup (h : Holds read fallback entries store) {key : String}
    (hkey : key ∈ store.works.keys) : (entries.lookup key).isSome := by
  rw [← Dict.isSome_get?_iff, h.work, Option.isSome_map] at hkey
  exact hkey

theorem Holds.lookup_eq_none (h : Holds read fallback entries store) {key : String}
    (hkey : key ∉ store.works.keys) : entries.lookup key = none := by
  rw [← Dict.get?_eq_none_iff, h.work, Option.map_eq_none_iff] at hkey
  exact hkey

/-- A further entry under a key that has a work changes nothing. -/
theorem Holds.again (h : Holds read fallback entries store) {key raw : String}
    (hkey : key ∈ store.works.keys) : Holds read fallback (entries ++ [(key, raw)]) store := by
  have hlookup (k : String) : (entries ++ [(key, raw)]).lookup k = entries.lookup k := by
    by_cases hk : k = key
    · obtain ⟨first, hfirst⟩ := Option.isSome_iff_exists.1 (h.isSome_lookup hkey)
      rw [List.lookup_append, hk, hfirst]
      rfl
    · exact Dict.lookup_append_of_ne hk raw entries
  have hkeys := eraseDups_concat (entries.map Prod.fst) key
  rw [if_pos (h.keys ▸ hkey)] at hkeys
  exact
    { keys := by rw [List.map_append, h.keys]; exact hkeys.symm
      work := fun k => by rw [hlookup, h.work]
      references := h.references
      reference := fun k => by rw [hlookup, h.reference] }

theorem database_addWork (read : EntryReader) (fallback : Option Bibliography)
    (store : CitationStore) (raw key : String) :
    (addWork read fallback store raw key).value.database =
      match (findReference read fallback raw key).value with
      | some r => store.database.insert key r
      | none => store.database := by
  rw [addWork, Logged.value_bind]
  cases (findReference read fallback raw key).value <;> rfl

/-- The first entry under a key makes a work. -/
theorem Holds.first (h : Holds read fallback entries store) {key raw : String}
    (hkey : key ∉ store.works.keys) :
    Holds read fallback (entries ++ [(key, raw)]) (addWork read fallback store raw key).value := by
  have hnone := h.lookup_eq_none hkey
  have hnew : key ∉ store.database.keys := fun hm => hkey (h.references.subset hm)
  have hself : (entries ++ [(key, raw)]).lookup key = some raw := by
    rw [List.lookup_append, hnone]
    simp
  have hkeys := eraseDups_concat (entries.map Prod.fst) key
  rw [if_neg (h.keys ▸ hkey)] at hkeys
  have hdatabase := database_addWork read fallback store raw key
  constructor
  case keys =>
    rw [works_addWork, Dict.keys_insert_of_not_mem hkey, h.keys, List.map_append]
    exact hkeys.symm
  case work =>
    intro k
    rw [works_addWork]
    by_cases hk : k = key
    · rw [hk, Dict.get?_insert_self, hself]
      rfl
    · rw [Dict.get?_insert_of_ne _ hk, h.work, Dict.lookup_append_of_ne hk]
  case references =>
    rw [works_addWork, Dict.keys_insert_of_not_mem hkey, hdatabase]
    cases (findReference read fallback raw key).value with
    | some r =>
      show (store.database.insert key r).keys.Sublist _
      rw [Dict.keys_insert_of_not_mem hnew]
      exact h.references.append_right [key]
    | none => exact h.references.trans (List.sublist_append_left _ _)
  case reference =>
    intro k
    rw [hdatabase]
    by_cases hk : k = key
    · rw [hk, hself, Option.bind_some]
      cases (findReference read fallback raw key).value with
      | some r => exact Dict.get?_insert_self store.database key r
      | none => exact Dict.get?_eq_none_iff.2 hnew
    · rw [Dict.lookup_append_of_ne hk, ← h.reference]
      cases (findReference read fallback raw key).value with
      | some r => exact Dict.get?_insert_of_ne store.database hk r
      | none => rfl

theorem Holds.observe (h : Holds read fallback entries store) (raw : String) :
    Holds read fallback (entries ++ (entryIn? raw).toList)
      (CitationStore.observe read fallback store raw).value := by
  unfold CitationStore.observe entryIn?
  cases Bibtex.entryKey? raw with
  | none =>
    rw [Option.map_none, Option.toList_none, List.append_nil]
    exact h
  | some key =>
    by_cases hkey : key ∈ store.works.keys
    · simpa [Dict.contains, hkey] using h.again hkey
    · simpa [Dict.contains, hkey] using h.first hkey

theorem Holds.foldl (h : Holds read fallback entries store) (raws : List String) :
    Holds read fallback (entries ++ raws.filterMap entryIn?)
      (raws.foldl (fun store raw => (CitationStore.observe read fallback store raw).value)
        store) := by
  induction raws generalizing entries store with
  | nil => simpa using h
  | cons raw raws ih =>
    have hstep := ih (h.observe raw)
    rw [List.append_assoc] at hstep
    rw [List.filterMap_cons]
    cases hraw : entryIn? raw with
    | none => simpa [hraw] using hstep
    | some e => simpa [hraw] using hstep

/-- **Collecting a document gives one work for every key among its citations**, with the first
    entry under that key. -/
theorem holds_collectWith (read : EntryReader) (fallback : Option Bibliography) (doc : Fragment) :
    Holds read fallback doc.entries (collectWith read doc fallback).value := by
  have h := (holds_empty read fallback).foldl (rawEntries doc)
  rw [filterMap_rawEntries, List.nil_append] at h
  rw [collectWith, Logged.value_foldlM]
  exact h

end Collecting

/-! ## 2. The requests of a run -/

/-- The requests for the labels of keys, where the keys `before` came before them. -/
def requestsFrom (style : String) (before : List String) : List String → List CitationRequest
  | [] => []
  | key :: keys =>
    ⟨key, style, .text, before, key :: keys⟩ :: requestsFrom style (before ++ [key]) keys

/-- The request for the label of a key at place `i` among all keys. -/
def requestAt (style : String) (keys : List String) (i : Nat) (key : String) : CitationRequest :=
  ⟨key, style, .text, keys.take i, keys.drop i⟩

theorem getElem?_requestsFrom (style : String) (before keys : List String) (i : Nat) :
    (requestsFrom style before keys)[i]? =
      keys[i]?.map (requestAt style (before ++ keys) (before.length + i)) := by
  induction keys generalizing before i with
  | nil => rfl
  | cons key keys ih =>
    rw [requestsFrom]
    cases i with
    | zero => simp [requestAt]
    | succ i =>
      rw [List.getElem?_cons_succ, List.getElem?_cons_succ, ih]
      simp [Nat.add_assoc, Nat.add_comm 1 i]

section Labelling

variable (f : Formatter) (style : String)

theorem calls_eq_map (b : Bibliography) (before keys : List String) :
    calls f style b before keys = (requestsFrom style before keys).map fun r =>
      ⟨r.key, b.get? r.key, (renderLabel f b r).value⟩ := by
  induction keys generalizing before with
  | nil => rfl
  | cons key keys ih => rw [calls, ih, requestsFrom, List.map_cons]

theorem requests_assignLabel (b : Bibliography) (r : CitationRequest) (d : Label.Disambiguator) :
    (Label.assignLabel f b r d).requests = [r] := by
  rw [Label.assignLabel, Logged.requests_bind, requests_renderLabel]
  rfl

theorem requests_labelWorks (b : Bibliography) (before : List String) (ws : List CitedWork)
    (d : Label.Disambiguator) :
    (labelWorks f style b before ws d).requests =
      requestsFrom style before (ws.map CitedWork.key) := by
  induction ws generalizing before d with
  | nil => rfl
  | cons w ws ih =>
    rw [labelWorks]
    simp only [Logged.requests_state_bind, Logged.requests_state_pure, requests_assignLabel, ih,
      List.append_nil]
    rfl

/-- **Labelling a store makes one request for every key, in order.** -/
theorem requests_resolve {store : CitationStore} (h : store.Keyed) :
    (store.resolve f style).requests = requestsFrom style [] store.works.keys := by
  have hkeys : store.works.values.map CitedWork.key = store.works.keys := h
  rw [resolve, Logged.requests_bind, requests_labelWorks, hkeys]
  exact List.append_nil _

/-! ## 3. The works after labelling -/

/-- What a formatter gives for a request: its label, or else the key in parentheses. -/
def answer (b : Bibliography) (r : CitationRequest) : String :=
  match f.citation b r with
  | .ok label => label
  | .error _ => "(" ++ r.key ++ ")"

/-- A formatter that fails for one key answers all other requests as before. -/
theorem answer_failingOn (failing : String) (cause : Failure) (b : Bibliography)
    (r : CitationRequest) : answer (f.failingOn failing cause) b r =
      if r.key = failing then "(" ++ r.key ++ ")" else answer f b r := by
  by_cases h : r.key = failing
  · simp [answer, Formatter.failingOn, h]
  · simp [answer, Formatter.failingOn, h]

theorem value_renderLabel_eq (b : Bibliography) (r : CitationRequest) :
    (renderLabel f b r).value = answer f b r := by
  rw [renderLabel, answer, Logged.value_bind]
  cases f.citation b r <;> rfl

/-- The work at a place after labelling: the same key and entry, with what the formatter answers
    to its request. -/
theorem getElem?_labelledWorks {store : CitationStore} (h : store.Keyed) (i : Nat) :
    (store.labelledWorks f style)[i]? = store.works.values[i]?.map fun w =>
      { w with
        rendered := answer f store.database (requestAt style store.works.keys i w.key)
        label := (store.handedOut f style).shown w.key } := by
  have hkeys : store.works.values.map CitedWork.key = store.works.keys := h
  have hkey : store.works.keys[i]? = store.works.values[i]?.map CitedWork.key := by
    rw [← hkeys, List.getElem?_map]
  rw [labelledWorks, value_labelWorks, hkeys]
  show (store.works.values.zipWith (labelled (store.handedOut f style))
    (calls f style store.database [] store.works.keys))[i]? = _
  rw [List.getElem?_zipWith, calls_eq_map, List.getElem?_map, getElem?_requestsFrom, hkey,
    List.nil_append, List.length_nil, Nat.zero_add]
  cases store.works.values[i]? with
  | none => rfl
  | some w => simp [labelled, value_renderLabel_eq, requestAt]

theorem entries_eq_of_keyed {store : CitationStore} (h : store.Keyed) :
    store.works.entries = store.works.values.map fun w => (w.key, w) := by
  have hkeys : store.works.values.map CitedWork.key = store.works.keys := h
  rw [Dict.values, Dict.keys, List.map_map] at hkeys
  rw [Dict.values, List.map_map]
  refine (List.map_id _).symm.trans (List.map_congr_left fun e he => ?_)
  exact Prod.ext (List.map_inj_left.1 hkeys e he).symm rfl

/-- **Labelling gives every work the answer to its request**, and keeps its key and entry. -/
theorem get?_resolve {store : CitationStore} (h : store.Keyed) {i : Nat} {key : String}
    (hkey : store.works.keys[i]? = some key) :
    (store.resolve f style).value.works.get? key = (store.works.get? key).map fun w =>
      { w with
        rendered := answer f store.database (requestAt style store.works.keys i key)
        label := (store.handedOut f style).shown key } := by
  have hkeys : store.works.values.map CitedWork.key = store.works.keys := h
  have hwork : store.works.values[i]?.map CitedWork.key = some key := by
    rw [← List.getElem?_map, hkeys, hkey]
  obtain ⟨w, hw, rfl⟩ := Option.map_eq_some_iff.1 hwork
  have hbefore : store.works.get? w.key = some w :=
    Dict.get?_of_mem (e := (w.key, w)) (by
      rw [entries_eq_of_keyed h]
      exact List.mem_map_of_mem (List.mem_of_getElem? hw))
  have hlabelled := getElem?_labelledWorks f style h i
  rw [hw, Option.map_some] at hlabelled
  rw [hbefore, Option.map_some]
  refine Dict.get?_of_mem (e := (w.key, _)) ?_
  rw [entries_resolve f style h]
  exact List.mem_map.2 ⟨_, List.mem_of_getElem? hlabelled, rfl⟩

theorem keys_resolve {store : CitationStore} (h : store.Keyed) :
    (store.resolve f style).value.works.keys = store.works.keys := by
  have hkeys := map_key_labelledWorks f style h
  rw [Dict.keys, entries_resolve f style h, List.map_map]
  exact hkeys

end Labelling

/-! ## 4. The thread of requests -/

/-- What labelling a store asks for, and what it makes of the answers. -/
structure Threads (f : Formatter) (style : String) (store : CitationStore)
    (resolved : Logged CitationStore) : Prop where
  /-- One request for every key, in order, with the keys before it and the keys from it on. -/
  requests : ∀ i, resolved.requests[i]? =
    store.works.keys[i]?.map (requestAt style store.works.keys i)
  /-- The keys before and the keys from then on are always all keys. -/
  whole : ∀ r ∈ resolved.requests, r.citedBefore ++ r.citedAfter = store.works.keys
  keys : resolved.value.works.keys = store.works.keys
  raw : ∀ key, (resolved.value.works.get? key).map CitedWork.raw =
    (store.works.get? key).map CitedWork.raw
  database : resolved.value.database = store.database
  /-- A work shows what the formatter answers to its own request; an error shows the key. -/
  rendered : ∀ (i : Nat) (key : String), store.works.keys[i]? = some key →
    (resolved.value.works.get? key).map CitedWork.rendered =
      some (match f.citation store.database (requestAt style store.works.keys i key) with
        | .ok label => label
        | .error _ => "(" ++ key ++ ")")

theorem threads_resolve (f : Formatter) (style : String) {store : CitationStore}
    (h : store.Keyed) : Threads f style store (store.resolve f style) := by
  have hrequests : ∀ i, (store.resolve f style).requests[i]? =
      store.works.keys[i]?.map (requestAt style store.works.keys i) := fun i => by
    rw [requests_resolve f style h, getElem?_requestsFrom, List.nil_append, List.length_nil,
      Nat.zero_add]
  have hkeys := keys_resolve f style h
  constructor
  case requests => exact hrequests
  case whole =>
    intro r hr
    obtain ⟨i, hi⟩ := List.getElem?_of_mem hr
    rw [hrequests] at hi
    obtain ⟨key, -, rfl⟩ := Option.map_eq_some_iff.1 hi
    exact List.take_append_drop i store.works.keys
  case keys => exact hkeys
  case raw =>
    intro key
    by_cases hkey : key ∈ store.works.keys
    · obtain ⟨i, hi⟩ := List.getElem?_of_mem hkey
      rw [get?_resolve f style h hi, Option.map_map]
      rfl
    · rw [Dict.get?_eq_none_iff.2 hkey, Dict.get?_eq_none_iff.2 (hkeys ▸ hkey)]
  case database => rfl
  case rendered =>
    intro i key hi
    have hsome := Dict.isSome_get?_iff.2 (List.mem_of_getElem? hi)
    obtain ⟨w, hw⟩ := Option.isSome_iff_exists.1 hsome
    rw [get?_resolve f style h hi, hw]
    rfl

/-- **Citations reach the formatter in the order in which they first come.** Whatever the document,
    the fallback, the reader of entries and the formatter: collecting gives one work for every key
    with the first entry under it, and labelling asks once for each, telling the keys before it and
    the keys from it on. A formatter that fails for one key gets the same requests, and only what
    that key shows is another. -/
theorem collect_resolve_threads (read : EntryReader) (doc : Fragment)
    (fallback : Option Bibliography) (f : Formatter) (style : String) :
    let store := (collectWith read doc fallback).value
    let resolved := store.resolve f style
    Holds read fallback doc.entries store ∧
      Threads f style store resolved ∧
      ∀ (failing : String) (cause : Failure),
        let broken := store.resolve (f.failingOn failing cause) style
        broken.requests = resolved.requests ∧
          ∀ key, (broken.value.works.get? key).map CitedWork.rendered =
            (resolved.value.works.get? key).map fun w =>
              if key = failing then "(" ++ key ++ ")" else w.rendered := by
  intro store resolved
  have hkeyed : store.Keyed := keyed_collectWith read fallback doc
  refine ⟨holds_collectWith read fallback doc, threads_resolve f style hkeyed, ?_⟩
  intro failing cause broken
  refine ⟨?_, fun key => ?_⟩
  · exact (requests_resolve _ style hkeyed).trans (requests_resolve f style hkeyed).symm
  by_cases hkey : key ∈ store.works.keys
  · obtain ⟨i, hi⟩ := List.getElem?_of_mem hkey
    rw [get?_resolve _ style hkeyed hi, get?_resolve f style hkeyed hi, Option.map_map,
      Option.map_map]
    refine congrArg (Option.map · _) (funext fun w => ?_)
    exact answer_failingOn f failing cause store.database (requestAt style store.works.keys i key)
  · have hnone (g : Formatter) : (store.resolve g style).value.works.get? key = none :=
      Dict.get?_eq_none_iff.2 (by rw [keys_resolve g style hkeyed]; exact hkey)
    rw [show broken.value.works.get? key = none from hnone _,
      show resolved.value.works.get? key = none from hnone f]
    rfl

/-- A document that cites one work twice with different entries, and in a quotation a citation
    without a key and one whose entry breaks off. -/
def repeatedCitations : Fragment :=
  let cite (raw : String) : Node := .citation (Dict.ofList [("value", .string raw)])
  [.paragraph [cite "@misc\x7bb, year = \x7b2021\x7d\x7d",
      .element "quote" Dict.empty [cite "", cite "@misc\x7ba,"]],
    cite "@misc\x7bb, year = \x7b2022\x7d\x7d"]

theorem entries_repeatedCitations : repeatedCitations.entries =
    [("b", "@misc\x7bb, year = \x7b2021\x7d\x7d"), ("a", "@misc\x7ba,"),
      ("b", "@misc\x7bb, year = \x7b2022\x7d\x7d")] := by
  decide +kernel

/-- Two keys are collected and asked for, the second with the first before it, also when the
    formatter fails for the first one. -/
theorem collect_resolve_threads_repeated :
    let store := (collectWith Bibtex.referenceIn repeatedCitations none).value
    let resolved := store.resolve keyFormatter "apa"
    let broken := store.resolve (keyFormatter.failingOn "b" (.missingKey "")) "apa"
    let requests : List CitationRequest :=
      [⟨"b", "apa", .text, [], ["b", "a"]⟩, ⟨"a", "apa", .text, ["b"], ["a"]⟩]
    store.works.get? "b" = some ⟨"b", "@misc\x7bb, year = \x7b2021\x7d\x7d", "", ""⟩ ∧
      (store.database.get? "b").map Reference.year = some (some "2021") ∧
      store.database.get? "a" = none ∧
      resolved.requests = requests ∧ broken.requests = requests ∧
      (resolved.value.works.get? "b").map CitedWork.rendered = some "(b, 2021)" ∧
      (broken.value.works.get? "b").map CitedWork.rendered = some "(b)" ∧
      (broken.value.works.get? "a").map CitedWork.rendered = some "(a, 2021)" := by
  intro store resolved broken requests
  obtain ⟨hholds, hthreads, hfailing⟩ :=
    collect_resolve_threads Bibtex.referenceIn repeatedCitations none keyFormatter "apa"
  obtain ⟨hsame, hshown⟩ := hfailing "b" (.missingKey "")
  have hkeys : store.works.keys = ["b", "a"] := by
    rw [hholds.keys, entries_repeatedCitations]
    decide
  have hrequests : resolved.requests = requests := by
    refine List.ext_getElem? fun i => ?_
    rw [hthreads.requests, hkeys]
    rcases i with _ | _ | i <;> rfl
  have hfirst : (resolved.value.works.get? "b").map CitedWork.rendered = some "(b, 2021)" :=
    hthreads.rendered 0 "b" (by rw [hkeys]; rfl)
  have hsecond : (resolved.value.works.get? "a").map CitedWork.rendered = some "(a, 2021)" :=
    hthreads.rendered 1 "a" (by rw [hkeys]; rfl)
  refine ⟨?_, ?_, ?_, hrequests, hsame.trans hrequests, hfirst, ?_, ?_⟩
  · rw [hholds.work, entries_repeatedCitations]
    rfl
  · rw [hholds.reference, entries_repeatedCitations]
    decide +kernel
  · rw [hholds.reference, entries_repeatedCitations]
    decide +kernel
  · obtain ⟨w, hw, -⟩ := Option.map_eq_some_iff.1 hfirst
    rw [hshown, hw]
    rfl
  · obtain ⟨w, hw, hrendered⟩ := Option.map_eq_some_iff.1 hsecond
    rw [hshown, hw]
    exact congrArg some hrendered

end CitationStore

end Galley
