import Galley.Finish.Relabel
import Galley.Proofs.Finish.Store
import Galley.Proofs.Tree.Path

/-!
# What relabelling does to a tree

The citations that are labelled are those that have a key and stand inside no other citation, in
the order of the text. The n-th of them takes the n-th occurrence of the markup, and its label is
the only thing that changes in the whole tree. Main statement: `relabelNodes_aligned`.
-/

namespace Galley

/-! ## 1. Citations with a key -/

/-- The key of a citation; none for other nodes, and for citations without a key. -/
def Node.citationKey? (n : Node) : Option String :=
  if n.isCitation then Bibtex.entryKey? n.rawEntry else none

/-- The key of the citation at a path, when it stands inside no other citation. -/
def keyAt? (at? : Path → Option Node) (p : Path) : Option String :=
  if letIn (fun n => !n.isCitation) at? p then (at? p).bind Node.citationKey? else none

/-- Those of the paths that lead to citations with a key which stand inside no other citation,
    with their keys. -/
def keyedAmong (at? : Path → Option Node) (ps : List Path) : List (Path × String) :=
  ps.filterMap fun p => (keyAt? at? p).map fun key => (p, key)

/-- The citations of a fragment that are labelled, in the order of the text, with their keys. -/
def Fragment.keyed (nodes : Fragment) : List (Path × String) :=
  keyedAmong (at? nodes) (paths nodes)

/-- The citations at or below a node that are labelled, with their keys. -/
def Node.keyed (n : Node) : List (Path × String) :=
  keyedAmong n.at? n.paths

theorem mem_keyedAmong {at? : Path → Option Node} {ps : List Path} {p : Path} {key : String} :
    (p, key) ∈ keyedAmong at? ps ↔ p ∈ ps ∧ keyAt? at? p = some key := by
  rw [keyedAmong, List.mem_filterMap]
  constructor
  · rintro ⟨q, hq, h⟩
    obtain ⟨k, hk, he⟩ := Option.map_eq_some_iff.1 h
    cases he
    exact ⟨hq, hk⟩
  · rintro ⟨hp, h⟩
    exact ⟨p, hp, by rw [h]; rfl⟩

theorem keyedAmong_map {f g : Path → Option Node} {move : Path → Path}
    (h : ∀ p, keyAt? f (move p) = keyAt? g p) (ps : List Path) :
    keyedAmong f (ps.map move) = (keyedAmong g ps).map fun e => (move e.1, e.2) := by
  rw [keyedAmong, List.filterMap_map, keyedAmong, List.map_filterMap]
  refine List.filterMap_congr fun p _ => ?_
  simp [Function.comp_def, h p]

theorem keyAt?_zero (n : Node) (ns : List Node) (p : Path) :
    keyAt? (Fragment.at? (n :: ns)) (0 :: p) = keyAt? n.at? p := by
  rw [keyAt?, keyAt?, letIn_zero]
  rfl

theorem keyAt?_next (n : Node) (ns : List Node) (p : Path) :
    keyAt? (Fragment.at? (n :: ns)) p.next = keyAt? (Fragment.at? ns) p := by
  rw [keyAt?, keyAt?, letIn_next, Fragment.at?_next]

/-- Below a citation nothing is labelled. -/
theorem keyAt?_cons_of_isCitation {n : Node} (h : n.isCitation = true) (i : Nat) (p : Path) :
    keyAt? n.at? (i :: p) = none := by
  rw [keyAt?, letIn_cons]
  simp [Node.at?, h]

/-- Below any other node the same is labelled as among its children. -/
theorem keyAt?_cons_of_not_isCitation {n : Node} (h : n.isCitation = false) (i : Nat) (p : Path) :
    keyAt? n.at? (i :: p) = keyAt? (Fragment.at? n.content) (i :: p) := by
  rw [keyAt?, keyAt?, letIn_cons, letIn_cons]
  simp only [Node.at?, Option.all_some, h, Fragment.at?_nil, Option.all_none]
  rfl

theorem Fragment.keyed_cons (n : Node) (ns : List Node) :
    keyed (n :: ns) = n.keyed.map (fun e => (0 :: e.1, e.2)) ++
      (keyed ns).map fun e => (Path.next e.1, e.2) := by
  rw [keyed, paths, keyedAmong, List.filterMap_append]
  exact congrArg₂ (· ++ ·) (keyedAmong_map (keyAt?_zero n ns) n.paths)
    (keyedAmong_map (keyAt?_next n ns) (paths ns))

theorem Fragment.nil_not_mem_keyed (nodes : Fragment) (key : String) : ([], key) ∉ keyed nodes :=
  fun h => ne_nil_of_mem_paths (mem_keyedAmong.1 h).1 rfl

theorem Node.keyed_of_isCitation {n : Node} (h : n.isCitation = true) :
    n.keyed = (Bibtex.entryKey? n.rawEntry).toList.map fun key => ([], key) := by
  have hbelow : keyedAmong n.at? (Fragment.paths n.content) = [] := by
    refine List.filterMap_eq_nil_iff.2 fun p hp => ?_
    cases p with
    | nil => exact absurd rfl (Fragment.ne_nil_of_mem_paths hp)
    | cons i p => rw [keyAt?_cons_of_isCitation h, Option.map_none]
  have hself : keyAt? n.at? [] = Bibtex.entryKey? n.rawEntry := by
    show n.citationKey? = _
    rw [citationKey?, if_pos h]
  rw [keyedAmong] at hbelow
  rw [keyed, paths_eq, keyedAmong, List.filterMap_cons, hbelow, hself]
  cases Bibtex.entryKey? n.rawEntry <;> rfl

theorem Node.keyed_of_not_isCitation {n : Node} (h : n.isCitation = false) :
    n.keyed = Fragment.keyed n.content := by
  have hbelow : keyedAmong n.at? (Fragment.paths n.content) = Fragment.keyed n.content := by
    refine List.filterMap_congr fun p hp => ?_
    cases p with
    | nil => exact absurd rfl (Fragment.ne_nil_of_mem_paths hp)
    | cons i p => rw [keyAt?_cons_of_not_isCitation h]
  have hself : keyAt? n.at? [] = none := by
    show n.citationKey? = none
    rw [citationKey?, h]
    rfl
  rw [keyedAmong] at hbelow
  rw [keyed, paths_eq, keyedAmong, List.filterMap_cons, hself]
  exact hbelow

/-! ## 2. What relabelling keeps and sets -/

/-- The label of the n-th citation that has one, where `key` is its key. -/
def customLabel (store : CitationStore) (occurrences : List Occurrence) (n : Nat) (key : String) :
    String :=
  Label.inline (occurrences[n]?.getD (Occurrence.simple key))
    ((store.label? key).getD ("(" ++ key ++ ")"))

/-- What has become of the nodes at all paths when the n-th citation among `keyed` got the text
    `label n`: that citation has the text as its label, and every other node is what it was. -/
structure Relabels (label : Nat → String → String) (keyed : List (Path × String))
    (before after : Path → Option Node) : Prop where
  labelled : ∀ (n : Nat) (p : Path) (key : String), keyed[n]? = some (p, key) →
    after p = (before p).map fun c => c.withAttr "customLabel" (.string (label n key))
  kept : ∀ p : Path, (∀ key, (p, key) ∉ keyed) →
    (after p).map Node.shell = (before p).map Node.shell

theorem relabels_nil (label : Nat → String → String) (at? : Path → Option Node) :
    Relabels label [] at? at? where
  labelled n p key h := by cases h
  kept p _ := rfl

theorem relabels_element {label : Nat → String → String} {keyed : List (Path × String)}
    {content content' : List Node} (hnil : ∀ key, ([], key) ∉ keyed)
    (h : Relabels label keyed (Fragment.at? content) (Fragment.at? content'))
    (hlength : content'.length = content.length) (kind : String) (attrs : Attrs) :
    Relabels label keyed (Node.element kind attrs content).at?
      (Node.element kind attrs content').at? where
  labelled n p key hp := by
    cases p with
    | nil => exact absurd (List.mem_of_getElem? hp) (hnil key)
    | cons i p => exact h.labelled n (i :: p) key hp
  kept p hp := by
    cases p with
    | nil => simp [Node.at?, Node.shell, hlength]
    | cons i p => exact h.kept (i :: p) hp

/-- What becomes of a node and what becomes of the nodes behind it, with the count going on. -/
theorem relabels_cons {label : Nat → String → String} {keyed keyed' : List (Path × String)}
    {n n' : Node} {ns ns' : List Node} (hn : Relabels label keyed n.at? n'.at?)
    (hns : Relabels (fun i => label (keyed.length + i)) keyed' (Fragment.at? ns)
      (Fragment.at? ns')) :
    Relabels label
      (keyed.map (fun e => (0 :: e.1, e.2)) ++ keyed'.map fun e => (Path.next e.1, e.2))
      (Fragment.at? (n :: ns)) (Fragment.at? (n' :: ns')) where
  labelled i p key hp := by
    by_cases hi : i < keyed.length
    · rw [List.getElem?_append_left (by simpa using hi), List.getElem?_map] at hp
      obtain ⟨e, he, hpk⟩ := Option.map_eq_some_iff.1 hp
      cases hpk
      exact hn.labelled i e.1 e.2 he
    · rw [List.getElem?_append_right (by simpa using hi), List.length_map,
        List.getElem?_map] at hp
      obtain ⟨e, he, hpk⟩ := Option.map_eq_some_iff.1 hp
      cases hpk
      have h := hns.labelled (i - keyed.length) e.1 e.2 he
      rw [show keyed.length + (i - keyed.length) = i by omega] at h
      rw [Fragment.at?_next, Fragment.at?_next]
      exact h
  kept p hp := by
    match p with
    | [] => rfl
    | 0 :: q =>
      refine hn.kept q fun key hq => hp key ?_
      exact List.mem_append_left _ (List.mem_map.2 ⟨(q, key), hq, rfl⟩)
    | (i + 1) :: q =>
      refine hns.kept (i :: q) fun key hq => hp key ?_
      exact List.mem_append_right _ (List.mem_map.2 ⟨(i :: q, key), hq, rfl⟩)

/-- What becomes of a citation with a key, which is labelled at once. -/
theorem relabels_citation (label : Nat → String → String) (c : Node) (key : String) :
    Relabels label [([], key)] c.at?
      (c.withAttr "customLabel" (.string (label 0 key))).at? where
  labelled n p k h := by
    cases n with
    | zero => cases h; rfl
    | succ n => cases h
  kept p h := by
    cases p with
    | nil => exact absurd List.mem_cons_self (h key)
    | cons i p => rw [Node.at?_cons, Node.at?_cons, Node.content_withAttr]

/-! ## 3. Relabelling -/

section Relabelling

variable (store : CitationStore) (occurrences : List Occurrence)

theorem value_nextOccurrence (key : String) (start : Nat) :
    (Relabelling.nextOccurrence occurrences key start).value =
      (occurrences[start]?.getD (Occurrence.simple key), start + 1) := by
  have hget : ((get : Relabelling Nat) start).value = (start, start) := rfl
  have hset : ((set (start + 1) : Relabelling PUnit) start).value = (⟨⟩, start + 1) := rfl
  unfold Relabelling.nextOccurrence
  simp only [Logged.value_state_bind, hget, hset]
  cases occurrences[start]? with
  | none => rfl
  | some o =>
    by_cases ho : o.key = key
    · simp only [ho, if_true]
      rfl
    · simp only [ho, if_false]
      rfl

theorem relabels_relabelCitation {c : Node} (h : c.isCitation = true) (start : Nat) :
    Relabels (fun n => customLabel store occurrences (start + n)) c.keyed c.at?
        (relabelCitation store occurrences c start).value.1.at? ∧
      (relabelCitation store occurrences c start).value.2 = start + c.keyed.length := by
  rw [Node.keyed_of_isCitation h]
  unfold relabelCitation
  cases Bibtex.entryKey? c.rawEntry with
  | none => exact ⟨relabels_nil _ _, rfl⟩
  | some key =>
    simp only [Logged.value_state_bind, Logged.value_state_pure, value_nextOccurrence]
    exact ⟨relabels_citation _ c key, rfl⟩

mutual

theorem relabels_relabelNode (n : Node) (start : Nat) :
    Relabels (fun i => customLabel store occurrences (start + i)) n.keyed n.at?
        (relabelNode store occurrences n start).value.1.at? ∧
      (relabelNode store occurrences n start).value.2 = start + n.keyed.length := by
  cases n with
  | text s marks => exact ⟨relabels_nil _ _, rfl⟩
  | element kind attrs content =>
    rw [relabelNode]
    by_cases hkind : kind = "citation"
    · -- the walk does not go into a citation, and no path below it is keyed
      rw [if_pos hkind]
      have hc : (Node.element kind attrs content).isCitation = true := by
        simp [Node.isCitation, Node.isElement, hkind]
      exact relabels_relabelCitation store occurrences hc start
    · rw [if_neg hkind]
      have hc : (Node.element kind attrs content).isCitation = false := by
        simp [Node.isCitation, Node.isElement, hkind]
      obtain ⟨hrel, hlength, hcount⟩ := relabels_nodes content start
      rw [Node.keyed_of_not_isCitation hc]
      refine ⟨?_, hcount⟩
      exact relabels_element (Fragment.nil_not_mem_keyed content) hrel hlength kind attrs

theorem relabels_nodes (ns : List Node) (start : Nat) :
    Relabels (fun i => customLabel store occurrences (start + i)) (Fragment.keyed ns)
        (Fragment.at? ns)
        (Fragment.at? (relabelNodes store occurrences ns start).value.1) ∧
      (relabelNodes store occurrences ns start).value.1.length = ns.length ∧
      (relabelNodes store occurrences ns start).value.2 =
        start + (Fragment.keyed ns).length := by
  cases ns with
  | nil => exact ⟨relabels_nil _ _, rfl, rfl⟩
  | cons n ns =>
    obtain ⟨hn, hcount⟩ := relabels_relabelNode n start
    obtain ⟨hns, hlength, hcount'⟩ := relabels_nodes ns (start + n.keyed.length)
    rw [relabelNodes]
    simp only [Logged.value_state_bind, Logged.value_state_pure]
    rw [hcount, Fragment.keyed_cons]
    refine ⟨relabels_cons hn ?_, ?_, ?_⟩
    · simpa only [Nat.add_assoc] using hns
    · rw [List.length_cons, hlength, List.length_cons]
    · rw [hcount', List.length_append, List.length_map, List.length_map, Nat.add_assoc]

end

end Relabelling

/-! ## 4. The citations of a fragment and its store -/

theorem Relabels.attr?_eq {label : Nat → String → String} {keyed : List (Path × String)}
    {before after : Path → Option Node} (h : Relabels label keyed before after) (p : Path)
    {name : String} (hname : name ≠ "customLabel") :
    (after p).bind (·.attr? name) = (before p).bind (·.attr? name) := by
  by_cases hp : ∃ key, (p, key) ∈ keyed
  · obtain ⟨key, hkey⟩ := hp
    obtain ⟨n, hn⟩ := List.getElem?_of_mem hkey
    rw [h.labelled n p key hn]
    cases before p with
    | none => rfl
    | some c => exact c.attr?_withAttr_of_ne hname _
  · have hshell := h.kept p fun key hkey => hp ⟨key, hkey⟩
    rw [bind_attr?_eq_shell, hshell, ← bind_attr?_eq_shell]

/-- Every key that is labelled in a document has a work in what is collected from it. -/
theorem mem_keys_of_mem_keyed {doc : Fragment} {p : Path} {key : String}
    (h : (p, key) ∈ Fragment.keyed doc) (read : EntryReader) (fallback : Option Bibliography) :
    key ∈ (CitationStore.collectWith read doc fallback).value.works.keys := by
  obtain ⟨hp, hkey⟩ := mem_keyedAmong.1 h
  rw [keyAt?] at hkey
  obtain ⟨-, hkey⟩ := Option.ite_none_right_eq_some.1 hkey
  obtain ⟨c, hc, hk⟩ := Option.bind_eq_some_iff.1 hkey
  have hcite : c.isCitation = true ∧ Bibtex.entryKey? c.rawEntry = some key := by
    rw [Node.citationKey?] at hk
    split at hk
    · next hcit => exact ⟨hcit, hk⟩
    · cases hk
  have hmem : c ∈ Fragment.allNodes doc := by
    have hpath : some c ∈ (Fragment.paths doc).map (Fragment.at? doc) :=
      List.mem_map.2 ⟨p, hp, hc⟩
    rw [Fragment.map_at?_paths] at hpath
    obtain ⟨c', hc', he⟩ := List.mem_map.1 hpath
    cases he
    exact hc'
  rw [CitationStore.keys_collectWith, List.mem_eraseDups, List.mem_filterMap]
  refine ⟨c.rawEntry, ?_, hcite.2⟩
  exact List.mem_map_of_mem (List.mem_filter.2 ⟨hmem, hcite.1⟩)

/-- A store that was collected from a document, with or without labels. -/
def CitationStore.CollectedFrom (store : CitationStore) (doc : Fragment) : Prop :=
  ∃ (read : EntryReader) (fallback : Option Bibliography),
    store = (collectWith read doc fallback).value ∨
      ∃ (f : Formatter) (style : String),
        store = ((collectWith read doc fallback).value.resolve f style).value

theorem CitationStore.CollectedFrom.isSome_label? {store : CitationStore} {doc : Fragment}
    (h : store.CollectedFrom doc) {p : Path} {key : String}
    (hkey : (p, key) ∈ Fragment.keyed doc) : (store.label? key).isSome := by
  obtain ⟨read, fallback, rfl | ⟨f, style, rfl⟩⟩ := h
  · rw [label?, Option.isSome_map]
    exact Dict.isSome_get?_iff.2 (mem_keys_of_mem_keyed hkey read fallback)
  · rw [label?_resolve f style (keyed_collectWith read fallback doc)
      (mem_keys_of_mem_keyed hkey read fallback)]
    rfl

/-- **Relabelling matches the citations of a document with occurrences by their order and changes
    nothing but their labels**: the n-th citation with a key gets the text of the n-th occurrence,
    the count ends at the number of these citations, no other attribute of any node changes, and
    where the store comes from the document, every one of them has a label in it. -/
theorem relabelNodes_aligned (store : CitationStore) (occurrences : List Occurrence)
    (doc : Fragment) :
    let relabelled := (relabelNodes store occurrences doc 0).value
    Relabels (customLabel store occurrences) (Fragment.keyed doc) (Fragment.at? doc)
        (Fragment.at? relabelled.1) ∧
      relabelled.1.length = doc.length ∧
      relabelled.2 = (Fragment.keyed doc).length ∧
      (∀ (p : Path) (name : String), name ≠ "customLabel" →
        (Fragment.at? relabelled.1 p).bind (·.attr? name) =
          (Fragment.at? doc p).bind (·.attr? name)) ∧
      (store.CollectedFrom doc →
        ∀ e ∈ Fragment.keyed doc, (store.label? e.2).isSome) := by
  obtain ⟨hrel, hlength, hcount⟩ := relabels_nodes store occurrences doc 0
  simp only [Nat.zero_add] at hrel hcount
  exact ⟨hrel, hlength, hcount, fun p name hname => hrel.attr?_eq p hname,
    fun h e he => h.isSome_label? he⟩

/-- A document with a citation without a key, one with a citation inside it, and two at the top. -/
def nestedCitations : Fragment :=
  let attrs (raw : String) : Attrs := Dict.ofList [("value", .string raw)]
  [.paragraph [.citation Dict.empty,
      .element "citation" (attrs "@misc\x7ba,") [.citation (attrs "@misc\x7bc,")]],
    .citation (attrs "@misc\x7bb,"), .citation (attrs "@misc\x7bd,")]

/-- A formatter whose labels are made of the keys. -/
def keyFormatter : Formatter where
  citation _ r := .ok ("(" ++ r.key ++ ", 2021)")
  bibliography _ _ _ := .ok ""

/-- Occurrences for the first two citations that are labelled. The key of the second one is another
    than that of the citation. -/
def twoOccurrences : List Occurrence :=
  [⟨"a", .paren, .alone, some "see", some "p. 3"⟩, ⟨"c", .text, .alone, none, none⟩]

/-- Three of the five citations are counted. Each takes the occurrence at its own place, with the
    label of its own key; the last one has none left. -/
theorem relabelNodes_aligned_nested :
    let store := ((CitationStore.collect nestedCitations none).value.resolve keyFormatter "").value
    let relabelled := (relabelNodes store twoOccurrences nestedCitations 0).value
    let shown (p : Path) := (Fragment.at? relabelled.1 p).map (·.attrText? "customLabel")
    Fragment.keyed nestedCitations = [([0, 1], "a"), ([1], "b"), ([2], "d")] ∧
      relabelled.2 = 3 ∧ (store.label? "a").isSome ∧
      shown [0, 1] = some (some "(see a, 2021, p. 3)") ∧
      shown [1] = some (some "b (2021)") ∧
      shown [2] = some (some "(d, 2021)") := by
  intro store relabelled shown
  have hkeyed : Fragment.keyed nestedCitations = [([0, 1], "a"), ([1], "b"), ([2], "d")] := by
    decide +kernel
  obtain ⟨hrel, -, hcount, -, hlabels⟩ := relabelNodes_aligned store twoOccurrences nestedCitations
  have hcollected : store.CollectedFrom nestedCitations := ⟨_, _, Or.inr ⟨_, _, rfl⟩⟩
  have hshown : ∀ (n : Nat) {p : Path} (key : String),
      (Fragment.keyed nestedCitations)[n]? = some (p, key) →
        shown p = (Fragment.at? nestedCitations p).map fun c =>
          (c.withAttr "customLabel" (.string (customLabel store twoOccurrences n key))).attrText?
            "customLabel" := by
    intro n p key hn
    show (Fragment.at? relabelled.1 p).map _ = _
    rw [hrel.labelled n p key hn, Option.map_map]
    rfl
  refine ⟨hkeyed, hcount.trans (by rw [hkeyed]; rfl), ?_, ?_, ?_, ?_⟩
  · exact hlabels hcollected ([0, 1], "a") (by rw [hkeyed]; exact List.mem_cons_self)
  · rw [hshown 0 "a" (by rw [hkeyed]; rfl)]
    decide +kernel
  · rw [hshown 1 "b" (by rw [hkeyed]; rfl)]
    decide +kernel
  · rw [hshown 2 "d" (by rw [hkeyed]; rfl)]
    decide +kernel

end Galley
