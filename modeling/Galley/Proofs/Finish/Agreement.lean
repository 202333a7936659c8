import Galley.Proofs.Finish.Store
import Galley.Proofs.Markup.RegionLabels

/-!
# One label per key

The labels in footnotes and captions are made from the markup, before there is a tree, and those of
the citations in the tree are made from the tree. Both hand out labels to the keys of the body
first, the one call by call and the other once for every key, and the author-date style does not
look at anything but the reference. So a key of the body has the same label in both. Main
statement: `regionLabels_agree`.
-/

namespace Galley

open Galley.Label (Call Disambiguator)
open Galley.Markup (citations body regionLabels regionOccurrences resolveRegions withRegionLabels)

/-! ## 1. Calls of the author-date style -/

namespace AuthorDate

/-- The call for the label of a key. -/
def call (b : Bibliography) (key : String) : Call :=
  ⟨key, b.get? key, match b.get? key with
    | some r => render .text (label r)
    | none => "(" ++ key ++ ")"⟩

theorem value_renderLabel (b : Bibliography) (r : CitationRequest) (h : r.output = .text) :
    (renderLabel formatter b r).value = (call b r.key).rendered := by
  simp only [renderLabel, Logged.value_bind, formatter, call, h]
  cases b.get? r.key <;> rfl

/-- The style asks for nothing but the key. -/
theorem callFor_eq (style : String) (b : Bibliography) (key : String) :
    Markup.callFor formatter style b key = call b key := by
  rw [Markup.callFor, value_renderLabel b _ rfl]
  rfl

theorem calls_eq (style : String) (b : Bibliography) (before keys : List String) :
    CitationStore.calls formatter style b before keys = keys.map (call b) := by
  induction keys generalizing before with
  | nil => rfl
  | cons key keys ih =>
    rw [CitationStore.calls, ih, value_renderLabel b _ rfl]
    rfl

/-- Bibliographies with the same reference under a key get the same call for it. -/
theorem call_congr {b b' : Bibliography} {key : String} (h : b.get? key = b'.get? key) :
    call b key = call b' key := by
  rw [call, call, h]

end AuthorDate

/-! ## 2. Body and store -/

/-- A document stands for markup when both cite the same keys in the same order of first
    appearance, and the same references are found for them. -/
structure StandsFor (store : CitationStore) (b : Bibliography) (cs : List Char) : Prop where
  keys : ((citations (body cs)).map Occurrence.key).eraseDups = store.works.keys
  references : ∀ key ∈ store.works.keys, store.database.get? key = b.get? key

theorem handedOut_eq {store : CitationStore} {b : Bibliography} {cs : List Char}
    (h : StandsFor store b cs) (style style' : String) :
    store.handedOut AuthorDate.formatter style =
      Markup.bodyHandedOut AuthorDate.formatter style' b cs := by
  have hcalls : store.works.keys.map (AuthorDate.call store.database) =
      store.works.keys.map (AuthorDate.call b) :=
    List.map_congr_left fun key hkey => AuthorDate.call_congr (h.references key hkey)
  have hbody : Markup.callsFor AuthorDate.formatter style' b (citations (body cs)) =
      ((citations (body cs)).map Occurrence.key).map (AuthorDate.call b) :=
    List.map_congr_left fun key _ => AuthorDate.callFor_eq style' b key
  rw [CitationStore.handedOut, AuthorDate.calls_eq, hcalls, ← h.keys,
    Disambiguator.run_eraseDups (fun _ => rfl), Markup.bodyHandedOut, hbody]

/-- **A key of the body has one label**: what stands for it in a footnote or caption is made from
    the label that the citations of the tree have, wherever it stands and whatever else is cited
    there. Entries of the database are read by `read`. -/
theorem regionLabels_agree (read : EntryReader) (cs : List Char) (b : Bibliography)
    (doc : Fragment) (fallback : Option Bibliography) (style style' : String)
    (h : StandsFor (CitationStore.collectWith read doc fallback).value b cs) :
    let labels := (regionLabels AuthorDate.formatter style b cs []).value.1
    let store := ((CitationStore.collectWith read doc fallback).value.resolve
      AuthorDate.formatter style').value
    (resolveRegions AuthorDate.formatter style b cs []).value.1 = withRegionLabels cs labels ∧
      labels.length = (regionOccurrences cs).length ∧
      ∀ (n : Nat) (o : Occurrence), (regionOccurrences cs)[n]? = some o →
        o.key ∈ (citations (body cs)).map Occurrence.key →
          ∃ label, labels[n]? = some label ∧ store.label? o.key = some label := by
  intro labels store
  have hlabels : labels = _ := Markup.value_regionLabels AuthorDate.formatter style b cs
  refine ⟨?_, ?_, ?_⟩
  · rw [Markup.resolveRegions_eq]
    rfl
  · rw [hlabels, List.length_map]
  · intro n o ho hkey
    have hcall : Markup.callFor AuthorDate.formatter style b o.key ∈
        Markup.callsFor AuthorDate.formatter style b (citations (body cs)) :=
      List.mem_map_of_mem hkey
    obtain ⟨label, hlabel⟩ := Disambiguator.exists_label?_run hcall []
    have hwork : o.key ∈ (CitationStore.collectWith read doc fallback).value.works.keys :=
      h.keys ▸ List.mem_eraseDups.2 hkey
    have hkeyed : (CitationStore.collectWith read doc fallback).value.Keyed :=
      CitationStore.keyed_collectWith read fallback doc
    have hstore := CitationStore.label?_resolve AuthorDate.formatter style' hkeyed hwork
    -- the calls of the regions come after those of the body and take no label away
    refine ⟨label, ?_, ?_⟩
    · rw [hlabels, List.getElem?_map, ho]
      exact congrArg some (Disambiguator.shown_of_some (Disambiguator.label?_run_of_some hlabel _))
    · rw [handedOut_eq h style' style] at hstore
      exact hstore.trans (congrArg some (Disambiguator.shown_of_some hlabel))

/-- A work that cannot be told from another by its label. -/
def leeWork : Reference :=
  { (default : Reference) with authors := [⟨"Lee", "Jae"⟩], year := some "2021" }

/-- Two works with one rendered label. -/
def leeBibliography : Bibliography := Dict.ofList [("a", leeWork), ("b", leeWork)]

/-- A document that cites both, by entries that cannot be read. -/
def leeDocument : Fragment :=
  [.paragraph [.citation (Dict.ofList [("value", .string "@misc\x7ba,")]),
    .citation (Dict.ofList [("value", .string "@misc\x7bb,")])]]

/-- Markup that cites both in its body, and the second of them in a footnote. -/
def leeMarkup : List Char :=
  ("\\textcite\x7ba\x7d\\footnote\x7b\\parencite\x7bc\x7d\x7bb\x7d\x7d " ++
    "\\textcite\x7bb\x7d \\textcite\x7ba\x7d").toList

/-- The second work has its letter in the footnote, too. -/
theorem regionLabels_agree_lee :
    (regionLabels AuthorDate.formatter "apa-7" leeBibliography leeMarkup []).value.1[1]? =
        some "(Lee, 2021a)" ∧
      ((CitationStore.collect leeDocument (some leeBibliography)).value.resolve
        AuthorDate.formatter "apa-7").value.label? "b" = some "(Lee, 2021a)" := by
  have hstands : StandsFor (CitationStore.collect leeDocument (some leeBibliography)).value
      leeBibliography leeMarkup :=
    ⟨by decide +kernel, by decide +kernel⟩
  obtain ⟨-, -, hagree⟩ := regionLabels_agree Bibtex.referenceIn leeMarkup leeBibliography
    leeDocument (some leeBibliography) "apa-7" "apa-7" hstands
  obtain ⟨label, hregion, hstore⟩ := hagree 1 ⟨"b", .paren, .last, none, none⟩
    (by decide +kernel) (by decide +kernel)
  have hlabel : label = "(Lee, 2021a)" := by
    have h : (regionLabels AuthorDate.formatter "apa-7" leeBibliography leeMarkup []).value.1[1]? =
        some "(Lee, 2021a)" := by decide +kernel
    exact Option.some.inj (hregion.symm.trans h)
  rw [hlabel] at hregion hstore
  exact ⟨hregion, hstore⟩

end Galley
