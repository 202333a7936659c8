import Galley.Proofs.Markup.Citations
import Galley.Proofs.Markup.Layout
import Galley.Proofs.Markup.RegionLabels

/-!
# What cleaning changes

Where no environment is rearranged, cleaning never fails, and edits nothing but the citation
commands of the regions: each becomes what its entries show, with the labels that one
disambiguator gives when it is asked for the citations of the body first and then for those of
the regions in their order. Main statement: `clean_edits`.
-/

namespace Galley.Markup

open Galley.Label (Call Disambiguator)
open Galley.Text

/-! ## 1. Edits inside regions -/

/-- An edit of a text that stands `n` bytes further on. -/
def shifted (n : Nat) (e : Edit) : Edit := ⟨n + e.start, n + e.stop, e.text⟩

theorem edited_shifted {offset : Nat} {cs out : List Char} {es : List Edit} (n : Nat)
    (h : Edited offset cs es out) : Edited (n + offset) cs (es.map (shifted n)) out := by
  induction h with
  | kept offset cs => exact .kept _ cs
  | @edit gap old new offset rest out es h ih =>
    rw [← Nat.add_assoc, ← Nat.add_assoc] at ih
    have hedit := Edited.edit gap old new ih
    simpa only [List.map_cons, shifted, Nat.add_assoc] using hedit

/-- The edits that put texts, one for every citation in order, in the places of the citation
    commands of regions. -/
def regionEdits : List Region → List String → List Edit
  | [], _ => []
  | r :: rs, texts =>
    let own := texts.take (citations r.text).length
    (commandEdits (citationCommands r.text) own).map (shifted r.start) ++
      regionEdits rs (texts.drop (citations r.text).length)

theorem edited_refillRegions (ps : List Piece) (offset : Nat) (texts : List String) :
    Edited offset (ps.flatMap Piece.source) (regionEdits (regionsFrom offset ps) texts)
      (refillRegions ps texts) := by
  induction ps generalizing offset texts with
  | nil => exact .kept offset []
  | cons p ps ih =>
    rw [List.flatMap_cons]
    cases p with
    | body cs => exact Edited.append_left cs (ih _ texts)
    | region a =>
      let own := texts.take (citations a.text).length
      have htext : Edited 0 a.text (commandEdits (citationCommands a.text) own)
          (refill (segments a.text) own) := by
        have h := edited_refill (segments a.text) 0 own
        rwa [source_segments] at h
      have hown := edited_shifted (offset + byteLength a.head) htext
      rw [Nat.add_zero] at hown
      have hclose := Edited.append hown (.kept _ (if a.closed then ['\x7d'] else []))
      rw [List.append_nil] at hclose
      have hsource := Edited.append_left a.head hclose
      rw [← List.append_assoc, ← List.append_assoc] at hsource
      exact Edited.append hsource (ih _ _)

theorem edited_withRegionLabels (cs : List Char) (labels : List String) :
    Edited 0 cs (regionEdits (regions cs) (List.zipWith escapedText (regionOccurrences cs) labels))
      (withRegionLabels cs labels) := by
  have h := edited_refillRegions (pieces cs) 0
    (List.zipWith escapedText (regionOccurrences cs) labels)
  rwa [source_pieces] at h

/-! ## 2. The labels -/

/-- The labels of the region citations of a text: those that are given for them when the citations
    of the body come first. -/
def labelsInRegions (f : Formatter) (style : String) (b : Bibliography) (cs : List Char) :
    List String :=
  let inBody := citations (body cs)
  let inRegions := (inSourceOrder cs).flatMap fun r => citations r.text
  (Disambiguator.given [] (callsFor f style b (inBody ++ inRegions))).drop inBody.length

/-- The labels in regions are those that their keys show after the calls of the body and then of
    the regions. -/
theorem labelsInRegions_eq_map (f : Formatter) (style : String) (b : Bibliography)
    (cs : List Char) :
    labelsInRegions f style b cs = (regionOccurrences cs).map fun o =>
      (Disambiguator.run []
        (callsFor f style b (citations (body cs) ++ regionOccurrences cs))).shown o.key := by
  simp only [labelsInRegions, inSourceOrder_eq_regions]
  rw [← regionOccurrences, Disambiguator.given_eq_map]
  simp [callsFor, callFor, Function.comp_def, List.drop_left']

theorem value_regionLabels_eq (f : Formatter) (style : String) (b : Bibliography)
    (cs : List Char) :
    (regionLabels f style b cs []).value.1 = labelsInRegions f style b cs := by
  have hrun : Disambiguator.run []
      (callsFor f style b (citations (body cs) ++ regionOccurrences cs)) =
        (bodyHandedOut f style b cs).run (callsFor f style b (regionOccurrences cs)) := by
    rw [callsFor, List.map_append, List.map_append, Disambiguator.run, List.foldl_append]
    rfl
  rw [value_regionLabels, ← hrun, labelsInRegions_eq_map]

/-! ## 3. Cleaning -/

/-- A configuration that names no environment leaves the markup as it is. -/
theorem restructure_empty (cs : List Char) : restructure ⟨[], [], []⟩ cs = cs :=
  unstar_nil cs

/-- With a bibliography at hand, cleaning puts the labels of the region citations into the rearranged
    markup. -/
theorem clean_eq_withRegionLabels (config : Config) (f : Formatter) {given : Option Bibliography}
    {tex : String} {found : Logged Bibliography}
    (hfound : bibliographyFor given tex.toList = .ok found) :
    ∃ run : Logged String, clean config f given tex = .ok run ∧
      run.value.toList = withRegionLabels (restructure config.preclean tex.toList)
        (labelsInRegions f config.style found.value (restructure config.preclean tex.toList)) := by
  rw [clean, hfound]
  refine ⟨_, rfl, ?_⟩
  show (String.ofList (resolveRegions f config.style found.value
    (restructure config.preclean tex.toList) []).value.1).toList = _
  rw [String.toList_ofList, resolveRegions_eq, ← value_regionLabels_eq]
  rfl

/-- Where the configuration names no environment, cleaning with a bibliography puts the labels of
    the region citations into the markup. -/
theorem clean_eq_ok (config : Config) (f : Formatter) (b : Bibliography) (tex : String)
    (h : config.preclean = ⟨[], [], []⟩) :
    ∃ run : Logged String, clean config f (some b) tex = .ok run ∧
      run.value.toList =
        withRegionLabels tex.toList (labelsInRegions f config.style b tex.toList) := by
  have hfound : bibliographyFor (some b) tex.toList = .ok (pure b) := rfl
  obtain ⟨run, hrun, hvalue⟩ := clean_eq_withRegionLabels config f hfound
  rw [h, restructure_empty] at hvalue
  exact ⟨run, hrun, hvalue⟩

/-- **Cleaning edits only the citation commands inside regions.** Where the configuration names no
    environments, cleaning with a bibliography succeeds, and what comes of the markup is made by
    one edit for every citation command of every region: its bytes become the texts of its
    entries, escaped, with the labels that one disambiguator gives for the citations of the body
    and then of the regions in the order of the text. -/
theorem clean_edits (config : Config) (f : Formatter) (b : Bibliography) (tex : String)
    (h : config.preclean = ⟨[], [], []⟩) :
    let cs := tex.toList
    let inRegions := (inSourceOrder cs).flatMap fun r => citations r.text
    let labels := labelsInRegions f config.style b cs
    labels.length = inRegions.length ∧
      ∃ run : Logged String, clean config f (some b) tex = .ok run ∧
        ∀ result, Edited 0 cs (regionEdits (inSourceOrder cs)
            (List.zipWith escapedText inRegions labels)) result ↔
          result = run.value.toList := by
  intro cs inRegions labels
  have hregions : inRegions = regionOccurrences cs := by
    simp only [inRegions, inSourceOrder_eq_regions]
    rfl
  have hlabels : (regionLabels f config.style b cs []).value.1 = labels :=
    value_regionLabels_eq f config.style b cs
  refine ⟨?_, ?_⟩
  · rw [← hlabels, value_regionLabels, List.length_map, hregions]
  · obtain ⟨run, hrun, hvalue⟩ := clean_eq_ok config f b tex h
    refine ⟨run, hrun, ?_⟩
    rw [hvalue, hregions, inSourceOrder_eq_regions]
    exact (edited_withRegionLabels cs labels).iff_eq

/-- A configuration that names no environments. -/
def plainConfig : Config := { (default : Config) with preclean := ⟨[], [], []⟩ }

/-- A bibliography of one work. -/
def kayBibliography : Bibliography :=
  Dict.ofList [("k", { (default : Reference) with
    authors := [⟨"Kay", "Ann"⟩], year := some "1999" })]

/-- A work by two people and a work by nobody, whose title holds a percent sign. -/
def woolBibliography : Bibliography :=
  Dict.ofList [
    ("k", { (default : Reference) with
      authors := [⟨"Kay", "Ann"⟩, ⟨"Oh", "Bea"⟩], year := some "1999" }),
    ("w", { (default : Reference) with title := some "100% Wool" })]

/-- Two footnotes with the same text, an empty one, and a caption that the last footnote ends. Labels
    and notes hold characters that are escaped, and so does the text around them. -/
def woolMarkup : String :=
  "50% \\parencite\x7bk\x7d\\footnote\x7b\\parencite\x7bk\x7d\x7d\\footnote\x7b\x7d" ++
    "\\caption\x7b\\textcite\x7bk\x7d & \\parencite[see][a & b]\x7bw\x7d " ++
    "\\footnote\x7b\\parencite\x7bk\x7d"

/-- The edits that cleaning makes in `woolMarkup`. -/
def woolEdits : List Edit :=
  [⟨27, 40, "(Kay \\& Oh, 1999)".toList⟩, ⟨61, 73, "Kay \\& Oh (1999)".toList⟩,
    ⟨76, 101, "(see 100\\% Wool, n.d., a \\& b)".toList⟩, ⟨112, 125, "(Kay \\& Oh, 1999)".toList⟩]

/-- Every command is edited at its own place, and only what is put there is escaped. -/
theorem clean_edits_wool :
    plainConfig.preclean = ⟨[], [], []⟩ ∧
      ∃ run : Logged String,
        clean plainConfig AuthorDate.formatter (some woolBibliography) woolMarkup = .ok run ∧
          Edited 0 woolMarkup.toList woolEdits run.value.toList := by
  refine ⟨rfl, ?_⟩
  obtain ⟨-, run, hrun, hedited⟩ :=
    clean_edits plainConfig AuthorDate.formatter woolBibliography woolMarkup rfl
  have hedits : regionEdits (inSourceOrder woolMarkup.toList)
      (List.zipWith escapedText
        ((inSourceOrder woolMarkup.toList).flatMap fun r => citations r.text)
        (labelsInRegions AuthorDate.formatter plainConfig.style woolBibliography
          woolMarkup.toList)) = woolEdits := by
    simp only [labelsInRegions, inSourceOrder_eq_regions]
    decide +kernel
  exact ⟨run, hrun, hedits ▸ (hedited _).2 rfl⟩

end Galley.Markup
