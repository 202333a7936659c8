import Galley.Proofs.Finish.EntryLines
import Galley.Proofs.Finish.Outcome
import Galley.Proofs.Html.VisibleText

/-!
# The import of the reference list

The reference list of the author-date style is written one entry a line and imported line by line.
A bibliography therefore reaches the document whole, one paragraph for each work in the order of the
list, as long as every entry is written on one line; a line feed in one of the fields of a work
breaks its entry apart. Main statement: `importsWhole_iff`.
-/

namespace Galley

open Galley.Text (heldLines)

/-! ## 1. Counting lines -/

section Count

variable {α β : Type} {f : α → List β}

theorem length_le_length_flatMap {xs : List α} (h : ∀ x ∈ xs, 0 < (f x).length) :
    xs.length ≤ (xs.flatMap f).length := by
  induction xs with
  | nil => exact Nat.le_refl 0
  | cons x xs ih =>
    obtain ⟨hx, hxs⟩ := List.forall_mem_cons.1 h
    have hrest := ih hxs
    rw [List.flatMap_cons, List.length_append, List.length_cons]
    omega

/-- Where each item gives something and all give no more than there are items, each gives one. -/
theorem length_le_one_of_flatMap {xs : List α} (h : ∀ x ∈ xs, 0 < (f x).length)
    (hall : (xs.flatMap f).length ≤ xs.length) {x : α} (hx : x ∈ xs) : (f x).length ≤ 1 := by
  obtain ⟨front, back, rfl⟩ := List.append_of_mem hx
  have hfront := length_le_length_flatMap fun y hy => h y (List.mem_append_left _ hy)
  have hback := length_le_length_flatMap fun y hy =>
    h y (List.mem_append_right _ (List.mem_cons_of_mem x hy))
  simp only [List.flatMap_append, List.flatMap_cons, List.length_append, List.length_cons] at hall
  omega

end Count

namespace Manuscript

/-! ## 2. Runs -/

/-- A run whose references can be had and that has no abstract ends with them. -/
theorem exists_finish {config : Config} {f : Formatter} {m : Manuscript} {b : Bibliography}
    {entries : Fragment} (hbibliography : m.bibliography = some b)
    (habstract : nonBlank m.abstract = none)
    (hreferences : references config f b = .ok entries) (doc : Fragment) :
    ∃ out front, m.finish config f doc = .ok out ∧
      out.value.doc = Fragment.toDoc (front ++ entries) := by
  have hnone : failure? (m.frontMatter.nodes config.headings config.crossmark) = none := by
    rw [failure?_frontMatter, abstractFailure?, habstract]
    rfl
  cases hfront : m.frontMatter.nodes config.headings config.crossmark with
  | error cause =>
    rw [hfront] at hnone
    cases hnone
  | ok front =>
    let text := text config f m doc
    let nodes : Logged Fragment := do
      let parts ← text
      pure (front ++ (parts.2 ++ entries))
    have hnodes : m.nodes config f doc = .ok nodes := by
      rw [Manuscript.nodes, hbibliography, Option.getD_some, hreferences, hfront]
      rfl
    refine ⟨nodes >>= fun nodes => pure ⟨Fragment.toDoc nodes, m.funding⟩, front ++ text.value.2,
      ?_, ?_⟩
    · rw [finish, hnodes]
      rfl
    · rw [List.append_assoc]
      rfl

end Manuscript

namespace AuthorDate

/-! ## 3. The paragraphs of the list -/

/-- The paragraph of a work in a document. -/
def entryNode (r : Reference) : Node := .paragraph (Html.leafNodes (content r).leaves)

/-- The text of an entry as a document shows it: without null characters, with a line feed for every
line break, and without a link whose target is no web address. -/
def shownEntry (r : Reference) : String :=
  String.ofList (((content r).leaves.map Html.unifyLeaf).flatMap Html.visible)

theorem textContent_entryNode (r : Reference) : (entryNode r).textContent = shownEntry r := by
  rw [entryNode, Node.paragraph, Node.textContent, Html.textOf_leafNodes, shownEntry]

theorem importNode_entry {r : Reference} (h : OneLine r) :
    Html.importNode (String.ofList (Html.paragraphHtml (content r).leaves)) = .ok (entryNode r) :=
  Html.importNode_paragraph fun hmem => h ((lineFeed_mem_paragraphHtml_iff r).1 hmem)

section Bibliography

variable {b : Bibliography} {style html : String}

/-- Entries on one line each are imported as one paragraph each. -/
theorem bibliographyNodes_of_oneLine (h : ∀ r ∈ b.values, OneLine r)
    (hhtml : formatter.bibliography b style .html = .ok html) :
    bibliographyNodes html = .ok ((sorted b).map entryNode) := by
  have hsorted (r : Reference) (hr : r ∈ sorted b) : OneLine r := h r ((sorted_perm b).mem_iff.1 hr)
  have hlines : entryLines html =
      (sorted b).map fun r => String.ofList (Html.paragraphHtml (content r).leaves) := by
    rw [entryLines_of_bibliography hhtml,
      List.flatMap_congr fun r hr => heldLines_oneLine (hsorted r hr), List.map_flatMap,
      List.map_eq_flatMap]
    rfl
  rw [bibliographyNodes, hlines, List.mapM_map]
  exact mapM_eq_ok fun r hr => importNode_entry (hsorted r hr)

theorem references_of_oneLine (h : ∀ r ∈ b.values, OneLine r) (config : Config) :
    Manuscript.references config formatter b =
      .ok (referencesSection config.headings ((sorted b).map entryNode)) := by
  have hhtml : formatter.bibliography b config.style .html =
      .ok (render .html (referenceList b)) := rfl
  have hnodes := bibliographyNodes_of_oneLine h hhtml
  simp only [Manuscript.references, hhtml, bind, Except.bind, hnodes]

/-- A list that gives one paragraph for each work has its entries on one line each. -/
theorem oneLine_of_bibliographyNodes
    (hhtml : formatter.bibliography b style .html = .ok html) {nodes : List Node}
    (hnodes : bibliographyNodes html = .ok nodes) (hlength : nodes.length = (sorted b).length)
    {r : Reference} (hr : r ∈ b.values) : OneLine r := by
  have hcount : ((sorted b).flatMap fun r => heldLines (paragraphLine r)).length =
      (sorted b).length := by
    have hlines := length_of_mapM_eq_ok hnodes
    rw [entryLines_of_bibliography hhtml, List.length_map] at hlines
    rw [← hlines, hlength]
  have hpos (r : Reference) : 0 < (heldLines (paragraphLine r)).length := by
    by_cases hline : OneLine r
    · rw [heldLines_oneLine hline]
      exact Nat.one_pos
    · exact Nat.lt_of_succ_lt (one_lt_length_heldLines hline)
  by_contra hbreak
  have hone := length_le_one_of_flatMap (fun r _ => hpos r) hcount.le ((sorted_perm b).mem_iff.2 hr)
  exact absurd (one_lt_length_heldLines hbreak) (Nat.not_lt.2 hone)

end Bibliography

/-! ## 4. The whole list -/

/-- The whole reference list of a bibliography reaches the document. -/
structure ImportsWhole (b : Bibliography) : Prop where
  /-- The list gives one paragraph for each work, in the order of the list. -/
  entries : ∀ style, ∃ html, formatter.bibliography b style .html = .ok html ∧
    bibliographyNodes html = .ok ((sorted b).map entryNode)
  /-- A run without an abstract succeeds, and its document ends with those paragraphs behind their
      heading. -/
  runs : ∀ (config : Config) (m : Manuscript) (doc : Fragment), m.bibliography = some b →
    nonBlank m.abstract = none → ∃ out front, m.finish config formatter doc = .ok out ∧
      out.value.doc =
        Fragment.toDoc (front ++ referencesSection config.headings ((sorted b).map entryNode))

/-- **A bibliography reaches the document whole exactly when each of its entries is written on one
line.** The list has all the works of the bibliography, each as often as that has it, and the
paragraph of a work has the text of its entry. -/
theorem importsWhole_iff (b : Bibliography) :
    (sorted b).Perm b.values ∧ (∀ r, (entryNode r).textContent = shownEntry r) ∧
      (ImportsWhole b ↔ ∀ r ∈ b.values, OneLine r) := by
  refine ⟨sorted_perm b, textContent_entryNode, fun h r hr => ?_, fun h => ⟨fun style => ?_, ?_⟩⟩
  · obtain ⟨html, hhtml, hnodes⟩ := h.entries ""
    exact oneLine_of_bibliographyNodes hhtml hnodes (List.length_map _) hr
  · have hhtml : formatter.bibliography b style .html = .ok (render .html (referenceList b)) := rfl
    exact ⟨_, hhtml, bibliographyNodes_of_oneLine h hhtml⟩
  · intro config m doc hbibliography habstract
    exact Manuscript.exists_finish hbibliography habstract (references_of_oneLine h config) doc

/-- A bibliography with the characters of markup in a title and in an address that is none. -/
def markedTitle : Bibliography :=
  Dict.ofList [("k", { (default : Reference) with
    authors := [⟨"Kay", "Ann"⟩], year := some "1999", title := some "A <b> & \"c\"",
    url := some "see \"d\" & <e>" })]

/-- Markup in a title comes back as it was, and a link that leads nowhere is gone. -/
theorem importsWhole_markedTitle :
    ImportsWhole markedTitle ∧ (sorted markedTitle).map (fun r => (entryNode r).textContent) =
      ["Kay, A. (1999). A <b> & \"c\". "] := by
  obtain ⟨-, htext, hwhole⟩ := importsWhole_iff markedTitle
  refine ⟨hwhole.2 (by decide +kernel), ?_⟩
  rw [List.map_congr_left fun r _ => htext r]
  decide +kernel

/-- The second line of a title is no paragraph, and the list is refused. -/
theorem not_importsWhole_twoLinedTitle :
    bibliographyNodes (referenceList Manuscript.twoLinedTitle).html =
      .error (.invalidFragment "B</i>.</p>") ∧ ¬ImportsWhole Manuscript.twoLinedTitle := by
  refine ⟨Manuscript.bibliographyNodes_twoLinedTitle, fun h => ?_⟩
  obtain ⟨html, hhtml, hnodes⟩ := h.entries ""
  rw [← Except.ok.inj hhtml] at hnodes
  have herror := Manuscript.bibliographyNodes_twoLinedTitle.symm.trans hnodes
  cases herror

end AuthorDate

end Galley
