import Galley.Finish.Manuscript
import Galley.Proofs.Finish.Relabelling
import Galley.Proofs.Html.Nodes

/-!
# Passes keep nodes proper

Every pass that edits the nodes of a document keeps them proper, and everything that is put around
them is proper: the entries of the reference list and the abstract, which are imported from HTML,
and the headings, captions and badges that are made here. Main statement:
`Manuscript.proper_nodes`.
-/

namespace Galley

/-! ## 1. Nodes that are edited -/

section Relabelling

variable (store : CitationStore) (occurrences : List Occurrence)

theorem proper_relabelCitation {c : Node} (h : c.Proper) (start : Nat) :
    (relabelCitation store occurrences c start).value.1.Proper := by
  unfold relabelCitation
  cases Bibtex.entryKey? c.rawEntry with
  | none => exact h
  | some key =>
    simp only [Logged.value_state_bind, Logged.value_state_pure]
    exact h.withAttr "customLabel" (Json.isCanonical_string _)

mutual

theorem proper_relabelNode : ∀ (n : Node) (start : Nat), n.Proper →
    (relabelNode store occurrences n start).value.1.Proper
  | .text s marks, start, h => h
  | .element kind attrs content, start, h => by
    rw [relabelNode]
    split
    · exact proper_relabelCitation store occurrences h start
    · cases h with
      | element hkind hattrs hcontent =>
        exact .element hkind hattrs (proper_relabelNodes content start hcontent)

theorem proper_relabelNodes : ∀ (ns : List Node) (start : Nat), (∀ n ∈ ns, n.Proper) →
    ∀ n ∈ (relabelNodes store occurrences ns start).value.1, n.Proper
  | [], start, h => h
  | n :: ns, start, h => by
    obtain ⟨hn, hns⟩ := List.forall_mem_cons.1 h
    rw [relabelNodes]
    simp only [Logged.value_state_bind, Logged.value_state_pure]
    exact List.forall_mem_cons.2 ⟨proper_relabelNode n start hn, proper_relabelNodes ns _ hns⟩

end

end Relabelling

theorem proper_blankAbstracts (config : HeadingsConfig) (supplied : Bool) {doc : Fragment}
    (h : ∀ n ∈ doc, n.Proper) : ∀ n ∈ blankAbstracts config supplied doc, n.Proper := by
  intro n hn
  obtain ⟨m, hm, rfl⟩ := List.mem_map.1 hn
  split
  · exact Node.proper_emptyParagraph
  · exact h m hm

theorem proper_captionParagraph (config : TablesConfig) (number : Nat) (caption : String) :
    (captionParagraph config number caption).Proper := by
  refine Node.proper_paragraph fun n hn => ?_
  rcases List.mem_pair.1 hn with rfl | rfl
  · exact Node.proper_marked _ .strong
  · exact Node.proper_marked _ .em

theorem proper_styledTable (config : TablesConfig) {table : Node} (h : table.Proper) :
    (styledTable config table).Proper :=
  ((h.withAttr "size" (Json.isCanonical_string _)).withAttr "align"
    (Json.isCanonical_string _)).withAttr "smallerFont" rfl

theorem dropRepeated_subset (caption : String) (ns : List Node) : dropRepeated caption ns ⊆ ns := by
  cases ns with
  | nil => exact fun n hn => hn
  | cons n ns =>
    rw [dropRepeated]
    split
    · exact List.subset_cons_self n ns
    · exact List.Subset.refl _

theorem proper_captionFrom (config : TablesConfig) (captions : List Markup.TableCaption)
    (tables : Nat) (ns : List Node) (h : ∀ n ∈ ns, n.Proper) :
    ∀ n ∈ (captionFrom config captions tables ns).value, n.Proper := by
  induction tables, ns using captionFrom.induct captions with
  | case1 tables =>
    rw [captionFrom]
    exact h
  | case2 tables n ns htable hcaption ih =>
    obtain ⟨hn, hns⟩ := List.forall_mem_cons.1 h
    rw [captionFrom, if_pos htable, hcaption]
    exact List.forall_mem_cons.2 ⟨hn, ih hns⟩
  | case3 tables n ns htable caption hcaption ih =>
    obtain ⟨hn, hns⟩ := List.forall_mem_cons.1 h
    rw [captionFrom, if_pos htable, hcaption]
    refine List.forall_mem_cons.2 ⟨proper_captionParagraph config _ caption, ?_⟩
    refine List.forall_mem_cons.2 ⟨proper_styledTable config hn, ih fun m hm => ?_⟩
    exact hns m (dropRepeated_subset caption ns hm)
  | case4 tables n ns htable ih =>
    obtain ⟨hn, hns⟩ := List.forall_mem_cons.1 h
    rw [captionFrom, if_neg htable]
    exact List.forall_mem_cons.2 ⟨hn, ih hns⟩

/-! ## 2. Nodes around the text -/

theorem proper_bibliographyNodes {html : String} {entries : List Node}
    (h : bibliographyNodes html = .ok entries) : ∀ n ∈ entries, n.Proper := fun n hn => by
  obtain ⟨line, -, hline⟩ := mem_of_mapM_eq_ok h hn
  exact Html.proper_importNode hline

theorem proper_referencesSection (config : HeadingsConfig) {entries : List Node}
    (h : ∀ n ∈ entries, n.Proper) : ∀ n ∈ referencesSection config entries, n.Proper := by
  rw [referencesSection]
  split
  · exact fun n hn => by cases hn
  · exact List.forall_mem_cons.2 ⟨Node.proper_heading 1 Dict.canonical_empty _, h⟩

theorem proper_abstractHeading (config : HeadingsConfig) : (abstractHeading config).Proper := by
  refine Node.proper_heading 1 (Dict.canonical_ofList fun e he => ?_) _
  rcases List.mem_pair.1 he with rfl | rfl <;> exact Json.isCanonical_string _

theorem proper_keywordsParagraph (config : HeadingsConfig) (keywords : String) :
    (keywordsParagraph config keywords).Proper := by
  refine Node.proper_paragraph fun n hn => ?_
  rcases List.mem_pair.1 hn with rfl | rfl
  · exact Node.proper_marked _ .strong
  · exact Node.proper_marked _ .em

theorem proper_crossmarkBadge (config : CrossmarkConfig) (doi : String) :
    (crossmarkBadge config doi).Proper := by
  refine .element (by decide) (Dict.canonical_ofList fun e he => ?_) fun n hn => by cases hn
  simp only [List.mem_cons, List.not_mem_nil, or_false] at he
  rcases he with rfl | rfl | rfl | rfl | rfl <;> rfl

theorem proper_abstractNodes {config : HeadingsConfig} {html : String} {nodes : Fragment}
    (h : abstractNodes config html = .ok nodes) : ∀ n ∈ nodes, n.Proper := by
  obtain ⟨text, himport, h⟩ := exists_of_bind_eq_ok h
  rw [← Except.ok.inj h]
  exact List.forall_mem_cons.2 ⟨proper_abstractHeading config, Html.proper_importFragment himport⟩

/-- Keywords and badge stand behind the abstract. -/
theorem proper_behindAbstract (front : FrontMatter) (headings : HeadingsConfig)
    (crossmark : CrossmarkConfig) {abstract : Fragment} (h : ∀ n ∈ abstract, n.Proper) :
    ∀ n ∈ abstract ++ front.keywords.toList.map (keywordsParagraph headings) ++
      front.doi.toList.flatMap fun doi =>
        [crossmarkBadge crossmark doi, .emptyParagraph, .emptyParagraph], n.Proper := by
  refine List.forall_mem_append.2 ⟨List.forall_mem_append.2 ⟨h, fun n hn => ?_⟩, fun n hn => ?_⟩
  · obtain ⟨keywords, -, rfl⟩ := List.mem_map.1 hn
    exact proper_keywordsParagraph headings keywords
  · obtain ⟨doi, -, hn⟩ := List.mem_flatMap.1 hn
    simp only [List.mem_cons, List.not_mem_nil, or_false] at hn
    rcases hn with rfl | rfl | rfl
    · exact proper_crossmarkBadge crossmark doi
    · exact Node.proper_emptyParagraph
    · exact Node.proper_emptyParagraph

theorem proper_frontMatter {front : FrontMatter} {headings : HeadingsConfig}
    {crossmark : CrossmarkConfig} {nodes : Fragment}
    (h : front.nodes headings crossmark = .ok nodes) : ∀ n ∈ nodes, n.Proper := by
  rw [FrontMatter.nodes] at h
  split at h
  · obtain ⟨abstract, habstract, h⟩ := exists_of_bind_eq_ok h
    rw [← Except.ok.inj h]
    exact proper_behindAbstract front headings crossmark (proper_abstractNodes habstract)
  · rw [← Except.ok.inj h]
    exact proper_behindAbstract front headings crossmark fun n hn => by cases hn

/-! ## 3. The finished document -/

namespace Manuscript

variable {config : Config} {f : Formatter} {m : Manuscript} {doc : Fragment}

/-- The text of a document keeps its nodes proper. -/
theorem proper_text (h : ∀ n ∈ doc, n.Proper) :
    ∀ n ∈ (text config f m doc).value.2, n.Proper := by
  have hrelabel : ∀ n ∈ (relabel config f m doc).value.2, n.Proper := by
    simp only [relabel, Logged.value_bind]
    split <;> exact proper_relabelNodes _ _ doc 0 h
  simp only [text, Logged.value_bind, Logged.value_pure]
  exact proper_captionFrom _ _ 0 _ (proper_blankAbstracts _ _ hrelabel)

theorem proper_references {b : Bibliography} {nodes : Fragment}
    (h : references config f b = .ok nodes) : ∀ n ∈ nodes, n.Proper := by
  obtain ⟨html, -, h⟩ := exists_of_bind_eq_ok h
  obtain ⟨entries, hentries, h⟩ := exists_of_bind_eq_ok h
  rw [← Except.ok.inj h]
  exact proper_referencesSection _ (proper_bibliographyNodes hentries)

theorem proper_nodes (h : ∀ n ∈ doc, n.Proper) {out : Logged Fragment}
    (hout : m.nodes config f doc = .ok out) : ∀ n ∈ out.value, n.Proper := by
  obtain ⟨references, hreferences, hout⟩ := exists_of_bind_eq_ok hout
  obtain ⟨front, hfront, hout⟩ := exists_of_bind_eq_ok hout
  rw [← Except.ok.inj hout]
  exact List.forall_mem_append.2 ⟨proper_frontMatter hfront,
    List.forall_mem_append.2 ⟨proper_text h, proper_references hreferences⟩⟩

end Manuscript

end Galley
