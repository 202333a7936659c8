import Galley.Proofs.Finish.ReferenceImport
import Galley.Proofs.Finish.Relabelling
import Galley.Proofs.Finish.TableCaptions
import Galley.Proofs.Html.Blocks
import Galley.Proofs.Steps

/-!
# Headings of the abstract

A heading of the first level with the abstract's title stands at the top of a finished document
once, in front of everything, when an abstract is supplied. Without one, such headings are the
document's own, and have the abstract's identifier. Main statement:
`Manuscript.abstractHeadings_nodes`.
-/

namespace Galley

/-- The abstract headings among the nodes. -/
def abstractHeadings (config : HeadingsConfig) (nodes : Fragment) : List Node :=
  nodes.filter (isAbstractHeading config)

/-- An abstract heading with the abstract's identifier. -/
def isIdentified (config : HeadingsConfig) (n : Node) : Bool :=
  isAbstractHeading config n && n.attrText? "id" == some config.abstractId

section Headings

variable {config : HeadingsConfig}

/-! ## 1. Which nodes are abstract headings -/

theorem isAbstractHeading_of_kind {n : Node} (h : n.isElement "heading" = false) :
    isAbstractHeading config n = false := by
  rw [isAbstractHeading, h, Bool.false_and, Bool.false_and]

/-- A heading with one run of text has the text of that run. -/
theorem isAbstractHeading_heading (attrs : Attrs) (title : String) :
    isAbstractHeading config (.heading 1 attrs [.plain title]) =
      (title == config.abstractTitle) := by
  have hattr : (Node.heading 1 attrs [.plain title]).attr? "level" = some (Json.nat 1) :=
    attrs.get?_insert_self "level" _
  have hlevel : (Node.heading 1 attrs [.plain title]).level? = some 1 := by
    rw [Node.level?, hattr]
    rfl
  have htext : (Node.heading 1 attrs [.plain title]).textContent = title := String.append_empty
  rw [isAbstractHeading, hlevel, htext]
  rfl

theorem isAbstractHeading_abstractHeading (config : HeadingsConfig) :
    isAbstractHeading config (abstractHeading config) = true := by
  rw [abstractHeading, isAbstractHeading_heading, beq_self_eq_true]

theorem attrText?_abstractHeading (config : HeadingsConfig) :
    (abstractHeading config).attrText? "id" = some config.abstractId := rfl

theorem abstractHeadings_append (ns ns' : Fragment) :
    abstractHeadings config (ns ++ ns') =
      abstractHeadings config ns ++ abstractHeadings config ns' :=
  List.filter_append ..

theorem abstractHeadings_cons_of_kind {n : Node} (h : n.isElement "heading" = false)
    (ns : Fragment) : abstractHeadings config (n :: ns) = abstractHeadings config ns :=
  List.filter_cons_of_neg (by simp [isAbstractHeading_of_kind h])

theorem abstractHeadings_eq_nil {ns : Fragment} (h : ∀ n ∈ ns, n.isElement "heading" = false) :
    abstractHeadings config ns = [] :=
  List.filter_eq_nil_iff.2 fun n hn => by simp [isAbstractHeading_of_kind (h n hn)]

/-! ## 2. Relabelling -/

/-- A node with other labels on its citations, and otherwise as it was. -/
def Relabelled (n n' : Node) : Prop :=
  ∃ label, Relabels label n.keyed n.at? n'.at?

theorem isElement_of_shell {n n' : Node} (h : n'.shell = n.shell) (kind : String) :
    n'.isElement kind = n.isElement kind := by
  cases n <;> cases n' <;> simp only [Node.shell, Shell.element.injEq, reduceCtorEq] at h
  · rw [Node.isElement, Node.isElement, h.1]
  · rfl

theorem Relabelled.isElement_eq {n n' : Node} (h : Relabelled n n') (kind : String) :
    n'.isElement kind = n.isElement kind := by
  obtain ⟨label, hrel⟩ := h
  by_cases hkeyed : ∃ key, ([], key) ∈ n.keyed
  · obtain ⟨key, hkey⟩ := hkeyed
    obtain ⟨i, hi⟩ := List.getElem?_of_mem hkey
    rw [Option.some.inj (hrel.labelled i [] key hi)]
    exact isElement_withAttr n kind _ _
  · have hshell := hrel.kept [] fun key hkey => hkeyed ⟨key, hkey⟩
    exact isElement_of_shell (Option.some.inj hshell) kind

theorem Relabelled.attr?_eq {n n' : Node} (h : Relabelled n n') {name : String}
    (hname : name ≠ "customLabel") : n'.attr? name = n.attr? name := by
  obtain ⟨label, hrel⟩ := h
  exact hrel.attr?_eq [] hname

/-- Labels decide nothing about abstract headings. -/
theorem Relabelled.isAbstractHeading_eq {n n' : Node} (h : Relabelled n n')
    (htext : n'.textContent = n.textContent) :
    isAbstractHeading config n' = isAbstractHeading config n := by
  rw [isAbstractHeading, isAbstractHeading, h.isElement_eq, Node.level?, Node.level?,
    h.attr?_eq (by decide), htext]

theorem Relabelled.isIdentified_eq {n n' : Node} (h : Relabelled n n')
    (htext : n'.textContent = n.textContent) :
    isIdentified config n' = isIdentified config n := by
  rw [isIdentified, isIdentified, h.isAbstractHeading_eq htext, Node.attrText?, Node.attrText?,
    h.attr?_eq (by decide)]

section Relabelling

variable (store : CitationStore) (occurrences : List Occurrence)

theorem textContent_relabelCitation (c : Node) (start : Nat) :
    (relabelCitation store occurrences c start).value.1.textContent = c.textContent := by
  unfold relabelCitation
  cases Bibtex.entryKey? c.rawEntry with
  | none => rfl
  | some key =>
    simp only [Logged.value_state_bind, Logged.value_state_pure]
    cases c <;> rfl

mutual

theorem textContent_relabelNode : ∀ (n : Node) (start : Nat),
    (relabelNode store occurrences n start).value.1.textContent = n.textContent
  | .text s marks, start => rfl
  | .element kind attrs content, start => by
    rw [relabelNode]
    split
    · exact textContent_relabelCitation store occurrences _ start
    · exact textOf_relabelNodes content start

theorem textOf_relabelNodes : ∀ (ns : List Node) (start : Nat),
    Node.textOf (relabelNodes store occurrences ns start).value.1 = Node.textOf ns
  | [], start => rfl
  | n :: ns, start => by
    rw [relabelNodes]
    simp only [Logged.value_state_bind, Logged.value_state_pure]
    rw [Node.textOf, textContent_relabelNode n, textOf_relabelNodes ns, Node.textOf]

end

/-- The nodes of a document are relabelled one by one, and none of them says anything else. -/
theorem forall₂_relabelNodes (ns : List Node) (start : Nat) :
    List.Forall₂ (fun n n' => Relabelled n n' ∧ n'.textContent = n.textContent) ns
      (relabelNodes store occurrences ns start).value.1 := by
  induction ns generalizing start with
  | nil => exact .nil
  | cons n ns ih =>
    rw [relabelNodes]
    simp only [Logged.value_state_bind, Logged.value_state_pure]
    refine .cons ⟨⟨_, (relabels_relabelNode store occurrences n start).1⟩, ?_⟩ (ih _)
    exact textContent_relabelNode store occurrences n start

/-- The identified headings of a document are those that it had before, relabelled. -/
theorem forall₂_identified (ns : List Node) (start : Nat) :
    List.Forall₂ Relabelled (ns.filter (isIdentified config))
      ((relabelNodes store occurrences ns start).value.1.filter (isIdentified config)) := by
  have hnodes := forall₂_relabelNodes store occurrences ns start
  refine (List.rel_filter (fun n n' h => ?_) hnodes).imp fun _ _ h => h.1
  show _ = true ↔ _ = true
  rw [h.1.isIdentified_eq h.2]

end Relabelling

/-! ## 3. Blanking and captions -/

/-- What blanking makes of a node: an abstract heading may become an empty paragraph, and nothing
    else changes. -/
def BlankedTo (config : HeadingsConfig) (n n' : Node) : Prop :=
  n' = n ∨ isAbstractHeading config n = true ∧ n' = .emptyParagraph

theorem blankedTo_blankAbstracts (supplied : Bool) (doc : Fragment) :
    List.Forall₂ (BlankedTo config) doc (blankAbstracts config supplied doc) := by
  rw [blankAbstracts, List.forall₂_map_right_iff]
  refine List.forall₂_same.2 fun n _ => ?_
  by_cases hdup : duplicatesAbstract config supplied n = true
  · rw [if_pos hdup]
    exact Or.inr ⟨(Bool.and_eq_true_iff.1 hdup).1, rfl⟩
  · rw [if_neg hdup]
    exact Or.inl rfl

/-- What is still an abstract heading after blanking: an identified one, when no abstract is
    supplied. -/
theorem isAbstractHeading_blanked (supplied : Bool) (n : Node) :
    isAbstractHeading config (if duplicatesAbstract config supplied n then .emptyParagraph else n) =
      (!supplied && isIdentified config n) := by
  have hempty : isAbstractHeading config .emptyParagraph = false := isAbstractHeading_of_kind rfl
  rw [apply_ite (isAbstractHeading config), hempty, duplicatesAbstract, isIdentified, bne]
  cases isAbstractHeading config n <;> cases supplied <;>
    cases n.attrText? "id" == some config.abstractId <;> rfl

theorem abstractHeadings_blankAbstracts (supplied : Bool) (doc : Fragment) :
    abstractHeadings config (blankAbstracts config supplied doc) =
      doc.filter fun n => !supplied && isIdentified config n := by
  rw [blankAbstracts, abstractHeadings, List.filter_map]
  simp only [Function.comp_def, isAbstractHeading_blanked]
  -- what stays an abstract heading is not blanked
  refine (List.map_congr_left fun n hn => ?_).trans (List.map_id _)
  have hstays := (List.mem_filter.1 hn).2
  rw [← isAbstractHeading_blanked] at hstays
  by_cases hdup : duplicatesAbstract config supplied n = true
  · rw [if_pos hdup] at hstays
    cases hstays
  · exact if_neg hdup

theorem abstractHeadings_dropRepeated (caption : String) (ns : Fragment) :
    abstractHeadings config (dropRepeated caption ns) = abstractHeadings config ns := by
  cases ns with
  | nil => rfl
  | cons n ns =>
    rw [dropRepeated]
    split
    · next h =>
      have hparagraph := (Bool.and_eq_true_iff.1 h).1
      rw [abstractHeadings_cons_of_kind (not_isElement_of_ne hparagraph (by decide))]
    · rfl

/-- Captions are no headings, and no heading gets one. -/
theorem abstractHeadings_captionFrom (tables : TablesConfig) (captions : List Markup.TableCaption)
    (count : Nat) (ns : Fragment) :
    abstractHeadings config (captionFrom tables captions count ns).value =
      abstractHeadings config ns := by
  induction count, ns using captionFrom.induct captions with
  | case1 count => rw [captionFrom]; rfl
  | case2 count n ns htable hcaption ih =>
    have hkind : n.isElement "heading" = false := not_isElement_of_ne htable (by decide)
    rw [captionFrom, if_pos htable, hcaption, abstractHeadings_cons_of_kind hkind, ← ih]
    exact abstractHeadings_cons_of_kind hkind _
  | case3 count n ns htable caption hcaption ih =>
    have hkind : n.isElement "heading" = false := not_isElement_of_ne htable (by decide)
    have hstyled : (styledTable tables n).isElement "heading" = false := by
      rw [styledTable, isElement_withAttr, isElement_withAttr, isElement_withAttr, hkind]
    rw [captionFrom, if_pos htable, hcaption, abstractHeadings_cons_of_kind hkind]
    refine (abstractHeadings_cons_of_kind rfl _).trans ?_
    rw [abstractHeadings_cons_of_kind hstyled, ih, abstractHeadings_dropRepeated]
  | case4 count n ns htable ih =>
    rw [captionFrom, if_neg htable, ← List.singleton_append, abstractHeadings_append, ← ih,
      ← abstractHeadings_append]
    rfl

/-! ## 4. Nodes around the text -/

/-- What an element becomes is a paragraph or a run of text. -/
theorem not_heading_of_importElement? {d : Html.Dom} {n : Node}
    (h : Html.importElement? d = some (.node n)) : n.isElement "heading" = false := by
  cases d with
  | text s => rw [Html.importElement?_text] at h; cases h
  | comment => rw [Html.importElement?_comment] at h; cases h
  | element name attrs children =>
    by_cases hname : name.toLower = "p"
    · rw [Html.importElement?_of_isParagraph hname] at h
      cases h
      rfl
    · obtain ⟨-, mark, -, he | he⟩ := Html.importElement?_eq_some hname h
      · cases he
        rfl
      · cases he

theorem not_heading_of_importNode {html : String} {n : Node} (h : Html.importNode html = .ok n) :
    n.isElement "heading" = false := by
  rw [Html.importNode] at h
  obtain ⟨body, -, h⟩ := exists_of_bind_eq_ok h
  split at h
  · split at h
    · next m hm =>
      rw [← Except.ok.inj h]
      exact not_heading_of_importElement? hm
    · cases h
  · cases h

theorem abstractHeadings_bibliographyNodes {html : String} {entries : List Node}
    (h : bibliographyNodes html = .ok entries) : abstractHeadings config entries = [] :=
  abstractHeadings_eq_nil fun n hn => by
    obtain ⟨line, -, hline⟩ := mem_of_mapM_eq_ok h hn
    exact not_heading_of_importNode hline

/-- The heading of the reference list is no abstract heading where its title is another one. -/
theorem abstractHeadings_referencesSection (htitle : config.referencesTitle ≠ config.abstractTitle)
    {entries : List Node} (h : abstractHeadings config entries = []) :
    abstractHeadings config (referencesSection config entries) = [] := by
  rw [referencesSection]
  split
  · rfl
  · rw [abstractHeadings, List.filter_cons_of_neg, ← abstractHeadings, h]
    rw [isAbstractHeading_heading, beq_false_of_ne htitle]
    exact Bool.false_ne_true

theorem exists_abstractNodes {html : String} {nodes : Fragment}
    (h : abstractNodes config html = .ok nodes) :
    ∃ text, nodes = abstractHeading config :: text ∧ ∀ n ∈ text, n.isElement "heading" = false := by
  obtain ⟨text, himport, h⟩ := exists_of_bind_eq_ok h
  obtain ⟨body, -, himport⟩ := exists_of_bind_eq_ok himport
  refine ⟨text, (Except.ok.inj h).symm, fun n hn => ?_⟩
  rw [← Except.ok.inj himport] at hn
  exact not_isElement_of_ne (Html.isElement_of_mem_blocks hn) (by decide)

/-- What stands in front of the text begins with the abstract's heading, when there is an abstract,
    and has no other heading. -/
theorem exists_frontMatter {front : FrontMatter} {crossmark : CrossmarkConfig} {nodes : Fragment}
    (h : front.nodes config crossmark = .ok nodes) :
    ∃ behind, nodes = (front.abstract.map fun _ => abstractHeading config).toList ++ behind ∧
      ∀ n ∈ behind, n.isElement "heading" = false := by
  have hothers : ∀ n ∈ front.keywords.toList.map (keywordsParagraph config) ++
      front.doi.toList.flatMap fun doi =>
        [crossmarkBadge crossmark doi, .emptyParagraph, .emptyParagraph],
      n.isElement "heading" = false := by
    refine List.forall_mem_append.2 ⟨fun n hn => ?_, fun n hn => ?_⟩
    · obtain ⟨keywords, -, rfl⟩ := List.mem_map.1 hn
      rfl
    · obtain ⟨doi, -, hn⟩ := List.mem_flatMap.1 hn
      simp only [List.mem_cons, List.not_mem_nil, or_false] at hn
      rcases hn with rfl | rfl | rfl <;> rfl
  rw [FrontMatter.nodes] at h
  cases hgiven : front.abstract with
  | none =>
    rw [hgiven] at h
    rw [← Except.ok.inj h, List.append_assoc]
    exact ⟨_, rfl, hothers⟩
  | some html =>
    rw [hgiven] at h
    obtain ⟨abstract, habstract, h⟩ := exists_of_bind_eq_ok h
    obtain ⟨text, rfl, htext⟩ := exists_abstractNodes habstract
    rw [← Except.ok.inj h, List.append_assoc]
    exact ⟨text ++ _, rfl, List.forall_mem_append.2 ⟨htext, hothers⟩⟩

end Headings

/-! ## 5. The finished document -/

namespace Manuscript

variable {config : Config} {f : Formatter} {m : Manuscript} {doc : Fragment}

theorem abstractHeadings_text :
    abstractHeadings config.headings (text config f m doc).value.2 =
      (relabel config f m doc).value.2.filter fun n =>
        !m.frontMatter.abstract.isSome && isIdentified config.headings n := by
  simp only [text, Logged.value_bind, Logged.value_pure]
  rw [captionTables, abstractHeadings_captionFrom, abstractHeadings_blankAbstracts]

theorem abstractHeadings_references
    (htitle : config.headings.referencesTitle ≠ config.headings.abstractTitle)
    {b : Bibliography} {nodes : Fragment} (h : references config f b = .ok nodes) :
    abstractHeadings config.headings nodes = [] := by
  obtain ⟨html, -, h⟩ := exists_of_bind_eq_ok h
  obtain ⟨entries, hentries, h⟩ := exists_of_bind_eq_ok h
  rw [← Except.ok.inj h]
  exact abstractHeadings_referencesSection htitle (abstractHeadings_bibliographyNodes hentries)

/-- The identified headings of a document are relabelled like all its nodes. -/
theorem forall₂_relabel :
    List.Forall₂ Relabelled (doc.filter (isIdentified config.headings))
      ((relabel config f m doc).value.2.filter (isIdentified config.headings)) := by
  simp only [relabel, Logged.value_bind]
  split <;> exact forall₂_identified _ _ doc 0

/-- What stands at the top of a finished document, with the abstract headings in it. -/
theorem exists_nodes (htitle : config.headings.referencesTitle ≠ config.headings.abstractTitle)
    {out : Logged Fragment} (hout : m.nodes config f doc = .ok out) :
    ∃ rest, out.value =
        (m.frontMatter.abstract.map fun _ => abstractHeading config.headings).toList ++ rest ∧
      abstractHeadings config.headings rest = (relabel config f m doc).value.2.filter fun n =>
        !m.frontMatter.abstract.isSome && isIdentified config.headings n := by
  obtain ⟨references, hreferences, hout⟩ := exists_of_bind_eq_ok hout
  obtain ⟨front, hfront, hout⟩ := exists_of_bind_eq_ok hout
  obtain ⟨behind, rfl, hbehind⟩ := exists_frontMatter hfront
  rw [← Except.ok.inj hout]
  refine ⟨behind ++ ((text config f m doc).value.2 ++ references), List.append_assoc .., ?_⟩
  rw [abstractHeadings_append, abstractHeadings_append, abstractHeadings_eq_nil hbehind,
    abstractHeadings_text, abstractHeadings_references htitle hreferences, List.nil_append,
    List.append_nil]

/-- **A finished document has the heading of the abstract once.** A supplied abstract stands in
    front under the only abstract heading; without one, the abstract headings are the document's
    own identified ones, with nothing but labels changed in them. Blanking takes no node away: it
    makes empty paragraphs of abstract headings, and leaves every other node as it is. -/
theorem abstractHeadings_nodes (config : Config) (f : Formatter) (m : Manuscript) (doc : Fragment)
    (htitle : config.headings.referencesTitle ≠ config.headings.abstractTitle)
    {out : Logged Fragment} (hout : m.nodes config f doc = .ok out) :
    ((nonBlank m.abstract).isSome = true → ∃ heading rest, out.value = heading :: rest ∧
        abstractHeadings config.headings out.value = [heading] ∧
        heading.attrText? "id" = some config.headings.abstractId) ∧
      (nonBlank m.abstract = none →
        (∀ n ∈ abstractHeadings config.headings out.value,
          n.attrText? "id" = some config.headings.abstractId) ∧
        List.Forall₂ Relabelled (doc.filter (isIdentified config.headings))
          (abstractHeadings config.headings out.value)) ∧
      ∀ (supplied : Bool) (nodes : Fragment),
        (blankAbstracts config.headings supplied nodes).length = nodes.length ∧
        List.Forall₂ (BlankedTo config.headings) nodes
          (blankAbstracts config.headings supplied nodes) := by
  obtain ⟨rest, hvalue, hrest⟩ := exists_nodes htitle hout
  have habstract : m.frontMatter.abstract = nonBlank m.abstract := rfl
  rw [habstract] at hvalue hrest
  refine ⟨fun hsome => ?_, fun hnone => ?_, fun supplied nodes => ⟨List.length_map _, ?_⟩⟩
  · obtain ⟨html, hhtml⟩ := Option.isSome_iff_exists.1 hsome
    rw [hhtml] at hvalue hrest
    have halone : abstractHeadings config.headings rest = [] := by
      rw [hrest]
      exact List.filter_eq_nil_iff.2 fun _ _ => Bool.false_ne_true
    refine ⟨_, rest, hvalue, ?_, attrText?_abstractHeading config.headings⟩
    rw [hvalue, abstractHeadings_append, halone, List.append_nil]
    exact List.filter_cons_of_pos (isAbstractHeading_abstractHeading config.headings)
  · rw [hnone] at hvalue hrest
    have hown : abstractHeadings config.headings out.value =
        (relabel config f m doc).value.2.filter (isIdentified config.headings) := by
      rw [hvalue]
      exact hrest
    rw [hown]
    refine ⟨fun n hn => ?_, forall₂_relabel⟩
    exact eq_of_beq (Bool.and_eq_true_iff.1 (List.mem_filter.1 hn).2).2
  · exact blankedTo_blankAbstracts supplied nodes

/-- A document with two abstract headings: an identified one, with a citation inside its title, and
    one without attributes. -/
def headedDocument : Fragment :=
  [.heading 1 (Dict.ofList [("id", .string "abstract")])
      [.plain "Abs", .citation (Dict.ofList [("value", .string "@misc\x7bx,")]), .plain "tract"],
    .paragraph [.plain "What we did."],
    .heading 1 Dict.empty [.plain "Abstract"]]

/-- Where every work has its entry on one line, a run fails of nothing but its abstract. -/
theorem exists_nodes_of_oneLine {b : Bibliography} (h : ∀ r ∈ b.values, AuthorDate.OneLine r)
    (hbibliography : m.bibliography = some b) (habstract : abstractFailure? m.abstract = none)
    (config : Config) (doc : Fragment) :
    ∃ out, m.nodes config AuthorDate.formatter doc = .ok out := by
  have hrun := failure?_nodes config AuthorDate.formatter hbibliography doc
  rw [← failure?_references, AuthorDate.references_of_oneLine h, habstract] at hrun
  cases hout : m.nodes config AuthorDate.formatter doc with
  | ok out => exact ⟨out, rfl⟩
  | error cause =>
    rw [hout] at hrun
    cases hrun

/-- Of the two headings the identified one is left, and a supplied abstract puts its own in the
    place of both. -/
theorem abstractHeadings_headedDocument :
    let m := bareManuscript AuthorDate.markedTitle
    ∃ own supplied,
      { m with abstract := none }.nodes {} AuthorDate.formatter headedDocument = .ok own ∧
      m.nodes {} AuthorDate.formatter headedDocument = .ok supplied ∧
      (abstractHeadings {} own.value).length = 1 ∧
      (abstractHeadings {} supplied.value).length = 1 := by
  intro m
  have htitle : ({} : HeadingsConfig).referencesTitle ≠ ({} : HeadingsConfig).abstractTitle := by
    decide
  have hlines : ∀ r ∈ AuthorDate.markedTitle.values, AuthorDate.OneLine r := by decide +kernel
  have hgiven : nonBlank m.abstract = some "<p>We did it.</p>" := by decide +kernel
  have hbody : ((Html.parse "<p>We did it.</p>").find? "body").isSome = true := by decide +kernel
  have himport : abstractFailure? m.abstract = none := by
    obtain ⟨body, hbody⟩ := Option.isSome_iff_exists.1 hbody
    rw [abstractFailure?, hgiven, Option.bind_some, Html.importFragment, Html.body, hbody]
    rfl
  obtain ⟨own, hown⟩ :=
    exists_nodes_of_oneLine (m := { m with abstract := none }) hlines rfl rfl {} headedDocument
  obtain ⟨supplied, hsupplied⟩ := exists_nodes_of_oneLine hlines rfl himport {} headedDocument
  have hidentified : (headedDocument.filter (isIdentified {})).length = 1 := by decide +kernel
  obtain ⟨-, hleft, -⟩ := abstractHeadings_nodes {} AuthorDate.formatter _ _ htitle hown
  obtain ⟨hput, -, -⟩ := abstractHeadings_nodes {} AuthorDate.formatter _ _ htitle hsupplied
  obtain ⟨heading, rest, -, halone, -⟩ := hput (by rw [hgiven]; rfl)
  refine ⟨own, supplied, hown, hsupplied, ?_, ?_⟩
  · rw [← (hleft rfl).2.length_eq, hidentified]
  · exact congrArg List.length halone

end Manuscript

end Galley
