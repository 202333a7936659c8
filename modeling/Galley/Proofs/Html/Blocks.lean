import Galley.Proofs.Html.Runs

/-!
# What is imported from a body

Whatever stands in the body of a page, its import is paragraphs of runs of text, and it shows what
stands in the body in the same order: paragraphs and those in containers as they stand there, and
what runs between them as paragraphs of its own. Main statement: `importOf_blocks`.
-/

namespace Galley.Html

variable {ds es : List Dom}

/-! ## 1. Paragraphs and containers -/

/-- An element whose content stands among the blocks. -/
def Dom.isContainer : Dom → Bool
  | .element name _ _ => Html.isContainer name.toLower
  | _ => false

mutual

/-- The contents of the paragraphs that stand in nothing but containers, in the order of the
    text. -/
def blockParagraphs : List Dom → List (List Dom)
  | [] => []
  | d :: ds => blockParagraphsIn d ++ blockParagraphs ds

/-- The content of a paragraph, or those of the paragraphs in a container. -/
def blockParagraphsIn : Dom → List (List Dom)
  | .element name _ children =>
    if name.toLower = "p" then [children]
    else if isContainer name.toLower then blockParagraphs children
    else []
  | .text _ => []
  | .comment => []

end

/-! ## 2. Text -/

/-- The characters of the nodes stand in the document, in the same order. -/
def ShowsText (nodes : List Node) (ds : List Dom) : Prop :=
  (Node.textOf nodes).toList.Sublist (Dom.textOf ds).toList

theorem Dom.textOf_append (ds es : List Dom) : textOf (ds ++ es) = textOf ds ++ textOf es := by
  induction ds with
  | nil => rw [List.nil_append, textOf, String.empty_append]
  | cons d ds ih => rw [List.cons_append, textOf, textOf, ih, String.append_assoc]

theorem ShowsText.append {ns ms : List Node} (h : ShowsText ns ds) (h' : ShowsText ms es) :
    ShowsText (ns ++ ms) (ds ++ es) := by
  rw [ShowsText, Node.textOf_append, Dom.textOf_append, String.toList_append, String.toList_append]
  exact List.Sublist.append h h'

theorem showsText_nil (ds : List Dom) : ShowsText [] ds := List.nil_sublist _

/-- Nodes with the text of the document show it. -/
theorem showsText_of_eq {ns : List Node} (h : Node.textOf ns = Dom.textOf ds) :
    ShowsText ns ds := by
  rw [ShowsText, h]

theorem textOf_singleton (n : Node) : Node.textOf [n] = n.textContent := by
  rw [Node.textOf, Node.textOf, String.append_empty]

theorem textOf_element (name : String) (attrs : List (String × String)) (children : List Dom) :
    Dom.textOf [.element name attrs children] = Dom.textOf children := by
  rw [Dom.textOf, Dom.textOf, Dom.textContent, String.append_empty]

mutual

theorem showsText_inlineNode : ∀ d : Dom, ShowsText (inlineNode d) [d]
  | .text s => showsText_of_eq (by
      rw [inlineNode, textOf_textNodes, Dom.textOf, Dom.textOf, Dom.textContent,
        String.append_empty])
  | .comment => by
    rw [inlineNode]
    exact showsText_nil _
  | .element name attrs children => by
    by_cases hname : name.toLower = "p"
    · rw [inlineNode_of_isParagraph hname, ShowsText, textOf_element, textOf_singleton,
        Node.paragraph, Node.textContent]
      exact showsText_inlineNodes children
    · rcases inlineNode_cases hname attrs children with ⟨mark, -, -, hnodes⟩ | hnone
      · rw [hnodes]
        refine showsText_of_eq ?_
        rw [textOf_element, textOf_singleton, Node.textContent]
      · rw [hnone]
        exact showsText_nil _

theorem showsText_inlineNodes : ∀ ds : List Dom, ShowsText (inlineNodes ds) ds
  | [] => by
    rw [inlineNodes]
    exact showsText_nil _
  | d :: ds => by
    rw [inlineNodes]
    exact (showsText_inlineNode d).append (showsText_inlineNodes ds)

end

/-! ## 3. Blocks -/

theorem blockNodes?_of_isParagraph {name : String} (h : name.toLower = "p")
    (attrs : List (String × String)) (children : List Dom) :
    blockNodes? (.element name attrs children) = some [.paragraph (inlineNodes children)] := by
  rw [blockNodes?, if_pos h, importElement?_of_isParagraph h]

theorem blockNodes?_of_isContainer {name : String} (hp : name.toLower ≠ "p")
    (h : isContainer name.toLower = true) (attrs : List (String × String)) (children : List Dom) :
    blockNodes? (.element name attrs children) = some (blocks [] children) := by
  rw [blockNodes?, if_neg hp, if_pos h]

theorem blockNodes?_of_running {d : Dom} (hp : d.isParagraph = false) (h : d.isContainer = false) :
    blockNodes? d = none := by
  cases d with
  | text s => rw [blockNodes?]; simp
  | comment => rw [blockNodes?]; simp
  | element name attrs children =>
    rw [blockNodes?, if_neg (name_ne_of_not_isParagraph hp), if_neg]
    exact Bool.eq_false_iff.1 h

theorem blockParagraphsIn_of_running {d : Dom} (hp : d.isParagraph = false)
    (h : d.isContainer = false) : blockParagraphsIn d = [] := by
  cases d with
  | text s => rfl
  | comment => rfl
  | element name attrs children =>
    rw [blockParagraphsIn, if_neg (name_ne_of_not_isParagraph hp), if_neg]
    exact Bool.eq_false_iff.1 h

/-- **Content is read block by block**: what holds at the end of content, and goes over from what
    follows a paragraph, a container or a piece of running content to the whole, holds of all
    content behind all running content. -/
theorem blocks_induction {P : List Dom → List Node → Prop} (nil : ∀ pending, P [] pending)
    (paragraph : ∀ pending name attrs children ds, name.toLower = "p" → P ds [] →
      P (.element name attrs children :: ds) pending)
    (container : ∀ pending name attrs children ds, name.toLower ≠ "p" →
      isContainer name.toLower = true → P children [] → P ds [] →
      P (.element name attrs children :: ds) pending)
    (running : ∀ pending d ds, d.isParagraph = false → d.isContainer = false →
      P ds (pending ++ inlineNode d) → P (d :: ds) pending) :
    ∀ (ds : List Dom) (pending : List Node), P ds pending
  | [], pending => nil pending
  | .text s :: ds, pending =>
    running pending _ ds rfl rfl (blocks_induction nil paragraph container running ds _)
  | .comment :: ds, pending =>
    running pending _ ds rfl rfl (blocks_induction nil paragraph container running ds _)
  | .element name attrs children :: ds, pending => by
    have hds := blocks_induction nil paragraph container running ds
    by_cases hp : name.toLower = "p"
    · exact paragraph pending name attrs children ds hp (hds [])
    · cases hc : isContainer name.toLower with
      | true =>
        have hchildren := blocks_induction nil paragraph container running children []
        exact container pending name attrs children ds hp hc hchildren (hds [])
      | false =>
        refine running pending _ ds ?_ hc (hds _)
        exact Bool.eq_false_iff.2 (mt isParagraph_element.1 hp)

section Blocks

variable {name : String} (pending : List Node) (attrs : List (String × String))
  (children : List Dom)

theorem blocks_paragraph (h : name.toLower = "p") (ds : List Dom) :
    blocks pending (.element name attrs children :: ds) =
      paragraphOf pending ++ [.paragraph (inlineNodes children)] ++ blocks [] ds := by
  rw [blocks, blockNodes?_of_isParagraph h]

theorem blocks_container (hp : name.toLower ≠ "p") (h : isContainer name.toLower = true)
    (ds : List Dom) :
    blocks pending (.element name attrs children :: ds) =
      paragraphOf pending ++ blocks [] children ++ blocks [] ds := by
  rw [blocks, blockNodes?_of_isContainer hp h]

theorem blocks_running {d : Dom} (hp : d.isParagraph = false) (h : d.isContainer = false)
    (ds : List Dom) : blocks pending (d :: ds) = blocks (pending ++ inlineNode d) ds := by
  rw [blocks, blockNodes?_of_running hp h]

end Blocks

/-! ## 4. The import of a body -/

/-- A paragraph of nodes with the property `R`. -/
def ParagraphOf (R : Node → Prop) (n : Node) : Prop :=
  ∃ content, n = .paragraph content ∧ ∀ r ∈ content, R r

theorem paragraphOf_of_mem {R : Node → Prop} {pending : List Node} (h : ∀ n ∈ pending, R n)
    {n : Node} (hn : n ∈ paragraphOf pending) : ParagraphOf R n := by
  rw [paragraphOf] at hn
  split at hn
  · exact ⟨pending, List.mem_singleton.1 hn, h⟩
  · cases hn

/-- **Blocks are paragraphs**, of nodes that have every property that running content and the
    content of paragraphs give to the nodes they become. -/
theorem paragraphOf_of_mem_blocks {R : Node → Prop}
    (hrunning : ∀ d ∈ Dom.nodesOf es, d.isParagraph = false → ∀ n ∈ inlineNode d, R n)
    (hparagraph : ∀ p ∈ Dom.nodesOf es, p.isParagraph = true → ∀ n ∈ inlineNodes p.children, R n)
    (ds : List Dom) (pending : List Node) :
    (∀ d ∈ ds, d ∈ Dom.nodesOf es) → (∀ n ∈ pending, R n) →
      ∀ n ∈ blocks pending ds, ParagraphOf R n := by
  induction ds, pending using blocks_induction with
  | nil pending =>
    intro _ hpending n hn
    rw [blocks] at hn
    exact paragraphOf_of_mem hpending hn
  | paragraph pending name attrs children ds hname ih =>
    intro hmem hpending
    obtain ⟨hd, hds⟩ := List.forall_mem_cons.1 hmem
    rw [blocks_paragraph _ _ _ hname, List.forall_mem_append, List.forall_mem_append]
    refine ⟨⟨fun n hn => paragraphOf_of_mem hpending hn, fun n hn => ?_⟩, ?_⟩
    · exact ⟨_, List.mem_singleton.1 hn, hparagraph _ hd (isParagraph_element.2 hname)⟩
    · exact ih hds fun _ hn => by cases hn
  | container pending name attrs children ds hp hcontainer ihchildren ih =>
    intro hmem hpending
    obtain ⟨hd, hds⟩ := List.forall_mem_cons.1 hmem
    have hchildren : ∀ d ∈ children, d ∈ Dom.nodesOf es := fun d hd' =>
      Dom.mem_nodesOf_of_children (Dom.mem_nodesOf hd') hd
    rw [blocks_container _ _ _ hp hcontainer, List.forall_mem_append, List.forall_mem_append]
    refine ⟨⟨fun n hn => paragraphOf_of_mem hpending hn, ?_⟩, ih hds fun _ hn => by cases hn⟩
    exact ihchildren hchildren fun _ hn => by cases hn
  | running pending d ds hp hcontainer ih =>
    intro hmem hpending
    obtain ⟨hd, hds⟩ := List.forall_mem_cons.1 hmem
    rw [blocks_running _ hp hcontainer]
    exact ih hds (List.forall_mem_append.2 ⟨hpending, hrunning d hd hp⟩)

/-- What is imported from content is paragraphs. -/
theorem isElement_of_mem_blocks {n : Node} (h : n ∈ blocks [] ds) :
    n.isElement "paragraph" = true := by
  obtain ⟨content, rfl, -⟩ := paragraphOf_of_mem_blocks (R := fun _ => True)
    (fun _ _ _ _ _ => trivial) (fun _ _ _ _ _ => trivial) ds []
    (fun _ hd => Dom.mem_nodesOf hd) (fun _ hn => by cases hn) n h
  rfl

theorem showsText_paragraphOf {pending : List Node} (h : ShowsText pending ds) :
    ShowsText (paragraphOf pending) ds := by
  rw [paragraphOf]
  split
  · rwa [ShowsText, textOf_singleton]
  · exact showsText_nil ds

/-- **Blocks show what the document says, in its order.** -/
theorem showsText_blocks (ds : List Dom) (pending : List Node) (front : List Dom) :
    ShowsText pending front → ShowsText (blocks pending ds) (front ++ ds) := by
  induction ds, pending using blocks_induction generalizing front with
  | nil pending =>
    intro hpending
    rw [blocks, List.append_nil]
    exact showsText_paragraphOf hpending
  | paragraph pending name attrs children ds hname ih =>
    intro hpending
    have hself := showsText_inlineNode (.element name attrs children)
    rw [inlineNode_of_isParagraph hname] at hself
    rw [blocks_paragraph _ _ _ hname, List.append_cons front]
    exact ((showsText_paragraphOf hpending).append hself).append (ih [] (showsText_nil []))
  | container pending name attrs children ds hp hcontainer ihchildren ih =>
    intro hpending
    have hself : ShowsText (blocks [] children) [.element name attrs children] := by
      have hchildren := ihchildren [] (showsText_nil [])
      rwa [List.nil_append, ShowsText, ← textOf_element name attrs] at hchildren
    rw [blocks_container _ _ _ hp hcontainer, List.append_cons front]
    exact ((showsText_paragraphOf hpending).append hself).append (ih [] (showsText_nil []))
  | running pending d ds hp hcontainer ih =>
    intro hpending
    rw [blocks_running _ hp hcontainer, List.append_cons front]
    exact ih _ (hpending.append (showsText_inlineNode d))

/-- **Paragraphs among the blocks are kept**, in their order. -/
theorem blockParagraphs_sublist (ds : List Dom) (pending : List Node) :
    ((blockParagraphs ds).map fun children => Node.paragraph (inlineNodes children)).Sublist
      (blocks pending ds) := by
  induction ds, pending using blocks_induction with
  | nil pending =>
    rw [blockParagraphs]
    exact List.nil_sublist _
  | paragraph pending name attrs children ds hname ih =>
    rw [blocks_paragraph _ _ _ hname, blockParagraphs, blockParagraphsIn, if_pos hname,
      List.map_append, List.append_assoc]
    exact ((List.Sublist.refl _).append ih).trans (List.sublist_append_right _ _)
  | container pending name attrs children ds hp hcontainer ihchildren ih =>
    rw [blocks_container _ _ _ hp hcontainer, blockParagraphs, blockParagraphsIn, if_neg hp,
      if_pos hcontainer, List.map_append, List.append_assoc]
    exact (ihchildren.append ih).trans (List.sublist_append_right _ _)
  | running pending d ds hp hcontainer ih =>
    rwa [blocks_running _ hp hcontainer, blockParagraphs,
      blockParagraphsIn_of_running hp hcontainer, List.nil_append]

theorem length_runOf_le (cs : List Char) : (runOf cs).length ≤ 1 := by
  rw [runOf]
  split <;> simp

theorem length_textNodes_le (s : String) : (textNodes s).length ≤ 3 := by
  rw [textNodes]
  split
  · have := length_runOf_le s.toList
    omega
  · next t _ =>
    have hbefore := length_runOf_le t.before
    have hafter := length_runOf_le t.after
    rw [List.length_append, List.length_cons]
    omega

/-- What an import makes of the content of a body. -/
structure ImportOf (ds : List Dom) (nodes : List Node) : Prop where
  /-- There is nothing but paragraphs of runs of text. -/
  paragraphs : ∀ n ∈ nodes, ParagraphOf (RunFrom ds) n
  /-- The text of the nodes stands in the body, in the same order. -/
  text : (Fragment.textContent nodes).toList.Sublist (Dom.textOf ds).toList
  /-- Each paragraph in nothing but containers becomes a paragraph, in their order. -/
  kept : ((blockParagraphs ds).map fun children => Node.paragraph (inlineNodes children)).Sublist
    nodes
  /-- Text directly in such a paragraph stands in it as up to three runs, which join to it. -/
  runs : ∀ children ∈ blockParagraphs ds, ∀ front s back, children = front ++ .text s :: back →
    ∃ runs, inlineNodes children = inlineNodes front ++ (runs ++ inlineNodes back) ∧
      runs.length ≤ 3 ∧ Node.textOf runs = s

/-- **The shape of what is imported.** -/
theorem importOf_blocks (ds : List Dom) (h : NoDirectParagraphs ds) :
    ImportOf ds (blocks [] ds) where
  paragraphs := by
    refine paragraphOf_of_mem_blocks (fun d hd hp n hn => runFrom_of_mem_inlineNode hp hd hn)
      (fun p hp hparagraph n hn => ?_) ds [] (fun _ hd => Dom.mem_nodesOf hd)
      fun _ hn => by cases hn
    exact runFrom_of_mem_inlineNodes (h p hp hparagraph)
      (fun child hchild => Dom.mem_nodesOf_child hchild hp) hn
  text := showsText_blocks ds [] [] (showsText_nil [])
  kept := blockParagraphs_sublist ds []
  runs children _ front s back he := by
    refine ⟨textNodes s, ?_, length_textNodes_le s, textOf_textNodes s⟩
    rw [he, inlineNodes_append, inlineNodes, inlineNode]

/-- What stands in the paragraph of `mixedBody`: a text with two addresses, and what has no form in
    the tree. -/
def mixedParagraph : List Dom :=
  [.text "at http://a.org or https://b.org", .comment, .element "span" [] [.text "(gone)"],
    .element "div" [] [.element "p" [] []]]

/-- A body with a paragraph in a container, and running text with emphasis and a link around it. -/
def mixedBody : List Dom :=
  [.text "See ", .element "em" [] [.text "this"],
    .element "DIV" [] [.element "p" [] mixedParagraph],
    .element "a" [("href", "https://c.org")] [.text "there"], .text " "]

/-- The text of the paragraph is kept, in up to three runs at its front. -/
theorem importOf_blocks_mixedBody :
    NoDirectParagraphs mixedBody ∧ ∃ runs behind, runs.length ≤ 3 ∧
      Node.textOf runs = "at http://a.org or https://b.org" ∧
      Node.paragraph (runs ++ behind) ∈ blocks [] mixedBody := by
  have hmixed : NoDirectParagraphs mixedBody := by decide +kernel
  have hparagraphs : blockParagraphs mixedBody = [mixedParagraph] := by
    have hp : "p".toLower = "p" := by decide +kernel
    have hdiv : "DIV".toLower ≠ "p" ∧ isContainer "DIV".toLower = true := by decide +kernel
    have hother : ∀ name ∈ ["em", "a"], name.toLower ≠ "p" ∧ isContainer name.toLower = false := by
      decide +kernel
    simp [mixedBody, blockParagraphs, blockParagraphsIn, hp, hdiv, hother]
  have himport := importOf_blocks mixedBody hmixed
  have hmem : mixedParagraph ∈ blockParagraphs mixedBody := by
    rw [hparagraphs]
    exact List.mem_cons_self
  obtain ⟨runs, hnodes, hlength, htext⟩ := himport.runs _ hmem [] _ _ rfl
  have hfront : inlineNodes [] = [] := by rw [inlineNodes]
  have hkept := himport.kept.subset (List.mem_map_of_mem hmem)
  rw [hnodes, hfront, List.nil_append] at hkept
  exact ⟨hmixed, runs, _, hlength, htext, hkept⟩

end Galley.Html
