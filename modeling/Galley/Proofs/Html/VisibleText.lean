import Galley.Proofs.Html.Paragraph

/-!
# What is left of a text

An imported paragraph has the text of its leaves: emphasis keeps its text, and in running text the
first web address becomes a link, whose text it is. The text of a link whose target is no web
address is dropped. Main statement: `textOf_leafNodes`.
-/

namespace Galley

/-! ## 1. Running text -/

theorem Node.textOf_append (ns ms : List Node) : textOf (ns ++ ms) = textOf ns ++ textOf ms := by
  induction ns with
  | nil => rw [List.nil_append, textOf, String.empty_append]
  | cons n ns ih => rw [List.cons_append, textOf, textOf, ih, String.append_assoc]

namespace Html

open Galley.Text
open Galley.Rich (Leaf)

/-- An address ahead and what follows it are the text. -/
theorem append_of_addressAhead? {cs address after : List Char}
    (h : addressAhead? cs = some (address, after)) : address ++ after = cs := by
  have hsuffix {word rest : List Char} (hrest : after? word cs = some rest) :
      (breakAt isBlank rest).2 <:+ cs :=
    (List.dropWhile_suffix _).trans ⟨word, (after?_eq_some_iff.1 hrest).symm⟩
  simp only [addressAhead?] at h
  split at h
  · cases h
  · next rest hrest =>
    have hbehind : (breakAt isBlank rest).2 <:+ cs := by
      split at hrest
      · next hword => exact hsuffix (hword.trans hrest)
      · exact hsuffix hrest
    split at h
    · cases h
    · rw [← (Prod.mk.inj (Option.some.inj h)).1, ← (Prod.mk.inj (Option.some.inj h)).2]
      have hdrop := List.suffix_iff_eq_drop.1 hbehind
      exact (congrArg (_ ++ ·) hdrop).trans (List.take_append_drop _ _)

/-- The parts of a text around an address are the text. -/
theorem append_of_find? {cs : List Char} {t : LinkedText} (h : LinkedText.find? cs = some t) :
    t.before ++ (t.address ++ t.after) = cs := by
  induction cs generalizing t with
  | nil => cases h
  | cons c cs ih =>
    rw [LinkedText.find?] at h
    split at h
    · next address after hahead =>
      rw [← Option.some.inj h, List.nil_append]
      exact append_of_addressAhead? hahead
    · obtain ⟨u, hu, rfl⟩ := Option.map_eq_some_iff.1 h
      exact congrArg (c :: ·) (ih hu)

theorem textOf_runOf (cs : List Char) : Node.textOf (runOf cs) = String.ofList cs := by
  rw [runOf]
  split
  · next h => rw [List.isEmpty_iff.1 h]; rfl
  · rw [Node.textOf, Node.textOf, String.append_empty]; rfl

/-- The nodes of a text have the text. -/
theorem textOf_textNodes (s : String) : Node.textOf (textNodes s) = s := by
  rw [textNodes]
  split
  · rw [textOf_runOf, String.ofList_toList]
  · next t ht =>
    rw [Node.textOf_append, Node.textOf, textOf_runOf, textOf_runOf, Node.textContent,
      ← String.ofList_append, ← String.ofList_append, append_of_find? ht, String.ofList_toList]

/-! ## 2. Pieces -/

theorem inlineNodes_append (ds es : List Dom) :
    inlineNodes (ds ++ es) = inlineNodes ds ++ inlineNodes es := by
  induction ds with
  | nil => rw [List.nil_append, inlineNodes, List.nil_append]
  | cons d ds ih => rw [List.cons_append, inlineNodes, inlineNodes, ih, List.append_assoc]

theorem textOf_children_piece (s : List Char) :
    Dom.textOf (if s.isEmpty then [] else [.text (String.ofList s)]) = String.ofList s := by
  split
  · next h => rw [List.isEmpty_iff.1 h]; rfl
  · rw [Dom.textOf, Dom.textOf, Dom.textContent, String.append_empty]

/-- What is left of a link: its text, when its target is a web address. -/
def visibleLink (url s : List Char) : List Char :=
  if Web.isAddress (String.ofList (url.map attributeChar)) then s else []

theorem textOf_inlineNode_emph (s : List Char) :
    Node.textOf (inlineNode (Piece.element emphTag s).dom) = String.ofList s := by
  have hdom : (Piece.element emphTag s).dom =
      .element "i" [] (if s.isEmpty then [] else [.text (String.ofList s)]) := rfl
  rw [hdom, inlineNode, importElement?_emphasis, textOf_children_piece]
  by_cases hempty : (String.ofList s).isEmpty = true
  · rw [if_pos hempty, String.isEmpty_iff.1 hempty]
    rfl
  · rw [if_neg hempty]
    exact String.append_empty

theorem textOf_inlineNode_link (url s : List Char) :
    Node.textOf (inlineNode (Piece.element (linkTag url) s).dom) =
      String.ofList (visibleLink url s) := by
  have hdom : (Piece.element (linkTag url) s).dom =
      .element "a" [("href", String.ofList (url.map attributeChar))]
        (if s.isEmpty then [] else [.text (String.ofList s)]) := rfl
  have hlookup : [("href", String.ofList (url.map attributeChar))].lookup "href" =
      some (String.ofList (url.map attributeChar)) := rfl
  rw [hdom, inlineNode, importElement?_anchor, textOf_children_piece, hlookup, importAnchor?,
    visibleLink]
  by_cases hempty : (String.ofList s).isEmpty = true
  · rw [if_pos hempty, String.ofList_eq_empty_iff.1 (String.isEmpty_iff.1 hempty), ite_self]
    rfl
  · rw [if_neg hempty]
    cases Web.isAddress (String.ofList (url.map attributeChar)) with
    | true => exact String.append_empty
    | false => rfl

/-- What is left of a leaf in a document. -/
def visible : Leaf → List Char
  | .text s | .emph s => shown s
  | .link url s => visibleLink url (shown s)

/-! ## 3. Leaves -/

/-- The text of the nodes that pieces become. -/
def piecesText (pieces : List Piece) : String := Node.textOf (inlineNodes (pieces.map Piece.dom))

theorem piecesText_concat (pieces : List Piece) (p : Piece) :
    piecesText (pieces ++ [p]) = piecesText pieces ++ Node.textOf (inlineNode p.dom) := by
  rw [piecesText, List.map_append, inlineNodes_append, Node.textOf_append, List.map_singleton,
    inlineNodes, inlineNodes, List.append_nil, piecesText]

theorem piecesText_addText (pieces : List Piece) (s : List Char) :
    piecesText (addText pieces s) = piecesText pieces ++ String.ofList s := by
  have htext (t : List Char) : Node.textOf (inlineNode (Piece.text t).dom) = String.ofList t := by
    rw [Piece.dom, inlineNode, textOf_textNodes]
  by_cases hs : s = []
  · rw [hs, addText_nil]
    exact String.append_empty.symm
  by_cases hlast : ∃ t, pieces.getLast? = some (.text t)
  · obtain ⟨t, ht⟩ := hlast
    obtain ⟨front, rfl⟩ := List.getLast?_eq_some_iff.1 ht
    rw [addText_text, piecesText_concat, piecesText_concat, htext, htext, String.ofList_append,
      String.append_assoc]
  · rw [addText_of_not_text (fun t ht => hlast ⟨t, ht⟩) hs, piecesText_concat, htext]

theorem piecesText_addLeaf (pieces : List Piece) (leaf : Leaf) :
    piecesText (addLeaf pieces leaf) = piecesText pieces ++ String.ofList (visible leaf) := by
  cases leaf with
  | text s => exact piecesText_addText pieces (shown s)
  | emph s =>
    rw [addLeaf, visible]
    split
    · next h => rw [List.isEmpty_iff.1 h]; exact String.append_empty.symm
    · rw [piecesText_concat, textOf_inlineNode_emph]
  | link url s =>
    rw [addLeaf, visible]
    split
    · next h =>
      rw [List.isEmpty_iff.1 h, visibleLink, shown, List.filter_nil, ite_self]
      exact String.append_empty.symm
    · rw [piecesText_concat, textOf_inlineNode_link]

/-- **The nodes of leaves have the text that is left of them.** -/
theorem textOf_leafNodes (leaves : List Leaf) :
    Node.textOf (leafNodes leaves) = String.ofList ((leaves.map unifyLeaf).flatMap visible) := by
  have hfold (leaves : List Leaf) (pieces : List Piece) :
      piecesText (leaves.foldl addLeaf pieces) =
        piecesText pieces ++ String.ofList (leaves.flatMap visible) := by
    induction leaves generalizing pieces with
    | nil => exact String.append_empty.symm
    | cons leaf leaves ih =>
      rw [List.foldl_cons, ih, piecesText_addLeaf, List.flatMap_cons, String.ofList_append,
        String.append_assoc]
  have hall := hfold (leaves.map unifyLeaf) []
  have hnil : piecesText [] = "" := by rw [piecesText, List.map_nil, inlineNodes]; rfl
  rw [hnil, String.empty_append] at hall
  exact hall

end Html

end Galley
