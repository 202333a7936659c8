import Galley.Proofs.Html.Import
import Galley.Proofs.Html.Leaves

/-!
# The import of a paragraph

A paragraph that is written on one line, as the leaves of its text between two tags, is read as the
page of their pieces, and is imported as a paragraph with the nodes of those. A document writes
every line break as a line feed, and so do the leaves that it holds. Main statement:
`importNode_paragraph`.
-/

namespace Galley.Html

open Galley.Text
open Galley.Rich (Leaf escapedTextChar escapedAttributeChar)

/-! ## 1. Line breaks -/

/-- A character as it stands in a document, where every line break is a line feed. -/
def unified (c : Char) : Char := if c = '\r' then '\n' else c

theorem unifyBreaks_eq_map {cs : List Char} (h : '\n' ∉ cs) : unifyBreaks cs = cs.map unified := by
  induction cs with
  | nil => rfl
  | cons c cs ih =>
    obtain ⟨hc, hcs⟩ := not_or.1 (mt List.mem_cons.2 h)
    by_cases hreturn : c = '\r'
    · subst hreturn
      cases cs with
      | nil => rfl
      | cons d cs =>
        have hd : d ≠ '\n' := fun hd => hcs (hd ▸ List.mem_cons_self)
        rw [unifyBreaks, ih hcs]
        · rfl
        · exact fun cs' he => hd (List.cons.inj he).1
    · rw [unifyBreaks, ih hcs, List.map_cons, unified, if_neg hreturn]
      · exact fun cs' he => absurd he hreturn
      · exact hreturn

theorem map_unified_escapedTextChar (c : Char) :
    (escapedTextChar c).map unified = escapedTextChar (unified c) := by
  by_cases hreturn : c = '\r'
  · rw [hreturn]
    decide
  · rw [unified, if_neg hreturn]
    rcases Rich.escapedTextChar_cases c with ⟨-, he⟩ | ⟨-, he⟩ | ⟨-, he⟩ | ⟨-, he⟩ <;> rw [he]
    · decide
    · decide
    · decide
    · rw [List.map_singleton, unified, if_neg hreturn]

theorem map_unified_escapedAttributeChar (c : Char) :
    (escapedAttributeChar c).map unified = escapedAttributeChar (unified c) := by
  by_cases hquote : c = '"'
  · rw [hquote]
    decide
  · have hunified : unified c ≠ '"' := by
      rw [unified]
      split
      · decide
      · exact hquote
    rw [escapedAttributeChar, if_neg hquote, escapedAttributeChar, if_neg hunified,
      map_unified_escapedTextChar]

/-- A leaf with its line breaks as a document has them. -/
def unifyLeaf : Leaf → Leaf
  | .text s => .text (s.map unified)
  | .emph s => .emph (s.map unified)
  | .link url s => .link (url.map unified) (s.map unified)

theorem html_unifyLeaf (leaf : Leaf) : (unifyLeaf leaf).html = leaf.html.map unified := by
  have htext (s : List Char) :
      (s.map unified).flatMap escapedTextChar = (s.flatMap escapedTextChar).map unified := by
    rw [List.flatMap_map, List.map_flatMap]
    exact List.flatMap_congr fun c _ => (map_unified_escapedTextChar c).symm
  have hurl (s : List Char) : (s.map unified).flatMap escapedAttributeChar =
      (s.flatMap escapedAttributeChar).map unified := by
    rw [List.flatMap_map, List.map_flatMap]
    exact List.flatMap_congr fun c _ => (map_unified_escapedAttributeChar c).symm
  cases leaf with
  | text s => exact htext s
  | emph s =>
    simp only [unifyLeaf, Leaf.html, htext, List.isEmpty_map]
    split
    · rfl
    · rw [List.map_append, List.map_append]
      rfl
  | link url s =>
    simp only [unifyLeaf, Leaf.html, htext, hurl, List.isEmpty_map]
    split
    · rfl
    · rw [List.map_append, List.map_append, List.map_append, List.map_append]
      rfl

/-! ## 2. The page of a paragraph -/

/-- The paragraph of leaves in HTML. -/
def paragraphHtml (leaves : List Leaf) : List Char :=
  "<p class=\"csl-entry\">".toList ++ (leaves.flatMap Leaf.html ++ "</p>".toList)

theorem paragraphHtml_eq (leaves : List Leaf) : paragraphHtml leaves =
    "<p class=\"csl-entry\">".toList ++ (leaves.flatMap Leaf.html ++ "</p>".toList) := rfl

namespace Builder

section Paragraph

variable {pieces : List Piece} {frames : Bool}

theorem page_stop : (take (.stop "p")).run (page pieces frames) =
    ((), { page pieces frames with stack := [3, 1] }) := by rfl

theorem page_finish :
    ((take .finish).run { page pieces frames with stack := [3, 1] }).2.cells =
      (pageCells pieces).toArray := by rfl

/-- The paragraph of leaves is read as the page of their pieces. -/
theorem cells_takeAll_paragraph (leaves : List Leaf) {fuel : Nat}
    (hfuel : (paragraphHtml leaves).length < fuel) :
    (Builder.takeAll {} fuel (paragraphHtml leaves)).cells =
      (pageCells (piecesOf leaves)).toArray := by
  have hstart : Leads {} (paragraphHtml leaves) (page [] true)
      (leaves.flatMap Leaf.html ++ "</p>".toList) :=
    leads_token (readToken_start (by decide) (readTag?_paragraph _)) (by simp) take_paragraph
  obtain ⟨frames, hleaves⟩ := leads_leaves [] true "</p>".toList leaves
  have hstop : Leads (page (piecesOf leaves) frames) "</p>".toList
      { page (piecesOf leaves) frames with stack := [3, 1] } [] :=
    leads_token rfl (by simp) page_stop
  obtain ⟨fuel', hfuel', heq⟩ := (hstart.trans (hleaves.trans hstop)) fuel hfuel
  obtain ⟨fuel', rfl⟩ := Nat.exists_eq_add_of_le' hfuel'
  rw [heq]
  exact page_finish

end Paragraph

end Builder

/-- The formatting of pieces is emphasis or a link. -/
def Formatted (pieces : List Piece) : Prop :=
  ∀ tag s, .element tag s ∈ pieces → tag.name = "i" ∨ tag.name = "a"

theorem Formatted.addText {pieces : List Piece} (h : Formatted pieces) (t : List Char) :
    Formatted (addText pieces t) := fun tag s hmem => by
  rw [Html.addText] at hmem
  split at hmem
  · exact h tag s hmem
  · split at hmem <;> rcases List.mem_append.1 hmem with hmem | hmem
    · exact h tag s ((List.dropLast_sublist pieces).subset hmem)
    · cases List.mem_singleton.1 hmem
    · exact h tag s hmem
    · cases List.mem_singleton.1 hmem

theorem Formatted.concat {pieces : List Piece} (h : Formatted pieces) {tag : Tag}
    (htag : tag.name = "i" ∨ tag.name = "a") (s : List Char) :
    Formatted (pieces ++ [.element tag s]) := fun tag' s' hmem => by
  rcases List.mem_append.1 hmem with hmem | hmem
  · exact h tag' s' hmem
  · cases List.mem_singleton.1 hmem
    exact htag

theorem Formatted.addLeaf {pieces : List Piece} (h : Formatted pieces) (leaf : Leaf) :
    Formatted (addLeaf pieces leaf) := by
  cases leaf with
  | text s => exact h.addText (shown s)
  | emph s =>
    rw [Html.addLeaf]
    split
    · exact h
    · exact h.concat (.inl rfl) _
  | link url s =>
    rw [Html.addLeaf]
    split
    · exact h
    · exact h.concat (.inr rfl) _

theorem formatted_piecesOf (leaves : List Leaf) : Formatted (piecesOf leaves) := by
  have hfold {pieces : List Piece} (h : Formatted pieces) :
      Formatted (leaves.foldl addLeaf pieces) := by
    induction leaves generalizing pieces with
    | nil => exact h
    | cons leaf leaves ih => exact ih (h.addLeaf leaf)
  exact hfold fun tag s hmem => by cases hmem

theorem map_unified_paragraphHtml (leaves : List Leaf) :
    (paragraphHtml leaves).map unified = paragraphHtml (leaves.map unifyLeaf) := by
  have hleaves : (leaves.flatMap Leaf.html).map unified =
      (leaves.map unifyLeaf).flatMap Leaf.html := by
    rw [List.map_flatMap, List.flatMap_map]
    exact List.flatMap_congr fun leaf _ => (html_unifyLeaf leaf).symm
  have hstart : "<p class=\"csl-entry\">".toList.map unified =
      "<p class=\"csl-entry\">".toList := by decide +kernel
  have hstop : "</p>".toList.map unified = "</p>".toList := by decide
  rw [paragraphHtml_eq, List.map_append, List.map_append, hleaves, hstart, hstop, paragraphHtml_eq]

/-- A paragraph of leaves in one line is parsed into the page of their pieces. -/
theorem parse_paragraph {leaves : List Leaf} (h : '\n' ∉ paragraphHtml leaves) :
    parse (String.ofList (paragraphHtml leaves)) =
      Builder.pageDom (piecesOf (leaves.map unifyLeaf)) := by
  have hbreaks : unifyBreaks (paragraphHtml leaves) = paragraphHtml (leaves.map unifyLeaf) := by
    rw [unifyBreaks_eq_map h, map_unified_paragraphHtml]
  have hparse : parse (String.ofList (paragraphHtml leaves)) =
      (Builder.takeAll {} ((unifyBreaks (paragraphHtml leaves)).length + 1)
        (unifyBreaks (paragraphHtml leaves))).document := by
    rw [parse, String.toList_ofList]
    rfl
  rw [hparse, hbreaks]
  refine Builder.document_page (Builder.cells_takeAll_paragraph _ (Nat.lt_succ_self _)) ?_
  intro tag s hmem htemplate
  rcases formatted_piecesOf _ tag s hmem with hname | hname
  · rw [hname] at htemplate
    exact absurd htemplate (by decide)
  · rw [hname] at htemplate
    exact absurd htemplate (by decide)

/-! ## 3. The import -/

/-- The nodes of leaves in a document. -/
def leafNodes (leaves : List Leaf) : List Node :=
  inlineNodes ((piecesOf (leaves.map unifyLeaf)).map Piece.dom)

/-- **A paragraph of leaves in one line is imported as a paragraph.** -/
theorem importNode_paragraph {leaves : List Leaf} (h : '\n' ∉ paragraphHtml leaves) :
    importNode (String.ofList (paragraphHtml leaves)) = .ok (.paragraph (leafNodes leaves)) := by
  have hroot : root? (String.ofList (paragraphHtml leaves)) = some (.element "p"
      Builder.paragraphTag.attrs ((piecesOf (leaves.map unifyLeaf)).map Piece.dom)) := by
    rw [root?, parse_paragraph h]
    rfl
  exact importNode_of_paragraph hroot

end Galley.Html
