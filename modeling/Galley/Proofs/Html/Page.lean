import Galley.Proofs.Html.Construction

/-!
# A page with one paragraph

While a paragraph of running text is read, the document under construction is a page: root, head
and body, the paragraph in the body, and in the paragraph pieces that are text or elements with
text. Text adds to the last piece or makes a new one; formatting makes a new piece in which the text
then stands. Main statements: `page_text`, `page_start`, `inside_text`, `inside_stop`.
-/

namespace Galley.Html

/-! ## 1. Pieces -/

/-- A child of a paragraph: text, or an element with text in it. -/
inductive Piece where
  | text (s : List Char)
  | element (tag : Tag) (s : List Char)

namespace Piece

/-- A piece as a part of a document. -/
def dom : Piece → Dom
  | .text s => .text (String.ofList s)
  | .element tag s =>
    .element tag.name tag.attrs (if s.isEmpty then [] else [.text (String.ofList s)])

/-- The cells of a piece, from the cell `n` on, below the paragraph. -/
def cells (n : Nat) : Piece → List Cell
  | .text s => [⟨.text (String.ofList s), some 4, []⟩]
  | .element tag s =>
    if s.isEmpty then [⟨.element .html tag, some 4, []⟩]
    else [⟨.element .html tag, some 4, [n + 1]⟩, ⟨.text (String.ofList s), some n, []⟩]

end Piece

/-- Pieces with text behind them. Text behind text goes on in its piece. -/
def addText (pieces : List Piece) (s : List Char) : List Piece :=
  if s.isEmpty then pieces
  else
    match pieces.getLast? with
    | some (.text t) => pieces.dropLast ++ [.text (t ++ s)]
    | _ => pieces ++ [.text s]

theorem addText_nil (pieces : List Piece) : addText pieces [] = pieces := rfl

theorem addText_text (pieces : List Piece) (t s : List Char) :
    addText (pieces ++ [.text t]) s = pieces ++ [.text (t ++ s)] := by
  rw [addText]
  split
  · next h => rw [List.isEmpty_iff.1 h, List.append_nil]
  · rw [List.getLast?_concat, List.dropLast_concat]

theorem addText_of_not_text {pieces : List Piece} (h : ∀ t, pieces.getLast? ≠ some (.text t))
    {s : List Char} (hs : s ≠ []) : addText pieces s = pieces ++ [.text s] := by
  rw [addText, if_neg (by simpa using hs)]
  split
  · next t ht => exact absurd ht (h t)
  · rfl

/-- Text can be added bit by bit. -/
theorem addText_append (pieces : List Piece) (s t : List Char) :
    addText (addText pieces s) t = addText pieces (s ++ t) := by
  by_cases hs : s = []
  · rw [hs, addText_nil, List.nil_append]
  by_cases hlast : ∃ u, pieces.getLast? = some (.text u)
  · obtain ⟨u, hu⟩ := hlast
    obtain ⟨front, rfl⟩ := List.getLast?_eq_some_iff.1 hu
    rw [addText_text, addText_text, addText_text, List.append_assoc]
  · have hnot : ∀ u, pieces.getLast? ≠ some (.text u) := fun u hu => hlast ⟨u, hu⟩
    have hst : s ++ t ≠ [] := fun h => hs (List.append_eq_nil_iff.1 h).1
    rw [addText_of_not_text hnot hs, addText_text, addText_of_not_text hnot hst]

namespace Builder

/-! ## 2. Cells of a page -/

/-- The cells of pieces, from the cell `n` on. -/
def cellsFrom (n : Nat) : List Piece → List Cell
  | [] => []
  | p :: ps => p.cells n ++ cellsFrom (n + (p.cells n).length) ps

/-- The first cells of pieces whose cells are those from `n` on. -/
def idsFrom (n : Nat) : List Piece → List Nat
  | [] => []
  | p :: ps => n :: idsFrom (n + (p.cells n).length) ps

/-- The tag of the paragraph of an entry. -/
def paragraphTag : Tag := ⟨"p", [("class", "csl-entry")], false⟩

/-- The document, its root, head and body, and the paragraph with the given children. -/
def frame (children : List Nat) : List Cell := [
  ⟨.document, none, [1]⟩,
  ⟨.element .html (bareTag "html"), some 0, [2, 3]⟩,
  ⟨.element .html (bareTag "head"), some 1, []⟩,
  ⟨.element .html (bareTag "body"), some 1, [4]⟩,
  ⟨.element .html paragraphTag, some 3, children⟩]

/-- The cells of a page. -/
def pageCells (pieces : List Piece) : List Cell :=
  frame (idsFrom 5 pieces) ++ cellsFrom 5 pieces

/-- The cells of a page with room for one more piece. -/
def pageFront (pieces : List Piece) : List Cell :=
  frame (idsFrom 5 pieces ++ [5 + (cellsFrom 5 pieces).length]) ++ cellsFrom 5 pieces

theorem length_frame (children : List Nat) : (frame children).length = 5 := rfl

theorem cellsFrom_append (n : Nat) (ps qs : List Piece) :
    cellsFrom n (ps ++ qs) = cellsFrom n ps ++ cellsFrom (n + (cellsFrom n ps).length) qs := by
  induction ps generalizing n with
  | nil => rfl
  | cons p ps ih =>
    rw [List.cons_append, cellsFrom, cellsFrom, ih, List.append_assoc, List.length_append,
      Nat.add_assoc]

theorem idsFrom_append (n : Nat) (ps qs : List Piece) :
    idsFrom n (ps ++ qs) = idsFrom n ps ++ idsFrom (n + (cellsFrom n ps).length) qs := by
  induction ps generalizing n with
  | nil => rfl
  | cons p ps ih =>
    rw [List.cons_append, idsFrom, idsFrom, cellsFrom, ih, List.length_append, Nat.add_assoc,
      List.cons_append]

theorem length_pageCells (pieces : List Piece) :
    (pageCells pieces).length = 5 + (cellsFrom 5 pieces).length := by
  rw [pageCells, List.length_append]
  rfl

theorem length_pageFront (pieces : List Piece) :
    (pageFront pieces).length = (pageCells pieces).length := by
  rw [length_pageCells, pageFront, List.length_append]
  rfl

theorem pageCells_concat (pieces : List Piece) (p : Piece) :
    pageCells (pieces ++ [p]) = pageFront pieces ++ p.cells (pageCells pieces).length := by
  rw [pageCells, cellsFrom_append, idsFrom_append, pageFront, length_pageCells, List.append_assoc]
  simp only [idsFrom, cellsFrom, List.append_nil]

/-- A new child of the paragraph is one more piece. -/
theorem withChild_pageCells {pieces : List Piece} {p : Piece} {data : CellData}
    (h : ∀ n, p.cells n = [⟨data, some 4, []⟩]) :
    withChild 4 data (pageCells pieces) = pageCells (pieces ++ [p]) := by
  rw [pageCells_concat, h, withChild]
  refine congrArg (· ++ _) ?_
  have hparagraph : 4 < (frame (idsFrom 5 pieces)).length := by
    rw [length_frame]
    decide
  rw [pageCells, pageFront, modify_append_left _ hparagraph, List.length_append]
  rfl

/-! ## 3. Pages -/

/-- A page whose paragraph is open. -/
def page (pieces : List Piece) (frames : Bool) : Builder :=
  { cells := (pageCells pieces).toArray, stack := [4, 3, 1], mode := .inBody, head := some 2,
    framesAllowed := frames, oldRules := true }

/-- A page in whose paragraph an element of formatting is open, with the text `s` in it. -/
def inside (pieces : List Piece) (tag : Tag) (s : List Char) (frames : Bool) : Builder :=
  { page (pieces ++ [.element tag s]) frames with
    stack := (pageCells pieces).length :: [4, 3, 1]
    formatting := [some ⟨(pageCells pieces).length, tag⟩] }

variable {pieces : List Piece} {frames : Bool} {tag : Tag} {s cs : List Char}

theorem cells_page : (page pieces frames).cells = (pageCells pieces).toArray := rfl

theorem inBody_page : (page pieces frames).InBody where
  mode := rfl
  foreign := rfl
  dropBreak := rfl
  fostering := rfl
  formatting := rfl

/-- The cell of an element at the end of the paragraph. -/
theorem cell_page_element :
    (page (pieces ++ [.element tag s]) frames).cell (pageCells pieces).length =
      ⟨.element .html tag, some 4,
        if s.isEmpty then [] else [(pageCells pieces).length + 1]⟩ := by
  rw [cell_eq cells_page, pageCells_concat, ← length_pageFront,
    List.getElem?_append_right (Nat.le_refl _), Nat.sub_self, Piece.cells]
  split <;> rfl

theorem cell_inside (i : Nat) :
    (inside pieces tag s frames).cell i = (page (pieces ++ [.element tag s]) frames).cell i := rfl

theorem inBody_inside : (inside pieces tag s frames).InBody where
  mode := rfl
  foreign := by
    have helement : (inside pieces tag s frames).element? (pageCells pieces).length =
        some (.html, tag) := by
      rw [element?, cell_inside, cell_page_element]
    have htop : (inside pieces tag s frames).stack.head? = some (pageCells pieces).length := rfl
    rw [inForeign, htop, Option.bind_some, helement]
    rfl
  dropBreak := rfl
  fostering := rfl
  formatting := by
    show ([⟨(pageCells pieces).length, tag⟩] : List Formatting).takeWhile
      (fun f => !((pageCells pieces).length :: [4, 3, 1]).contains f.node) = []
    simp

theorem place_page : (page pieces frames).place = ⟨4, none⟩ := inBody_page.place_eq

theorem children_page :
    ((page pieces frames).cell 4).children = idsFrom 5 pieces := rfl

theorem four_lt_length : 4 < (pageCells pieces).length := by
  rw [length_pageCells]
  omega

/-- The last child of the paragraph is the first cell of the last piece. -/
theorem getLast?_children_page (p : Piece) :
    ((page (pieces ++ [p]) frames).cell 4).children.getLast? = some (pageFront pieces).length := by
  rw [children_page, idsFrom_append, length_pageFront, length_pageCells]
  exact List.getLast?_concat

/-- **Text adds to the pieces of the paragraph.** -/
theorem page_text (hcs : cs ≠ []) :
    (take (.text cs)).run (page pieces frames) =
      ((), page (addText pieces cs) (frames && cs.all isSpace)) := by
  refine inBody_page.take_run (inBody_page.takeInBody_text (page (addText pieces cs) frames) ?_)
  by_cases hlast : ∃ t, pieces.getLast? = some (.text t)
  · obtain ⟨t, ht⟩ := hlast
    obtain ⟨front, rfl⟩ := List.getLast?_eq_some_iff.1 ht
    have hcells (u : List Char) : pageCells (front ++ [.text u]) =
        pageFront front ++ [⟨.text (String.ofList u), some 4, []⟩] := pageCells_concat front _
    have hbefore : (page (front ++ [.text t]) frames).cells =
        (pageFront front ++ ([⟨.text (String.ofList t), some 4, []⟩] : List Cell)).toArray := by
      rw [cells_page, hcells]
    rw [insertText_run_on hbefore place_page (getLast?_children_page _) rfl, addText_text,
      ← String.ofList_append, ← hcells]
    rfl
  · have hnot : ∀ t, pieces.getLast? ≠ some (.text t) := fun t ht => hlast ⟨t, ht⟩
    rw [insertText_run_new cells_page four_lt_length place_page ?_, addText_of_not_text hnot hcs,
      withChild_pageCells (p := .text cs) fun n => rfl]
    · rfl
    · intro i hi t ht
      rcases List.eq_nil_or_concat' pieces with rfl | ⟨front, p, rfl⟩
      · cases hi
      · cases p with
        | text u => exact hnot u List.getLast?_concat
        | element tag u =>
          rw [getLast?_children_page] at hi
          rw [← Option.some.inj hi, length_pageFront] at ht
          rw [cell_page_element] at ht
          cases ht

/-- The start tag of formatting makes a piece, in which the text behind it stands. -/
theorem page_start (h : tag.name = "a" ∨ tag.name = "i") :
    (take (.start tag)).run (page pieces frames) = ((), inside pieces tag [] frames) := by
  have hinsert : (insertElement .html tag).run (page pieces frames) =
      ((pageCells pieces).length, { page (pieces ++ [.element tag []]) frames with
        stack := (pageCells pieces).length :: [4, 3, 1] }) := by
    rw [insertElement_run cells_page four_lt_length place_page,
      withChild_pageCells (p := .element tag []) fun n => rfl]
    rfl
  refine inBody_page.take_run ?_
  show (startInBody tag).run (page pieces frames) = _
  rw [startInBody_formatting h rfl, inBody_page.startFormatting_run rfl hinsert rfl]
  rfl

theorem cells_inside :
    (inside pieces tag s frames).cells = (pageCells (pieces ++ [.element tag s])).toArray := rfl

theorem place_inside :
    (inside pieces tag s frames).place = ⟨(pageCells pieces).length, none⟩ :=
  inBody_inside.place_eq

/-- **Text inside formatting goes on in its piece.** -/
theorem inside_text (hcs : cs ≠ []) :
    (take (.text cs)).run (inside pieces tag s frames) =
      ((), inside pieces tag (s ++ cs) (frames && cs.all isSpace)) := by
  refine inBody_inside.take_run
    (inBody_inside.takeInBody_text (inside pieces tag (s ++ cs) frames) ?_)
  by_cases hs : s = []
  · subst hs
    have hcells : pageCells (pieces ++ [.element tag []]) =
        pageFront pieces ++ [⟨.element .html tag, some 4, []⟩] := pageCells_concat pieces _
    have hopen : (pageCells pieces).length < (pageCells (pieces ++ [.element tag []])).length := by
      rw [hcells, List.length_append, length_pageFront]
      exact Nat.lt_succ_self _
    have hnext : withChild (pageCells pieces).length (.text (String.ofList cs))
        (pageCells (pieces ++ [.element tag []])) = pageCells (pieces ++ [.element tag cs]) := by
      rw [pageCells_concat pieces (.element tag cs), Piece.cells, if_neg (by simpa using hcs),
        withChild, hcells, ← length_pageFront, modify_append_cons, List.length_append,
        List.append_assoc]
      rfl
    rw [insertText_run_new cells_inside hopen place_inside ?_, hnext]
    · rfl
    · intro i hi
      rw [cell_inside, cell_page_element] at hi
      cases hi
  · have hcells (u : List Char) (hu : u ≠ []) : pageCells (pieces ++ [.element tag u]) =
        (pageFront pieces ++
          [⟨.element .html tag, some 4, [(pageCells pieces).length + 1]⟩]) ++
        [⟨.text (String.ofList u), some (pageCells pieces).length, []⟩] := by
      rw [pageCells_concat, Piece.cells, if_neg (by simpa using hu), List.append_assoc]
      rfl
    have hbefore : (inside pieces tag s frames).cells = _ :=
      cells_inside.trans (congrArg List.toArray (hcells s hs))
    rw [insertText_run_on hbefore place_inside ?_ rfl, ← String.ofList_append,
      ← hcells (s ++ cs) (by simp [hs])]
    · rfl
    · rw [cell_inside, cell_page_element, if_neg (by simpa using hs), List.length_append,
        length_pageFront]
      rfl

/-- The end tag of formatting goes back to the paragraph. -/
theorem inside_stop (h : tag.name = "a" ∨ tag.name = "i") :
    (take (.stop tag.name)).run (inside pieces tag s frames) =
      ((), page (pieces ++ [.element tag s]) frames) := by
  refine inBody_inside.take_run ?_
  show (stopInBody tag.name).run (inside pieces tag s frames) = _
  rw [stopInBody_formatting h, endFormatting_run rfl rfl]
  rfl

/-! ## 4. Reading pieces off their cells -/

/-- What is found in a list behind its front. -/
theorem getElem?_append_cons {α : Type} (front : List α) (a : α) (back : List α) :
    (front ++ a :: back)[front.length]? = some a := by
  rw [List.getElem?_append_right (Nat.le_refl _), Nat.sub_self]
  rfl

theorem toDom_text {b : Builder} {i depth : Nat} {t : String} (h : (b.cell i).data = .text t) :
    b.toDom (depth + 1) i = .text t := by
  rw [toDom]
  simp only [h]

theorem toDom_element {b : Builder} {i depth : Nat} {vocabulary : Vocabulary} {tag : Tag}
    (h : (b.cell i).data = .element vocabulary tag) (htag : tag.name ≠ "template") :
    b.toDom (depth + 1) i =
      .element tag.name tag.attrs ((b.cell i).children.map (b.toDom depth)) := by
  have hcontent : ¬ (vocabulary = .html ∧ tag.name = "template") := fun hboth => htag hboth.2
  rw [toDom]
  simp only [h, if_neg hcontent]

theorem toDom_document {b : Builder} {i depth : Nat} (h : (b.cell i).data = .document) :
    b.toDom (depth + 1) i = .element "" [] ((b.cell i).children.map (b.toDom depth)) := by
  rw [toDom]
  simp only [h]

/-- A piece is read off its cells. Templates are none, since their content is left out. -/
theorem toDom_piece {b : Builder} {front back : List Cell} {p : Piece}
    (hcells : b.cells = (front ++ (p.cells front.length ++ back)).toArray) (depth : Nat)
    (hdepth : (p.cells front.length).length ≤ depth)
    (htag : ∀ tag s, p = .element tag s → tag.name ≠ "template") :
    b.toDom (depth + 1) front.length = p.dom := by
  have hcell := cell_eq hcells
  cases p with
  | text s =>
    refine toDom_text ?_
    rw [hcell, Piece.cells, List.singleton_append, getElem?_append_cons]
    rfl
  | element tag s =>
    rw [Piece.cells] at hdepth hcell
    rw [Piece.dom]
    split at hcell
    · next hs =>
      have hfirst : b.cell front.length = ⟨.element .html tag, some 4, []⟩ := by
        rw [hcell, List.singleton_append, getElem?_append_cons]
        rfl
      rw [toDom_element (by rw [hfirst]) (htag tag s rfl), hfirst, if_pos hs]
      rfl
    · next hs =>
      have hfirst : b.cell front.length =
          ⟨.element .html tag, some 4, [front.length + 1]⟩ := by
        rw [hcell, List.cons_append, getElem?_append_cons]
        rfl
      have hsecond : (b.cell (front.length + 1)).data = .text (String.ofList s) := by
        rw [hcell, List.getElem?_append_right (Nat.le_add_right _ 1), Nat.add_sub_cancel_left]
        rfl
      rw [if_neg hs] at hdepth
      obtain ⟨depth, rfl⟩ := Nat.exists_eq_add_of_le' hdepth
      rw [toDom_element (by rw [hfirst]) (htag tag s rfl), hfirst, if_neg hs, List.map_singleton]
      exact congrArg (Dom.element tag.name tag.attrs [·]) (toDom_text hsecond)

/-- The pieces that stand in the cells from some cell on are read off them. -/
theorem map_toDom_idsFrom {b : Builder} (front : List Cell) {pieces : List Piece}
    (hcells : b.cells = (front ++ cellsFrom front.length pieces).toArray) {depth : Nat}
    (hdepth : (cellsFrom front.length pieces).length ≤ depth)
    (htags : ∀ tag s, .element tag s ∈ pieces → tag.name ≠ "template") :
    (idsFrom front.length pieces).map (b.toDom (depth + 1)) = pieces.map Piece.dom := by
  induction pieces generalizing front with
  | nil => rfl
  | cons p ps ih =>
    rw [cellsFrom] at hcells hdepth
    rw [List.length_append] at hdepth
    have hfirst := toDom_piece hcells depth (by omega)
      fun tag s hp => htags tag s (hp ▸ List.mem_cons_self)
    rw [← List.append_assoc, ← List.length_append] at hcells
    have hrest := ih _ hcells (by rw [List.length_append]; omega)
      fun tag s hp => htags tag s (List.mem_cons_of_mem p hp)
    rw [List.length_append] at hrest
    rw [idsFrom, List.map_cons, List.map_cons, hfirst, hrest]

/-! ## 5. The document of a page -/

/-- The document whose body holds one paragraph with the given pieces. -/
def pageDom (pieces : List Piece) : Dom :=
  .element "" [] [.element "html" [] [.element "head" [] [],
    .element "body" [] [.element "p" paragraphTag.attrs (pieces.map Piece.dom)]]]

/-- **A document with the cells of a page has one paragraph with its pieces.** -/
theorem document_page {b : Builder} {pieces : List Piece}
    (hcells : b.cells = (pageCells pieces).toArray)
    (htags : ∀ tag s, .element tag s ∈ pieces → tag.name ≠ "template") :
    b.document = pageDom pieces := by
  have hcell := cell_eq hcells
  have hsize : b.cells.size = (cellsFrom 5 pieces).length + 5 := by
    rw [hcells, List.size_toArray, length_pageCells, Nat.add_comm]
  have hpieces := map_toDom_idsFrom (frame (idsFrom 5 pieces)) hcells
    (Nat.le_refl _) htags
  have hdocument : b.cell 0 = ⟨.document, none, [1]⟩ := hcell 0
  have hroot : b.cell 1 = ⟨.element .html (bareTag "html"), some 0, [2, 3]⟩ := hcell 1
  have hhead : b.cell 2 = ⟨.element .html (bareTag "head"), some 1, []⟩ := hcell 2
  have hbody : b.cell 3 = ⟨.element .html (bareTag "body"), some 1, [4]⟩ := hcell 3
  have hparagraph : b.cell 4 = ⟨.element .html paragraphTag, some 3, idsFrom 5 pieces⟩ := hcell 4
  rw [document, hsize, toDom_document (by rw [hdocument]), hdocument, List.map_singleton,
    toDom_element (by rw [hroot]) (by decide), hroot, List.map_cons, List.map_singleton,
    toDom_element (by rw [hhead]) (by decide), hhead, List.map_nil,
    toDom_element (by rw [hbody]) (by decide), hbody, List.map_singleton,
    toDom_element (by rw [hparagraph]) (by decide), hparagraph]
  exact congrArg (fun children => Dom.element "" [] [.element "html" [] [.element "head" [] [],
    .element "body" [] [.element "p" paragraphTag.attrs children]]]) hpieces

/-! ## 6. The first and the last tokens -/

deriving instance DecidableEq for Tag, CellData, Cell, Formatting, Builder

/-- The start tag of the paragraph makes root, head, body and paragraph. -/
theorem take_paragraph : (take (.start paragraphTag)).run {} = ((), page [] true) := by
  have hpage : ((take (.start paragraphTag)).run {}).2 = page [] true := by decide +kernel
  exact Prod.ext rfl hpage

theorem page_null : (take .null).run (page pieces frames) = ((), page pieces frames) :=
  inBody_page.take_run rfl

theorem inside_null :
    (take .null).run (inside pieces tag s frames) = ((), inside pieces tag s frames) :=
  inBody_inside.take_run rfl

end Builder

end Galley.Html
