import Galley.Html.Construction
import Mathlib.Data.List.Basic

/-!
# Steps of the construction

What the steps do that put running text and formatting into a document whose cells are at hand as a
list: a new node stands in a new cell at the end and is the last child of the innermost open
element, and text behind text goes on in its cell. Main statements: `insertText_run_new`,
`insertText_run_on`, `startFormatting_run`.
-/

namespace Galley.Html.Builder

/-! ## 1. Running steps -/

section Run

variable {α β : Type} (b : Builder)

theorem run_bind (step : Build α) (next : α → Build β) :
    (step >>= next).run b = (next (step.run b).1).run (step.run b).2 := rfl

theorem run_pure (a : α) : (pure a : Build α).run b = (a, b) := rfl

theorem run_get : (get : Build Builder).run b = (b, b) := rfl

theorem run_set (b' : Builder) : (set b' : Build PUnit).run b = ((), b') := rfl

theorem run_modify (f : Builder → Builder) : (modify f : Build Unit).run b = ((), f b) := rfl

end Run

/-! ## 2. Taking a token in the body -/

section Take

variable {b b' : Builder} {token : Token}

/-- The next token is taken by the rules of the body. -/
structure InBody (b : Builder) : Prop where
  mode : b.mode = .inBody
  foreign : b.inForeign = false
  dropBreak : b.dropBreak = false
  fostering : b.fostering = false
  /-- The elements of all formatting that is carried on are open. -/
  formatting : b.recentFormatting.takeWhile (fun f => !b.stack.contains f.node) = []

theorem InBody.takesForeign (h : b.InBody) (token : Token) : b.takesForeign token = false := by
  unfold Builder.takesForeign
  split
  · rfl
  · rw [h.foreign, Bool.false_and]

theorem InBody.takeIn_run (h : b.InBody) (htoken : (takeInBody token).run b = (.done, b'))
    (rounds : Nat) : (takeIn (rounds + 1) token).run b = ((), b') := by
  have hmode : (takeInMode token).run b = (.done, b') := by
    unfold takeInMode
    rw [run_bind, run_get, h.mode]
    exact htoken
  unfold takeIn
  rw [run_bind, run_get, h.takesForeign, if_neg Bool.false_ne_true, run_bind, run_pure, run_bind,
    hmode]
  rfl

/-- A token with which the rules of the body are done is taken by them alone. -/
theorem InBody.take_run (h : b.InBody) (htoken : (takeInBody token).run b = (.done, b')) :
    (take token).run b = ((), b') := by
  unfold take
  rw [run_bind, run_get, h.dropBreak, if_neg Bool.false_ne_true]
  split
  · exact h.takeIn_run htoken _
  · exact h.takeIn_run htoken _

theorem InBody.reopenFormatting_run (h : b.InBody) : reopenFormatting.run b = ((), b) := by
  unfold reopenFormatting
  rw [run_bind, run_get, h.formatting]
  rfl

theorem InBody.place_eq (h : b.InBody) : b.place = ⟨b.stack.head?.getD 0, none⟩ := by
  rw [place, placeIn, h.fostering, Bool.false_and, if_neg Bool.false_ne_true]

end Take

/-! ## 3. Cells in a list -/

section Lists

variable {α : Type} (f : α → α)

theorem modify_append_cons (front : List α) (a : α) (back : List α) :
    (front ++ a :: back).modify front.length f = front ++ f a :: back := by
  induction front with
  | nil => rfl
  | cons x front ih => exact congrArg (List.cons x) ih

theorem modify_append_left {front : List α} {i : Nat} (h : i < front.length) (back : List α) :
    (front ++ back).modify i f = front.modify i f ++ back := by
  induction front generalizing i with
  | nil => cases h
  | cons x front ih =>
    cases i with
    | zero => rfl
    | succ i => exact congrArg (List.cons x) (ih (Nat.lt_of_succ_lt_succ h))

end Lists

theorem insertIn_none (i : Nat) (children : List Nat) :
    insertIn i none children = children ++ [i] := by
  induction children with
  | nil => rfl
  | cons c children ih => rw [insertIn, if_neg (by simp), ih, List.cons_append]

/-- Cells with one more behind them, the last child of the node `parent`. -/
def withChild (parent : Nat) (data : CellData) (cells : List Cell) : List Cell :=
  cells.modify parent (fun c => { c with children := c.children ++ [cells.length] }) ++
    [⟨data, some parent, []⟩]

/-- The builder with other cells. -/
def withCells (b : Builder) (cells : List Cell) : Builder := { b with cells := cells.toArray }

section Insert

variable {b : Builder} {cells : List Cell}

theorem cell_eq (hcells : b.cells = cells.toArray) (i : Nat) :
    b.cell i = (cells[i]?).getD ⟨.comment, none, []⟩ := by
  rw [cell, hcells, List.getElem?_toArray]

theorem create_putAt_run (hcells : b.cells = cells.toArray) {parent : Nat}
    (hparent : parent < cells.length) (data : CellData) :
    (create data).run b = (cells.length, b.withCells (cells ++ [⟨data, none, []⟩])) ∧
      (putAt ⟨parent, none⟩ cells.length).run (b.withCells (cells ++ [⟨data, none, []⟩])) =
        ((), b.withCells (withChild parent data cells)) := by
  constructor
  · unfold create
    rw [run_bind, run_get, run_bind, run_set, run_pure, withCells, hcells]
    simp
  · unfold putAt
    rw [run_modify]
    refine Prod.ext rfl ?_
    let put := fun c : Cell => { c with children := c.children ++ [cells.length] }
    let place := fun c : Cell => { c with parent := some parent }
    have hmodify : ((cells ++ [(⟨data, none, []⟩ : Cell)]).modify parent put).modify
        cells.length place = withChild parent data cells := by
      have hlength : cells.length = (cells.modify parent put).length := by simp
      rw [modify_append_left put hparent, hlength, modify_append_cons place]
      rfl
    simp only [change, withCells, insertIn_none, List.modify_toArray]
    rw [← hmodify]

/-- Text that no text stands in front of makes a new node. -/
theorem insertText_run_new (hcells : b.cells = cells.toArray) {parent : Nat}
    (hparent : parent < cells.length) (hplace : b.place = ⟨parent, none⟩)
    (hlast : ∀ i, (b.cell parent).children.getLast? = some i → ∀ t, (b.cell i).data ≠ .text t)
    (cs : List Char) :
    (insertText cs).run b =
      ((), b.withCells (withChild parent (.text (String.ofList cs)) cells)) := by
  obtain ⟨hcreate, hput⟩ := create_putAt_run hcells hparent (.text (String.ofList cs))
  have hnew : (do let j ← create (.text (String.ofList cs)); putAt ⟨parent, none⟩ j).run b =
      ((), b.withCells (withChild parent (.text (String.ofList cs)) cells)) := by
    rw [run_bind, hcreate]
    exact hput
  unfold insertText
  rw [run_bind, run_get, hplace]
  split
  · next i hi =>
    split
    · next t ht => exact absurd ht (hlast i hi t)
    · exact hnew
  · exact hnew

/-- Text behind text goes on in its cell. -/
theorem insertText_run_on {front : List Cell} {last : Cell} {t : String}
    (hcells : b.cells = (front ++ [last]).toArray) {parent : Nat}
    (hplace : b.place = ⟨parent, none⟩)
    (hlast : (b.cell parent).children.getLast? = some front.length) (htext : last.data = .text t)
    (cs : List Char) :
    (insertText cs).run b =
      ((), b.withCells (front ++ [{ last with data := .text (t ++ String.ofList cs) }])) := by
  have hbefore : b.nodeBefore? ⟨parent, none⟩ = some front.length := hlast
  have hdata : (b.cell front.length).data = .text t := by
    rw [cell_eq hcells, List.getElem?_concat_length]
    exact htext
  unfold insertText
  rw [run_bind, run_get, hplace, hbefore]
  simp only [hdata]
  rw [run_set, change, hcells, List.modify_toArray, modify_append_cons]
  rfl

theorem insertElement_run (hcells : b.cells = cells.toArray) {parent : Nat}
    (hparent : parent < cells.length) (hplace : b.place = ⟨parent, none⟩) (tag : Tag) :
    (insertElement .html tag).run b =
      (cells.length, { b.withCells (withChild parent (.element .html tag) cells) with
        stack := cells.length :: b.stack }) := by
  obtain ⟨hcreate, hput⟩ := create_putAt_run hcells hparent (.element .html tag)
  unfold insertElement
  rw [run_bind, run_get, run_bind, hcreate, run_bind, hplace, hput, run_bind, run_modify, run_pure]
  rfl

end Insert

/-! ## 4. Running text and formatting -/

section Formatting

variable {b b' : Builder}

/-- Running text is put at the next place. -/
theorem InBody.takeInBody_text (h : b.InBody) {cs : List Char} (b' : Builder)
    (hinsert : (insertText cs).run b = ((), b')) :
    (takeInBody (.text cs)).run b =
      (.done, { b' with framesAllowed := b'.framesAllowed && cs.all isSpace }) := by
  unfold takeInBody insertRunning
  rw [run_bind, run_bind, h.reopenFormatting_run, run_bind, hinsert]
  cases cs.all isSpace
  · simp only [Bool.and_false]
    rfl
  · simp only [Bool.and_true]
    rfl

/-- The start of formatting, where none is carried on, opens an element. -/
theorem InBody.startFormatting_run (h : b.InBody) (hnone : b.formatting = []) {tag : Tag} {i : Nat}
    (hinsert : (insertElement .html tag).run b = (i, b')) (hkept : b'.formatting = b.formatting) :
    (startFormatting tag).run b = ((), { b' with formatting := [some ⟨i, tag⟩] }) := by
  have hempty : b'.formatting = [] := hkept.trans hnone
  have hequal : b'.recentFormatting = [] := by rw [recentFormatting, hempty]; rfl
  unfold startFormatting
  rw [run_bind, h.reopenFormatting_run, run_bind, hinsert]
  unfold pushFormatting
  rw [run_bind, run_get, hequal]
  show ((), { b' with formatting := some ⟨i, tag⟩ :: b'.formatting }) = _
  rw [hempty]

/-- The end of formatting closes its element when that is the innermost open one. -/
theorem endFormatting_run {tag : Tag} {i : Nat} {rest : List Nat} (hstack : b.stack = i :: rest)
    (hformatting : b.formatting = [some ⟨i, tag⟩]) :
    (endFormatting tag.name).run b = ((), { b with stack := rest, formatting := [] }) := by
  have hof : b.formattingOf? i = some ⟨i, tag⟩ := by
    rw [formattingOf?, hformatting]
    simp
  have hnamed : b.formattingNamed? tag.name = some ⟨i, tag⟩ := by
    rw [formattingNamed?, recentFormatting, hformatting]
    simp
  unfold endFormatting
  rw [run_bind, run_get, hstack]
  simp only [List.head?_cons, Option.any_some, hof, Option.isNone_some, Bool.and_false,
    Bool.false_eq_true, if_false]
  unfold endFormattingIn
  rw [run_bind, run_get, hnamed, hstack]
  have hfirst : (i :: rest).find? (fun j => decide (j = i) || b.isAny scopeEnds j ||
      b.isForeignScopeEnd j) = some i := by simp
  have hinner : (i :: rest).takeWhile (fun j => j != i) = [] := by simp
  have houter : ((i :: rest).dropWhile fun j => j != i).drop 1 = rest := by simp
  simp only [List.contains_cons, beq_self_eq_true, Bool.true_or, Bool.not_true, Bool.false_eq_true,
    if_false, hfirst, hinner, ne_eq, not_true_eq_false, List.reverse_nil, List.find?_nil]
  rw [run_bind, run_modify, forgetFormatting, run_modify, hstack, houter, hformatting]
  simp

theorem startInBody_formatting {tag : Tag} (h : tag.name = "a" ∨ tag.name = "i")
    (hnone : b.formatting = []) :
    (startInBody tag).run b = (.done, ((startFormatting tag).run b).2) := by
  have hunnamed : b.formattingNamed? "a" = none := by
    rw [formattingNamed?, recentFormatting, hnone]
    rfl
  unfold startInBody
  rw [run_bind, run_get]
  rcases h with h | h
  · simp [h, hunnamed, headContentNames, blockNames, headingNames]
    rfl
  · simp [h, headContentNames, blockNames, headingNames, formattingNames]
    rfl

theorem stopInBody_formatting {name : String} (h : name = "a" ∨ name = "i") :
    (stopInBody name).run b = (.done, ((endFormatting name).run b).2) := by
  unfold stopInBody
  rw [run_bind, run_get]
  rcases h with rfl | rfl
  · simp [closableNames, headingNames]
    rfl
  · simp [closableNames, headingNames, formattingNames]
    rfl

end Formatting

end Galley.Html.Builder
