import Galley.Finish.Structure

/-!
# What captioning does to a document

The tables at the top of a document are numbered in their order, and the n-th takes the n-th
caption entry. What stands in the output for a node follows from the node and the nodes before it
alone: a table with a caption gives its caption paragraph and itself with its layout, a paragraph
directly behind such a table that repeats the caption gives nothing, and every other node gives
itself. Main statement: `captionTables_eq`.
-/

namespace Galley

open Markup (TableCaption)

/-! ## 1. What stands for a node -/

/-- How many of the nodes are tables. -/
def tableCount (ns : List Node) : Nat := ns.countP fun n => n.isElement "table"

section Spec

variable (config : TablesConfig) (captions : List TableCaption)

/-- The caption of a node that stands behind `front`: if it is a table, the one in the entry at
    its place among the tables. -/
def captionOf? (front : List Node) (n : Node) : Option String :=
  if n.isElement "table" then captions[tableCount front]?.bind TableCaption.plain? else none

/-- The caption of the last of the nodes. -/
def lastCaption? (front : List Node) : Option String :=
  front.getLast?.bind fun n => captionOf? captions front.dropLast n

/-- A node that stands behind `front` is a paragraph with the text of the caption of the table
    directly before it. -/
def repeatsLast (front : List Node) (n : Node) : Bool :=
  (lastCaption? captions front).any fun caption =>
    n.isElement "paragraph" && Text.trim n.textContent == caption

/-- What stands in the output for a node behind `front`. -/
def standsFor (front : List Node) (n : Node) : List Node :=
  match captionOf? captions front n with
  | some caption =>
    [captionParagraph config (tableCount front + 1) caption, styledTable config n]
  | none => if repeatsLast captions front n then [] else [n]

/-- The complaint about a node behind `front`: a table without a caption, by its number. -/
def complaints (front : List Node) (n : Node) : List Event :=
  if n.isElement "table" && (captionOf? captions front n).isNone then
    [.warning (.failure (.missingCaption (tableCount front + 1)))]
  else []

/-- What `f` gives for each of the nodes `ns`, which stand behind `front`. -/
def eachBehind {α : Type} (f : List Node → Node → List α) (front ns : List Node) : List α :=
  (ns.mapIdx fun i n => f (front ++ ns.take i) n).flatten

end Spec

theorem eachBehind_cons {α : Type} (f : List Node → Node → List α) (front : List Node) (n : Node)
    (ns : List Node) :
    eachBehind f front (n :: ns) = f front n ++ eachBehind f (front ++ [n]) ns := by
  simp [eachBehind, List.mapIdx_cons]

theorem tableCount_concat (front : List Node) (n : Node) :
    tableCount (front ++ [n]) = tableCount front + if n.isElement "table" then 1 else 0 := by
  rw [tableCount, List.countP_append, List.countP_singleton, tableCount]

theorem lastCaption?_concat (captions : List TableCaption) (front : List Node) (n : Node) :
    lastCaption? captions (front ++ [n]) = captionOf? captions front n := by
  rw [lastCaption?, List.getLast?_concat, List.dropLast_concat, Option.bind_some]

/-- An element of one kind is none of another. -/
theorem not_isElement_of_ne {n : Node} {kind other : String} (h : n.isElement kind = true)
    (hne : kind ≠ other) : n.isElement other = false := by
  cases n with
  | text s marks => rfl
  | element k attrs content =>
    have hk : k = kind := by simpa [Node.isElement] using h
    rw [hk]
    exact beq_false_of_ne hne

/-! ## 2. The layout of a table -/

/-- The last row of a table has more cells than the configuration's bound. -/
def IsWide (config : TablesConfig) (table : Node) : Prop :=
  ∃ row ∈ table.content.getLast?, config.wideThreshold < row.content.length

instance (config : TablesConfig) (table : Node) : Decidable (IsWide config table) :=
  decidable_of_iff (table.content.getLast?.any fun row => config.wideThreshold < row.content.length)
    (by simp [IsWide, Option.any_eq_true])

/-- A table with its layout: the three attributes of the layout are set, and everything else is
    what it was. -/
structure Restyled (config : TablesConfig) (table styled : Node) : Prop where
  kind : styled.kind = table.kind
  content : styled.content = table.content
  size : styled.attr? "size" =
    some (.string (if IsWide config table then config.wideSize else config.narrowSize))
  align : styled.attr? "align" = some (.string config.align)
  smallerFont : styled.attr? "smallerFont" = some (.bool config.smallerFont)
  kept : ∀ name, name ≠ "size" → name ≠ "align" → name ≠ "smallerFont" →
    styled.attr? name = table.attr? name

theorem isWide_iff (config : TablesConfig) (table : Node) :
    IsWide config table ↔ config.wideThreshold < columnCount table := by
  rw [IsWide, columnCount]
  cases table.content.getLast? <;> simp

theorem attr?_withAttr_self {n : Node} {kind : String} (h : n.isElement kind = true)
    (name : String) (value : Json) : (n.withAttr name value).attr? name = some value := by
  cases n with
  | text s marks => cases h
  | element k attrs content => exact attrs.get?_insert_self name value

theorem isElement_withAttr (n : Node) (kind name : String) (value : Json) :
    (n.withAttr name value).isElement kind = n.isElement kind := by
  cases n <;> rfl

theorem restyled_styledTable (config : TablesConfig) {table : Node}
    (h : table.isElement "table" = true) : Restyled config table (styledTable config table) where
  kind := by simp only [styledTable, Node.kind_withAttr]
  content := by simp only [styledTable, Node.content_withAttr]
  size := by
    rw [styledTable, Node.attr?_withAttr_of_ne _ (by decide),
      Node.attr?_withAttr_of_ne _ (by decide), attr?_withAttr_self h]
    simp only [isWide_iff]
  align := by
    rw [styledTable, Node.attr?_withAttr_of_ne _ (by decide)]
    exact attr?_withAttr_self ((isElement_withAttr ..).trans h) _ _
  smallerFont := by
    have hstill size align :
        ((table.withAttr "size" size).withAttr "align" align).isElement "table" = true := by
      rw [isElement_withAttr, isElement_withAttr, h]
    exact attr?_withAttr_self (hstill _ _) _ _
  kept name hsize halign hfont := by
    rw [styledTable, Node.attr?_withAttr_of_ne _ hfont, Node.attr?_withAttr_of_ne _ halign,
      Node.attr?_withAttr_of_ne _ hsize]

/-! ## 3. Captioning -/

section Captioning

variable (config : TablesConfig) (captions : List TableCaption)

/-- The nodes that are still to be read behind `front`: without the one that repeats the caption
    of the last of `front`. -/
def pending (front ns : List Node) : List Node :=
  match lastCaption? captions front with
  | some caption => dropRepeated caption ns
  | none => ns

theorem pending_cons (front : List Node) (n : Node) (ns : List Node) :
    pending captions front (n :: ns) =
      if repeatsLast captions front n then ns else n :: ns := by
  rw [pending, repeatsLast]
  cases lastCaption? captions front with
  | none => rfl
  | some caption => rfl

theorem pending_nil (front : List Node) : pending captions front [] = [] := by
  rw [pending]
  cases lastCaption? captions front <;> rfl

/-- A table repeats no caption. -/
theorem repeatsLast_of_isTable {front : List Node} {n : Node} (h : n.isElement "table" = true) :
    repeatsLast captions front n = false := by
  have hp : n.isElement "paragraph" = false := by
    cases hp : n.isElement "paragraph" with
    | false => rfl
    | true => exact absurd h (by rw [not_isElement_of_ne hp (by decide)]; decide)
  rw [repeatsLast, Option.any_eq_false]
  intro caption _
  rw [hp, Bool.false_and]

theorem not_isTable_of_repeatsLast {front : List Node} {n : Node}
    (h : repeatsLast captions front n = true) : n.isElement "table" = false := by
  cases ht : n.isElement "table" with
  | false => rfl
  | true => rw [repeatsLast_of_isTable captions ht] at h; cases h

/-- **One step of captioning**: what stands for the next node, if it is not one that is dropped,
    and what stands for the nodes behind it. -/
theorem captionFrom_cons {front : List Node} {n : Node} (h : repeatsLast captions front n = false)
    (ns : List Node) :
    captionFrom config captions (tableCount front) (n :: ns) =
      let rest := captionFrom config captions (tableCount (front ++ [n]))
        (pending captions (front ++ [n]) ns)
      ⟨standsFor config captions front n ++ rest.value,
        complaints captions front n ++ rest.events⟩ := by
  rw [pending, lastCaption?_concat, tableCount_concat, standsFor, complaints, h, captionFrom]
  by_cases htable : n.isElement "table" = true
  · have hentry : captions[tableCount front]?.bind TableCaption.plain? =
        captionOf? captions front n := (if_pos htable).symm
    rw [if_pos htable, if_pos htable, hentry, htable]
    cases captionOf? captions front n with
    | none => exact congrArg (Logged.mk _) (congrArg _ (List.append_nil _))
    | some caption => exact congrArg (Logged.mk _) (List.append_nil _)
  · have hnone : captionOf? captions front n = none := if_neg htable
    rw [if_neg htable, if_neg htable, hnone, Bool.eq_false_iff.2 htable]
    exact congrArg (Logged.mk _) (List.append_nil _)

/-- **Captioning goes on behind any nodes as the output says**, with the count of their tables. -/
theorem captionFrom_pending (front ns : List Node) :
    captionFrom config captions (tableCount front) (pending captions front ns) =
      ⟨eachBehind (standsFor config captions) front ns,
        eachBehind (complaints captions) front ns⟩ := by
  induction ns generalizing front with
  | nil =>
    rw [pending_nil, captionFrom]
    rfl
  | cons n ns ih =>
    rw [pending_cons, eachBehind_cons, eachBehind_cons]
    cases hrep : repeatsLast captions front n with
    | false =>
      rw [if_neg Bool.false_ne_true, captionFrom_cons config captions hrep, ih]
    | true =>
      -- the node is no table, so the count and the nodes behind it stay as they are
      have htable : n.isElement "table" = false := not_isTable_of_repeatsLast captions hrep
      have hnone : captionOf? captions front n = none := if_neg (by rw [htable]; decide)
      have hrest := ih (front ++ [n])
      rw [pending, lastCaption?_concat, hnone, tableCount_concat, htable, if_neg Bool.false_ne_true,
        Nat.add_zero] at hrest
      rw [if_pos rfl, hrest, standsFor, complaints, hnone, hrep, htable]
      rfl

end Captioning

/-- **Captioning sets captions by position and loses nothing else.** What stands in the output for
    each node, in the order of the nodes, is its caption paragraph and itself with its layout for a
    table whose entry has a caption, nothing for a paragraph that repeats the caption of the table
    directly before it, and the node itself otherwise; of a table the layout changes three
    attributes and nothing else; and every table without a caption is complained about. -/
theorem captionTables_eq (config : TablesConfig) (captions : List TableCaption) (doc : Fragment) :
    (captionTables config captions doc).value =
        (doc.mapIdx fun i n => standsFor config captions (doc.take i) n).flatten ∧
      (captionTables config captions doc).events =
        (doc.mapIdx fun i n => complaints captions (doc.take i) n).flatten ∧
      ∀ table, table.isElement "table" = true →
        Restyled config table (styledTable config table) := by
  have h := captionFrom_pending config captions [] doc
  refine ⟨congrArg Logged.value h, congrArg Logged.events h, fun table htable => ?_⟩
  exact restyled_styledTable config htable

/-- A table with one row of so many cells. -/
def rowTable (cells : Nat) : Node :=
  .table Dict.empty [.element "table_row" Dict.empty
    (List.replicate cells (.element "table_cell" Dict.empty []))]

/-- Three tables, of which the first is wide and has its caption twice behind it. -/
def threeTables : Fragment :=
  [rowTable 6, .paragraph [.plain " Alpha"], .paragraph [.plain "Alpha"], rowTable 2, rowTable 3]

/-- Entries for them: the second has no caption, and a fourth is left over. -/
def fourEntries : List TableCaption :=
  [⟨some "Alpha", true⟩, ⟨none, false⟩, ⟨some "Beta", false⟩, ⟨some "Gamma", false⟩]

/-- One repeated paragraph goes, the other one stays, and the third table is still the third. -/
theorem captionTables_eq_threeTables :
    (captionTables {} fourEntries threeTables).value =
        [captionParagraph {} 1 "Alpha", styledTable {} (rowTable 6), .paragraph [.plain "Alpha"],
          rowTable 2, captionParagraph {} 3 "Beta", styledTable {} (rowTable 3)] ∧
      (styledTable {} (rowTable 6)).attr? "size" = some (.string "75") := by
  obtain ⟨hvalue, -, hstyle⟩ := captionTables_eq {} fourEntries threeTables
  have hfirst : standsFor {} fourEntries (threeTables.take 0) (rowTable 6) =
      [captionParagraph {} 1 "Alpha", styledTable {} (rowTable 6)] := by
    have hcaption : captionOf? fourEntries [] (rowTable 6) = some "Alpha" := by decide +kernel
    rw [List.take_zero, standsFor, hcaption]
    rfl
  have hgone : standsFor {} fourEntries (threeTables.take 1) (.paragraph [.plain " Alpha"]) = [] :=
    if_pos (by decide +kernel)
  have hthird : standsFor {} fourEntries (threeTables.take 4) (rowTable 3) =
      [captionParagraph {} 3 "Beta", styledTable {} (rowTable 3)] := by
    have hcaption : captionOf? fourEntries (threeTables.take 4) (rowTable 3) = some "Beta" := by
      decide +kernel
    rw [standsFor, hcaption]
    rfl
  refine ⟨hvalue.trans ?_, (hstyle (rowTable 6) rfl).size.trans ?_⟩
  · change [standsFor {} fourEntries (threeTables.take 0) (rowTable 6),
      standsFor {} fourEntries (threeTables.take 1) (.paragraph [.plain " Alpha"]),
      standsFor {} fourEntries (threeTables.take 2) (.paragraph [.plain "Alpha"]),
      standsFor {} fourEntries (threeTables.take 3) (rowTable 2),
      standsFor {} fourEntries (threeTables.take 4) (rowTable 3)].flatten = _
    rw [hfirst, hgone, hthird]
    rfl
  · have hwide : IsWide {} (rowTable 6) := by decide
    rw [if_pos hwide]

end Galley
