import Galley.Config.Basic
import Galley.Log
import Galley.Markup.TableCaption
import Galley.Text.Blank
import Galley.Tree.Fragment

/-!
# Headings and tables of a document

Two passes over the nodes at the top: headings that duplicate the abstract's are blanked, and
tables get their captions and their layout.
-/

namespace Galley

/-! ## 1. Abstract headings -/

/-- A heading of the first level with the abstract's title. -/
def isAbstractHeading (config : HeadingsConfig) (n : Node) : Bool :=
  n.isElement "heading" && n.level? == some 1 && n.textContent == config.abstractTitle

/-- A heading that duplicates the abstract's. Without a supplied abstract, one that has the
    abstract's identifier is the abstract's own. -/
def duplicatesAbstract (config : HeadingsConfig) (supplied : Bool) (n : Node) : Bool :=
  isAbstractHeading config n && (supplied || n.attrText? "id" != some config.abstractId)

/-- The nodes with an empty paragraph in place of every heading that duplicates the abstract's. -/
def blankAbstracts (config : HeadingsConfig) (supplied : Bool) (doc : Fragment) : Fragment :=
  doc.map fun n => if duplicatesAbstract config supplied n then .emptyParagraph else n

/-! ## 2. Tables -/

/-- The paragraph "Table N. caption". -/
def captionParagraph (config : TablesConfig) (number : Nat) (caption : String) : Node :=
  .paragraph [
    .text (config.label ++ " " ++ toString number ++ ". ") [.strong],
    .text caption [.em]]

/-- How many cells the last row of a table has. -/
def columnCount (table : Node) : Nat :=
  (table.content.getLast?.map fun row => row.content.length).getD 0

/-- A table with its layout. -/
def styledTable (config : TablesConfig) (table : Node) : Node :=
  let isWide := config.wideThreshold < columnCount table
  let size := if isWide then config.wideSize else config.narrowSize
  ((table.withAttr "size" (.string size)).withAttr "align" (.string config.align)).withAttr
    "smallerFont" (.bool config.smallerFont)

/-- A paragraph that repeats a caption. -/
def repeatsCaption (caption : String) (n : Node) : Bool :=
  n.isElement "paragraph" && Text.trim n.textContent == caption

/-- The nodes without the one that comes first, if it repeats a caption. -/
def dropRepeated (caption : String) : List Node → List Node
  | [] => []
  | n :: ns => if repeatsCaption caption n then ns else n :: ns

theorem dropRepeated_length (caption : String) (ns : List Node) :
    (dropRepeated caption ns).length ≤ ns.length := by
  cases ns with
  | nil => exact Nat.le_refl _
  | cons n ns =>
    simp only [dropRepeated]
    split
    · simp
    · exact Nat.le_refl _

/-- The nodes with captions on their tables, behind `tables` tables. The first table takes the
    first of `captions`, and so on. -/
def captionFrom (config : TablesConfig) (captions : List Markup.TableCaption) (tables : Nat) :
    List Node → Logged (List Node)
  | [] => pure []
  | n :: ns =>
    if n.isElement "table" then
      match captions[tables]?.bind Markup.TableCaption.plain? with
      | none => do
        Logged.warn (.failure (.missingCaption (tables + 1)))
        let rest ← captionFrom config captions (tables + 1) ns
        pure (n :: rest)
      | some caption => do
        let rest ← captionFrom config captions (tables + 1) (dropRepeated caption ns)
        pure (captionParagraph config (tables + 1) caption :: styledTable config n :: rest)
    else do
      let rest ← captionFrom config captions tables ns
      pure (n :: rest)
termination_by ns => ns.length
decreasing_by
  · simp
  · exact Nat.lt_succ_of_le (dropRepeated_length _ ns)
  · simp

/-- The nodes with captions and layout on their tables. A table without a caption stays as it
    is. -/
def captionTables (config : TablesConfig) (captions : List Markup.TableCaption)
    (doc : Fragment) : Logged Fragment :=
  captionFrom config captions 0 doc

end Galley
