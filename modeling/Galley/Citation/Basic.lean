/-!
# Citations

One occurrence of a citation: the key it cites, the family of the command it was written with, its
place in a group of citations, and the notes around it.
-/

namespace Galley

/-- How a citation reads in prose. -/
inductive CitationKind where
  /-- In parentheses: "(Smith, 2020)". -/
  | paren
  /-- As part of the sentence: "Smith (2020)". -/
  | text
  /-- The author alone. -/
  | author
  /-- The year alone. -/
  | year
  deriving DecidableEq, Repr, Inhabited

/-- The place of an entry in its group. -/
inductive Position where
  | alone
  | first
  | middle
  | last
  deriving DecidableEq, Repr, Inhabited

/-- One place where a key is cited. -/
structure Occurrence where
  key : String
  kind : CitationKind
  position : Position
  /-- The note in front of the label ("see"). -/
  before : Option String
  /-- The note behind the label ("p. 4"). -/
  after : Option String
  deriving DecidableEq, Repr, Inhabited

/-- The family of a citation command. -/
def CitationKind.ofCommand? (command : String) : Option CitationKind :=
  match command with
  | "parencite" | "parencites" => some .paren
  | "textcite" | "textcites" => some .text
  | "citeauthor" => some .author
  | "citeyear" => some .year
  | _ => none

/-- The place of entry `index`, counted from zero, in a group of `size` entries. -/
def Position.inGroup (index size : Nat) : Position :=
  if size ≤ 1 then .alone
  else if index = 0 then .first
  else if index + 1 = size then .last
  else .middle

/-- A lone parenthetical citation of `key`, without notes. -/
def Occurrence.simple (key : String) : Occurrence :=
  ⟨key, .paren, .alone, none, none⟩

theorem Position.inGroup_zero {size : Nat} (h : 1 < size) : Position.inGroup 0 size = .first := by
  simp [Position.inGroup, Nat.not_le.2 h]

theorem Position.inGroup_pred {size : Nat} (h : 1 < size) :
    Position.inGroup (size - 1) size = .last := by
  have h1 : ¬ size ≤ 1 := Nat.not_le.2 h
  have h2 : size - 1 ≠ 0 := by omega
  have h3 : size - 1 + 1 = size := by omega
  simp [Position.inGroup, h1, h2, h3]

theorem Position.inGroup_between {index size : Nat} (h0 : 0 < index) (h : index + 1 < size) :
    Position.inGroup index size = .middle := by
  have h1 : ¬ size ≤ 1 := by omega
  have h2 : index ≠ 0 := by omega
  have h3 : index + 1 ≠ size := by omega
  simp [Position.inGroup, h1, h2, h3]

end Galley
