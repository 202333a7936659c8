import Galley.Citation.Basic
import Galley.Text.Scan

/-!
# The text of a citation

A label has the form "(Author, Year)". Its author part runs up to the last comma and blank that
have a closing parenthesis behind them, its year from there to the first closing parenthesis, both
within one line. From the label, the kind and place of an occurrence, and its notes comes the text
that stands in running prose.
-/

namespace Galley.Label

open Galley.Text

/-! ## 1. Author and year -/

/-- A label in its parts. -/
structure AuthorYear where
  /-- What stands before the opening parenthesis. -/
  front : List Char
  author : List Char
  year : List Char
  /-- What stands behind the closing parenthesis. -/
  back : List Char
  deriving DecidableEq, Repr

/-- Author, year and what follows, from behind the opening parenthesis on. The last comma that
    gives a year counts. -/
def authorYearAhead? : List Char → Option (List Char × List Char × List Char)
  | [] => none
  | c :: cs =>
    if c = '\n' then none
    else
      match authorYearAhead? cs with
      | some (author, year, back) => some (c :: author, year, back)
      | none =>
        match after? [',', ' '] (c :: cs) with
        | some rest => (lineCut? ')' rest).map fun p => ([], p.1, p.2)
        | none => none

/-- The parts of the first place in a label that has this form. -/
def AuthorYear.find? : List Char → Option AuthorYear
  | [] => none
  | c :: cs =>
    match if c = '(' then authorYearAhead? cs else none with
    | some (author, year, back) => some ⟨[], author, year, back⟩
    | none => (AuthorYear.find? cs).map fun p => { p with front := c :: p.front }

/-- The label that the parts were taken from. -/
def AuthorYear.label (p : AuthorYear) : List Char :=
  p.front ++ '(' :: p.author ++ [',', ' '] ++ p.year ++ ')' :: p.back

theorem authorYearAhead?_eq_some {cs author year back : List Char}
    (h : authorYearAhead? cs = some (author, year, back)) :
    cs = author ++ [',', ' '] ++ year ++ ')' :: back := by
  induction cs generalizing author with
  | nil => simp [authorYearAhead?] at h
  | cons c cs ih =>
    simp only [authorYearAhead?] at h
    split at h
    · cases h
    · split at h
      · next a y b hr => cases h; simp [ih hr]
      · split at h
        · next rest hr =>
          obtain ⟨p, hp, he⟩ := Option.map_eq_some_iff.1 h
          cases he
          rw [after?_eq_some_iff.1 hr, lineCut?_eq_some (a := p.1) (b := p.2) hp]
          simp
        · cases h

/-- Taking a label apart loses nothing. -/
theorem AuthorYear.label_of_find? {cs : List Char} {p : AuthorYear}
    (h : AuthorYear.find? cs = some p) : p.label = cs := by
  induction cs generalizing p with
  | nil => simp [AuthorYear.find?] at h
  | cons c cs ih =>
    simp only [AuthorYear.find?] at h
    split at h
    · next a y b hr =>
      cases h
      split at hr
      · next hc =>
        subst hc
        rw [authorYearAhead?_eq_some hr]
        simp [AuthorYear.label]
      · cases hr
    · obtain ⟨q, hq, he⟩ := Option.map_eq_some_iff.1 h
      cases he
      have hl := ih hq
      simpa [AuthorYear.label] using hl

/-! ## 2. The text of an occurrence -/

/-- Text without its first `c`. -/
def dropFirst (c : Char) (cs : List Char) : List Char :=
  cs.erase c

/-- The note in front, and a blank. -/
def leadIn (o : Occurrence) : String :=
  match o.before with
  | some note => note ++ " "
  | none => ""

/-- The label without its first pair of parentheses, with the notes around it. -/
def formatted (o : Occurrence) (label : String) : String :=
  let bare := String.ofList (dropFirst ')' (dropFirst '(' label.toList))
  leadIn o ++ bare ++
    match o.after with
    | some note => ", " ++ note
    | none => ""

/-- A parenthetical citation: a group shares one pair of parentheses. -/
def parenthetical (position : Position) (text : String) : String :=
  match position with
  | .first => "(" ++ text ++ "; "
  | .middle => text ++ "; "
  | .last => text ++ ")"
  | .alone => "(" ++ text ++ ")"

/-- The text that stands for one occurrence in running prose. -/
def inline (o : Occurrence) (label : String) : String :=
  match o.kind, AuthorYear.find? label.toList with
  | .paren, _ => parenthetical o.position (formatted o label)
  | .text, some p =>
    leadIn o ++ String.ofList (p.front ++ p.author ++ [' ', '('] ++ p.year ++ p.back) ++
      (match o.after with
        | some note => " " ++ note
        | none => "") ++ ")"
  | .text, none => formatted o label
  | .year, some p => String.ofList (p.front ++ p.year ++ p.back)
  | .author, some p => String.ofList (p.front ++ p.author ++ p.back)
  | .year, none | .author, none => label

end Galley.Label
