import Galley.Text.Blank
import Galley.Text.Scan

/-!
# Dates

A date begins with a year of up to four figures, which a minus sign may precede, and may be a range
with a stroke between its ends, of which one may be open. Doubt is marked behind a date. What is
made of a date here is its settled form, in which a year has four figures.
-/

namespace Galley.Bibtex

open Galley.Text

/-! ## 1. Years -/

/-- Figures with noughts in front, four at least. -/
def fourFigures (figures : List Char) : List Char :=
  List.replicate (4 - figures.length) '0' ++ figures

/-- The year that comes next, with four figures, and what follows. -/
def readYear? (cs : List Char) : Option (List Char × List Char) :=
  let (sign, cs) := match trimLeft cs with
    | '-' :: cs => (['-'], cs)
    | '+' :: cs => ([], cs)
    | cs => ([], cs)
  let figures := cs.takeWhile Char.isDigit
  if figures.isEmpty || 4 < figures.length then none
  else some (sign ++ fourFigures figures, cs.dropWhile Char.isDigit)

/-- The settled form of a year field, which may have anything behind its year. -/
def settledYear? (cs : List Char) : Option (List Char) :=
  (readYear? cs).map Prod.fst

/-! ## 2. Dates -/

/-- Two figures behind a hyphen, and what follows. -/
def afterPart? : List Char → Option (List Char)
  | '-' :: a :: b :: cs => if a.isDigit && b.isDigit then some cs else none
  | _ => none

/-- Nothing but a month, a day and a time. -/
def isRestOfDate (cs : List Char) : Bool :=
  match afterPart? cs with
  | none => cs.isEmpty
  | some cs =>
    match afterPart? cs with
    | none => cs.isEmpty
    | some cs => cs.isEmpty || cs.head? = some 'T'

/-- The settled form of a date that is no range. -/
def settledDay? (cs : List Char) : Option (List Char) := do
  let (year, rest) ← readYear? cs
  let rest := rest.filter fun c => !isBlank c
  guard (isRestOfDate rest)
  some (year ++ rest)

/-- The settled form of a year whose last one or two figures are not known. -/
def settledSpan? (cs : List Char) : Option (List Char) :=
  let isOpenFigure := fun c : Char => c = 'X' || c = 'x'
  let figures := cs.takeWhile Char.isDigit
  let hidden := cs.dropWhile Char.isDigit
  if hidden.all isOpenFigure && figures.length + hidden.length = 4 && 2 ≤ figures.length then
    some (figures ++ hidden.map (fun _ => '0') ++ '/' :: figures ++ hidden.map fun _ => '9')
  else none

/-- The open end of a range. -/
def isOpenEnd (cs : List Char) : Bool :=
  let cs := trimChars cs
  cs.isEmpty || cs = ['.', '.']

/-- The settled form of a range. -/
def settledRange? (first last : List Char) : Option (List Char) := do
  guard !(isOpenEnd first && isOpenEnd last)
  let settledEnd? (cs : List Char) : Option (List Char) :=
    if isOpenEnd cs then some ['.', '.'] else settledDay? cs
  let first ← settledEnd? first
  let last ← settledEnd? last
  some (first ++ '/' :: last)

/-- A date without the mark of doubt behind it. -/
def withoutDoubt (cs : List Char) : List Char :=
  let cs := trimRight cs
  match cs.getLast? with
  | some c => if c = '?' || c = '~' || c = '%' then cs.dropLast else cs
  | none => cs

/-- The settled form of a date field. What is no date stays as it is. -/
def settledDate (cs : List Char) : List Char :=
  let date := withoutDoubt cs
  let settled :=
    if date.any fun c => c = 'X' || c = 'x' then settledSpan? date
    else match cut? ['/'] date with
      | some (first, last) => settledRange? first last
      | none => settledDay? date
  settled.getD cs

end Galley.Bibtex
