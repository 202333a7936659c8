import Galley.Reference.Basic
import Galley.Style.AuthorDate

/-!
# Keeping labels apart

Two works may not share one visible label. Labels are handed out in the order in which keys come,
and a key keeps its label. A rendered label that no earlier key had is taken as it is. Otherwise
the keys that had it decide: if the first family name is the same in all of them, the year gets a
letter; if the initial of the first given name is the same, more of that name and all co-authors
are shown; else those authors are listed that none of them has.
-/

namespace Galley.Label

open Galley.AuthorDate (noDate)

/-- A label that has been handed out. -/
structure Assigned where
  key : String
  reference : Option Reference
  /-- The label before anything was done to keep it apart. -/
  rendered : String
  label : String
  /-- The letters behind the year. -/
  suffix : Option String
  deriving DecidableEq, Repr

/-- The labels handed out so far, in order. -/
abbrev Disambiguator := List Assigned

/-! ## 1. Year letters -/

/-- The letters that follow `letters`, both written backwards: the first character below "z" is
    raised, and every byte of what stands before it starts again at "a". -/
def nextBackwards : List Char → List Char
  | [] => ['a']
  | c :: cs =>
    if c < 'z' then Char.ofNat (c.toNat + 1) :: cs
    else List.replicate c.utf8Size 'a' ++ nextBackwards cs

/-- The letters behind `previous`: a, b, …, z, aa, ab, …; without previous letters, "a". -/
def nextSuffix (previous : Option String) : String :=
  match previous with
  | none => "a"
  | some letters =>
    if letters.isEmpty then "a" else String.ofList (nextBackwards letters.toList.reverse).reverse

/-- A label with letters behind its year, inside a closing parenthesis. -/
def withSuffix (rendered suffix : String) : String :=
  match rendered.toList.reverse with
  | ')' :: front => String.ofList front.reverse ++ suffix ++ ")"
  | _ => rendered ++ suffix

/-! ## 2. Longer author parts -/

/-- The first two letters of the first given name, and the co-authors. -/
def expandedInitials (names : List Name) (year : String) : String :=
  match names with
  | [] => "(" ++ year ++ ")"
  | first :: rest =>
    let shown := (first.given.toList.filter Text.isLetter).take 2
    let author := if shown.isEmpty then first.family
      else String.ofList shown ++ ". " ++ first.family
    "(" ++ author ++ String.join (rest.map fun n => ", " ++ n.family) ++ ", " ++ year ++ ")"

/-- The names of a reference, if there is one. -/
def namesOf (r : Option Reference) : List Name :=
  match r with
  | some r => r.names
  | none => []

/-- The authors that no work in `colliding` has, or else the first author, and others. -/
def differingAuthors (names : List Name) (colliding : List Assigned) (year : String) : String :=
  let differing := names.filter fun n => !colliding.any fun a => (namesOf a.reference).contains n
  let shown := if differing.isEmpty then names.take 1 else differing
  "(" ++ ", ".intercalate (shown.map Name.family ++ ["et al."]) ++ ", " ++ year ++ ")"

/-! ## 3. Handing out labels -/

/-- The first family name. -/
def firstFamily? (r : Option Reference) : Option String :=
  (namesOf r).head?.map Name.family

/-- The initial of the first given name. -/
def firstInitial? (r : Option Reference) : Option Char :=
  (namesOf r).head?.bind Name.initial?

/-- The letters of the last work in a list. -/
def lastSuffix? (colliding : List Assigned) : Option String :=
  colliding.getLast?.bind Assigned.suffix

/-- The label, and the letters in it, of a work whose rendered label the works in `colliding`
    had. -/
def distinguish (colliding : List Assigned) (reference : Option Reference) (rendered : String) :
    String × Option String :=
  let names := namesOf reference
  let year := (reference.bind Reference.year).getD noDate
  if colliding.isEmpty then (rendered, none)
  else if colliding.all fun a => firstFamily? a.reference == firstFamily? reference then
    let suffix := nextSuffix (lastSuffix? colliding)
    (withSuffix rendered suffix, some suffix)
  else if colliding.all fun a => firstInitial? a.reference == firstInitial? reference then
    (expandedInitials names year, none)
  else (differingAuthors names colliding year, none)

namespace Disambiguator

/-- The label of a key, if it has one. -/
def label? (d : Disambiguator) (key : String) : Option String :=
  (d.find? fun a => a.key == key).map Assigned.label

/-- The works whose rendered label was `rendered`. -/
def colliding (d : Disambiguator) (rendered : String) : List Assigned :=
  d.filter fun a => a.rendered == rendered

/-- The label of a key, and the labels handed out then. -/
def assign (d : Disambiguator) (key : String) (reference : Option Reference) (rendered : String) :
    String × Disambiguator :=
  match d.label? key with
  | some label => (label, d)
  | none =>
    let (label, suffix) := distinguish (d.colliding rendered) reference rendered
    (label, d ++ [⟨key, reference, rendered, label, suffix⟩])

end Disambiguator

end Galley.Label
