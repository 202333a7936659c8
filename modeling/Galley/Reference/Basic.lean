import Galley.Dict
import Galley.Text.Blank
import Galley.Text.Letter

/-!
# References

A reference holds what a label or an entry of the reference list is made from. A bibliography
keeps its references under their keys, in the order of the database.
-/

namespace Galley

/-- The name of a person or a body. -/
structure Name where
  family : String
  given : String
  deriving DecidableEq, Repr, Inhabited

/-- One work. -/
structure Reference where
  id : String
  /-- The kind of entry, in small letters ("article", "book"). -/
  entryType : String
  authors : List Name
  editors : List Name
  title : Option String
  /-- The year as it is written, so it may be "in press". -/
  year : Option String
  containerTitle : Option String
  volume : Option String
  issue : Option String
  pages : Option String
  publisher : Option String
  doi : Option String
  url : Option String
  deriving DecidableEq, Repr, Inhabited

/-- References under their keys, in the order of the database. -/
abbrev Bibliography := Dict Reference

/-! ## 1. Names -/

namespace Name

/-- The first letter of the given name. -/
def initial? (n : Name) : Option Char :=
  n.given.toList.find? Text.isLetter

/-- The parts of a given name, between blanks and hyphens. -/
def parts (given : List Char) : List (List Char) :=
  given.splitOnP fun c => Text.isBlank c || c = '-'

/-- The initial of every part of the given name: "Thomas S." gives "T. S.". -/
def initials (n : Name) : String :=
  " ".intercalate <| (parts n.given.toList).filterMap fun part =>
    (part.find? Text.isLetter).map fun c => String.ofList [c, '.']

end Name

/-! ## 2. The people behind a work -/

namespace Reference

/-- The authors; the editors, when there are no authors. -/
def names (r : Reference) : List Name :=
  if r.authors.isEmpty then r.editors else r.authors

/-- The first of the authors, or else of the editors. -/
def firstName? (r : Reference) : Option Name :=
  r.names.head?

end Reference

end Galley
