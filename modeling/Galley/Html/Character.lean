import Galley.Html.CharReference
import Galley.Text.Scan

/-!
# Characters of HTML

Blanks, and names in small letters.
-/

namespace Galley.Html

/-- The blanks of HTML. -/
def isSpace (c : Char) : Bool :=
  c = ' ' || c = '\t' || c = '\n' || c = '\x0c' || c = '\r'

/-- `cs` from its next character on that is no blank. -/
def skipSpace (cs : List Char) : List Char :=
  cs.dropWhile isSpace

/-- Letters in small letters, and a mark in place of a null character. -/
def foldName (cs : List Char) : String :=
  String.ofList (cs.map fun c => if c = '\x00' then replacement else c.toLower)

end Galley.Html
