import Galley.Failure
import Galley.Reference.Basic

/-!
# Citation styles

The pipeline formats no reference itself. It asks a formatter for one label per cited key and for
the whole reference list.
-/

namespace Galley

/-- The markup of formatted output. -/
inductive Output where
  | text
  | html
  deriving DecidableEq, Repr, Inhabited

/-- What a formatter is told when it is asked for a label. -/
structure CitationRequest where
  key : String
  style : String
  output : Output
  /-- Keys cited earlier in the document, in order. -/
  citedBefore : List String
  /-- Keys cited from this point on, in order. -/
  citedAfter : List String
  deriving DecidableEq, Repr, Inhabited

/-- A citation style. -/
structure Formatter where
  /-- The label of one key, such as "(Lee, 2021)". -/
  citation : Bibliography → CitationRequest → Except Failure String
  /-- The reference list of a bibliography, in the named style. -/
  bibliography : Bibliography → String → Output → Except Failure String

end Galley
