import Galley.Text.Percent

/-!
# Ranges of characters

A class of characters is given by ranges of code points, as a table or as the text of one. In a
text a range is written with its ends in hexadecimal and a hyphen between them, or with one code
point alone.
-/

namespace Galley.Text

/-- Inclusive ranges of code points. -/
abbrev Ranges := Array (Nat × Nat)

/-- Some range of `rs` holds the code point of `c`. -/
def Ranges.holds (rs : Ranges) (c : Char) : Bool :=
  rs.any fun r => r.1 ≤ c.toNat && c.toNat ≤ r.2

/-- The number that hexadecimal digits spell. Other characters count as zero. -/
def hexNumber (cs : List Char) : Nat :=
  cs.foldl (fun n c => 16 * n + (hexValue? c).getD 0) 0

/-- The range that a word spells. -/
def readRange (word : List Char) : Nat × Nat :=
  let ends := (word.splitOn '-').map hexNumber
  (ends.head?.getD 0, ends.getLast?.getD 0)

/-- The words of a line. -/
def lineWords (line : String) : List (List Char) :=
  line.toList.splitOn ' '

/-- The ranges that the words of some lines spell. -/
def Ranges.ofLines (lines : List String) : Ranges :=
  (lines.flatMap fun line => (lineWords line).map readRange).toArray

end Galley.Text
