import Galley.Text.Scan
import Galley.Web.Host.Character
import Galley.Web.Punycode

/-!
# Names of hosts

A name falls apart at its points into labels. Its characters are first replaced by those that they
stand for. Then every label has to follow the rules for marks, for joiners, and, where a part of
the name is written from right to left, for directions.
-/

namespace Galley.Web.Host

open Galley.Text

/-! ## 1. Characters of a name -/

/-- A character of ASCII that no host holds. -/
def isForbidden (c : Char) : Bool :=
  c.toNat ≤ 0x20 || c.toNat = 0x7F ||
    ['#', '/', ':', '<', '>', '?', '@', '[', '\\', ']', '^', '|', '%'].contains c

/-- A name with every character replaced by what it stands for, in its normal form. -/
def mapName? (name : List Char) : Option (List Char) := do
  let mapped ← name.mapM mapChar?
  let name := normalForm mapped.flatten
  guard !(name.any isForbidden)
  some name

/-! ## 2. Joiners -/

/-- The characters before a joiner, the nearest first, and those behind it are letters that join
    across it. -/
def joinsAcross (before behind : List Char) : Bool :=
  let next (cs : List Char) : Option Char := (cs.dropWhile seeThrough.holds).head?
  (next before).any (fun c => joinsNext.holds c || joinsBoth.holds c) &&
    (next behind).any fun c => joinsLast.holds c || joinsBoth.holds c

/-- Every joiner of a label stands behind a mark that cuts off a vowel, or keeps letters apart that
    would join. The characters of `before` are backwards. -/
def joinersFit (before : List Char) : List Char → Bool
  | [] => true
  | c :: cs =>
    let fits :=
      if c = '\u200d' then before.head?.any isVowelKiller
      else if c = '\u200c' then before.head?.any isVowelKiller || joinsAcross before cs
      else true
    fits && joinersFit (c :: before) cs

/-! ## 3. Directions -/

/-- A direction that turns a name around. -/
def Direction.turns (d : Direction) : Bool :=
  [.right, .arabic, .arabicFigure].contains d

/-- The directions of a label follow the rules: it begins with a letter and ends with a letter or a
    figure, apart from marks, and between them stands nothing of the other direction. -/
def directionsFit (label : List Char) : Bool :=
  let ds := label.map directionOf
  let ending := (ds.reverse.dropWhile fun d => d = .attached).head?
  let mixed : List Direction :=
    [.figure, .sign, .separator, .unit, .neutral, .weightless, .attached]
  match ds.head? with
  | none => true
  | some .left =>
    ds.all (fun d => d = .left || mixed.contains d) &&
      ending.any fun d => d = .left || d = .figure
  | some first =>
    (first = .right || first = .arabic) &&
      ds.all (fun d => d.turns || mixed.contains d) &&
      ending.any (fun d => d.turns || d = .figure) &&
      !(ds.contains .figure && ds.contains .arabicFigure)

/-! ## 4. Labels -/

/-- How many characters a label may have that is to be coded, or is coded. -/
def maxLabelLength (coded : Bool) : Nat :=
  if coded then 2000 else 1000

/-- What a coded label stands for: some characters past ASCII, all of them settled and in their
    normal form. -/
def decodeLabel? (coded : List Char) : Option (List Char) := do
  guard (coded.length ≤ maxLabelLength true)
  let label ← Punycode.decode? coded
  guard (label.any (fun c => 0x80 ≤ c.toNat) && label.all isSettled && normalForm label = label)
  some label

/-- What a label stands for. -/
def labelText? (label : List Char) : Option (List Char) :=
  match after? ['x', 'n', '-', '-'] label with
  | some coded => decodeLabel? coded
  | none =>
    if label.any (fun c => 0x80 ≤ c.toNat) && maxLabelLength false < label.length then none
    else some label

/-- The labels of a name that has been mapped. -/
def labels? (name : List Char) : Option (List (List Char)) :=
  (name.splitOn '.').mapM labelText?

/-- Labels follow the rules. -/
def labelsFit (labels : List (List Char)) : Bool :=
  let turned := labels.any fun label => label.any fun c => (directionOf c).turns
  labels.all fun label =>
    !label.head?.any marks.holds && joinersFit [] label && (!turned || directionsFit label)

/-- The name that is meant by a text; nothing when it is none. -/
def resolve? (text : List Char) : Option (List Char) := do
  let name ← mapName? text
  guard !name.isEmpty
  let labels ← labels? name
  guard (labelsFit labels)
  some name

end Galley.Web.Host
