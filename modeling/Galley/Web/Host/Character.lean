import Galley.Text.Normal
import Galley.Web.Host.Table

/-!
# Characters of host names

What every character of a host name stands for, and the properties of characters that the rules for
names ask for: marks, directions, and how letters join.
-/

namespace Galley.Web.Host

open Galley.Text

/-! ## 1. Mapping -/

/-- Characters in a row and what each of them stands for. -/
structure MappingRun where
  first : Nat
  targets : List (List Char)
  deriving DecidableEq, Repr, Inhabited

/-- The characters that a word spells by their code points, with plus signs between them. -/
def readTarget (word : List Char) : List Char :=
  (word.splitOn '+').map fun cs => Char.ofNat (hexNumber cs)

/-- Runs with one more word in front. The first of the runs has not got its beginning yet. -/
def readRun (word : List Char) : List MappingRun → List MappingRun
  | [] => []
  | run :: runs =>
    match word with
    | '@' :: cs => ⟨0, []⟩ :: ⟨hexNumber cs, run.targets⟩ :: runs
    | cs => ⟨0, readTarget cs :: run.targets⟩ :: runs

/-- The runs that some words spell. -/
def readRuns (words : List (List Char)) : List MappingRun :=
  (words.foldr readRun [⟨0, []⟩]).drop 1

/-- All runs of characters that stand for others. -/
def mapping : List MappingRun :=
  Table.mappingLines.flatMap fun line => readRuns (lineWords line)

/-- What a character past ASCII stands for, when it stands for something else. -/
def target? (c : Char) : Option (List Char) :=
  mapping.findSome? fun run =>
    if run.first ≤ c.toNat then run.targets[c.toNat - run.first]? else none

/-- The characters that are passed over. -/
def ignored : Ranges := .ofLines Table.ignoredLines

/-- The characters that no name holds. -/
def refused : Ranges := .ofLines Table.refusedLines

/-- A character may stand in a name as it is. -/
def isSettled (c : Char) : Bool :=
  if c.toNat < 0x80 then !c.isUpper
  else (target? c).isNone && !ignored.holds c && !refused.holds c

/-- What a character of a name stands for; nothing when no name holds it. -/
def mapChar? (c : Char) : Option (List Char) :=
  if c.toNat < 0x80 then some [c.toLower]
  else match target? c with
    | some cs => some cs
    | none => if ignored.holds c then some [] else if refused.holds c then none else some [c]

/-! ## 2. Marks and joining -/

/-- The marks, which no part of a name begins with. -/
def marks : Ranges := .ofLines Table.markLines

/-- A mark that cuts off the vowel of its letter. -/
def isVowelKiller (c : Char) : Bool :=
  markClass c = 9

/-- The letters that join the next one only. -/
def joinsNext : Ranges := .ofLines Table.joinsNextLines

/-- The letters that join the last one only. -/
def joinsLast : Ranges := .ofLines Table.joinsLastLines

/-- The letters that join on both sides. -/
def joinsBoth : Ranges := .ofLines Table.joinsBothLines

/-- The characters that joining passes through. -/
def seeThrough : Ranges := .ofLines Table.seeThroughLines

/-! ## 3. Directions -/

/-- How a character takes part in the direction of a text. -/
inductive Direction where
  | left
  | right
  | arabic
  | figure
  | arabicFigure
  | sign
  | separator
  | unit
  | neutral
  | weightless
  | attached
  | break
  deriving DecidableEq, Repr, Inhabited

/-- The characters of every direction but the usual one. -/
def directions : List (Direction × Ranges) := [
  (.figure, .ofLines Table.figureLines), (.neutral, .ofLines Table.neutralLines),
  (.right, .ofLines Table.rightLines), (.arabic, .ofLines Table.arabicLines),
  (.arabicFigure, .ofLines Table.arabicFigureLines), (.sign, .ofLines Table.signLines),
  (.separator, .ofLines Table.separatorLines), (.unit, .ofLines Table.unitLines),
  (.weightless, .ofLines Table.weightlessLines), (.attached, .ofLines Table.attachedLines),
  (.break, .ofLines Table.breakLines)]

/-- The direction of a character. -/
def directionOf (c : Char) : Direction :=
  ((directions.find? fun row => row.2.holds c).map Prod.fst).getD .left

end Galley.Web.Host
