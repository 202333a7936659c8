import Galley.Markup.Region
import Galley.Text.Blank

/-!
# Captions of tables

Every table environment has an entry, in the order of the markup, with the first caption that
stands in it. A table ends at the next end command of a table, whichever it closes, or with the
text.
-/

namespace Galley.Markup

open Galley.Text

/-- The caption entry of one table environment. -/
structure TableCaption where
  /-- The caption as it is written, if the table has one. -/
  caption : Option String
  /-- The environment is the starred one. -/
  starred : Bool
  deriving DecidableEq, Repr, Inhabited

/-! ## 1. Environments -/

/-- How the plain environment begins. -/
def tableBegin : List Char := "\\begin\x7btable\x7d".toList

/-- How the starred environment begins. -/
def starredTableBegin : List Char := "\\begin\x7btable*\x7d".toList

/-- What follows a begin command of a table, which comes next, and whether it is starred. -/
def tableBegin? (cs : List Char) : Option (Bool × List Char) :=
  match after? tableBegin cs with
  | some rest => some (false, rest)
  | none => (after? starredTableBegin cs).map (true, ·)

/-- An end command of a table comes next. -/
def tableEnds (cs : List Char) : Bool :=
  startsWith "\\end\x7btable\x7d".toList cs || startsWith "\\end\x7btable*\x7d".toList cs

theorem tableBegin?_length {cs rest : List Char} {starred : Bool}
    (h : tableBegin? cs = some (starred, rest)) : rest.length < cs.length := by
  unfold tableBegin? at h
  split at h
  · next h' =>
    cases h
    have hw : 0 < tableBegin.length := by decide
    have := after?_length h'
    omega
  · obtain ⟨r, hr, he⟩ := Option.map_eq_some_iff.1 h
    cases he
    have hw : 0 < starredTableBegin.length := by decide
    have := after?_length hr
    omega

/-- The first caption in the body of a table. -/
def firstCaption? (body : List Char) : Option String :=
  (captions body).head?.map fun r => String.ofList r.text

/-- The caption entries of the tables of a text, in order. -/
def tableCaptions : List Char → List TableCaption
  | [] => []
  | c :: cs =>
    match _h : tableBegin? (c :: cs) with
    | some (starred, rest) =>
      let inside := breakBefore tableEnds rest
      ⟨firstCaption? inside.1, starred⟩ :: tableCaptions inside.2
    | none => tableCaptions cs
termination_by cs => cs.length
decreasing_by
  · exact Nat.lt_of_le_of_lt (breakBefore_length tableEnds rest) (tableBegin?_length _h)
  · simp

/-! ## 2. Plain captions -/

/-- The argument of a command, up to the next brace, which has to close it, and what follows. -/
def plainArgument? (cs : List Char) : Option (List Char × List Char) :=
  match breakAt isBrace cs with
  | (argument, b :: rest) => if b = '\x7d' then some (argument, rest) else none
  | (_, []) => none

/-- What follows an asterisk, if one comes next. -/
def skipStar : List Char → List Char
  | [] => []
  | c :: cs => if c = '*' then cs else c :: cs

/-- In place of a command with one argument that has no braces in it, the argument. -/
def unwrapInnermost : Rule
  | [] => none
  | c :: cs =>
    if c = '\\' && nameGoesOn cs then
      match skipStar (cs.dropWhile Char.isAlpha) with
      | [] => none
      | b :: rest => if b = '\x7b' then plainArgument? rest else none
    else none

/-- All commands with one argument replaced by their arguments, in as many rounds as it takes. -/
def unwrapAll (cs : List Char) : List Char :=
  let next := replaceAll unwrapInnermost cs
  if next.length < cs.length then unwrapAll next else cs
termination_by cs.length

/-- A character that markup writes with a backslash. -/
def isSpecial (c : Char) : Bool :=
  c = '%' || c = '&' || c = '_' || c = '#' || c = '$'

/-- In place of a special character behind a backslash, that character. -/
def unescapeSpecial : Rule
  | b :: c :: cs => if b = '\\' && isSpecial c then some ([c], cs) else none
  | _ => none

/-- Text with a blank for every tie. -/
def untie (cs : List Char) : List Char :=
  cs.map fun c => if c = '~' then ' ' else c

/-- A caption as a reader sees it. -/
def plainCaption (caption : String) : String :=
  String.ofList <| squeezeBlanks <| trimChars <| untie <|
    replaceAll unescapeSpecial (unwrapAll caption.toList)

/-- The caption as a reader sees it, if there is anything to see. -/
def TableCaption.plain? (t : TableCaption) : Option String :=
  match t.caption.map plainCaption with
  | some s => if s.isEmpty then none else some s
  | none => none

end Galley.Markup
