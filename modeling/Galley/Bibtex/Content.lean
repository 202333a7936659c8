import Galley.Bibtex.Command

/-!
# The content of a field

The value of a field is markup: braces guard what they hold, commands stand for accents and
symbols, two and three hyphens for dashes, and dollar signs enclose formulas. Reading it gives the
characters that are meant, in pieces that are set alike.
-/

namespace Galley.Bibtex

open Galley.Text

/-- How the characters of a piece are set. -/
inductive Setting where
  | plain
  /-- The piece stands in braces. -/
  | guarded
  | formula
  deriving DecidableEq, Repr, Inhabited

/-- Characters that are set alike. -/
structure Piece where
  setting : Setting
  chars : List Char
  deriving DecidableEq, Repr, Inhabited

/-- What a field says. -/
abbrev Content := List Piece

/-! ## 1. Views -/

/-- Plain characters. -/
def Content.ofChars (cs : List Char) : Content :=
  [⟨.plain, cs⟩]

/-- The characters of a piece as they are written. -/
def Piece.written (p : Piece) : List Char :=
  if p.setting = .formula then '$' :: p.chars ++ ['$'] else p.chars

/-- All characters as they are written, formulas with their dollar signs. -/
def Content.written (content : Content) : List Char :=
  content.flatMap Piece.written

/-- The text of a field, without its formulas. -/
def Content.text (content : Content) : String :=
  String.ofList ((content.filter fun p => p.setting ≠ .formula).flatMap Piece.chars)

/-- Content in which no two pieces that are set alike stand side by side. -/
def Content.join : Content → Content
  | [] => []
  | p :: ps =>
    match Content.join ps with
    | [] => [p]
    | q :: qs =>
      if p.setting = q.setting then ⟨p.setting, p.chars ++ q.chars⟩ :: qs else p :: q :: qs

/-! ## 2. Reading -/

/-- A character that a backslash makes literal. -/
def isEscapable (verbatim : Bool) (c : Char) : Bool :=
  c = '\x7b' || c = '\x7d' || c = '\\' || c = ':' ||
    (!verbatim && (c = '#' || c = '&' || c = '%' || c = '$' || c = '_'))

/-- The text up to the brace that closes the `depth` open ones and the one before it, and the text
    behind that brace. -/
def upToMatching? (depth : Nat) : List Char → Option (List Char × List Char)
  | [] => none
  | c :: cs =>
    if c = '\x7d' && depth = 0 then some ([], cs)
    else
      let inner := if c = '\x7b' then depth + 1 else if c = '\x7d' then depth - 1 else depth
      (upToMatching? inner cs).map fun p => (c :: p.1, p.2)

/-- The formula up to the dollar sign that ends it, and what follows. -/
def readFormula? : List Char → Option (List Char × List Char)
  | [] => none
  | [c] => if c = '$' then some ([], []) else none
  | c :: d :: cs =>
    if c = '\\' then (readFormula? cs).map fun p => (c :: d :: p.1, p.2)
    else if c = '$' then some ([], d :: cs)
    else (readFormula? (d :: cs)).map fun p => (c :: p.1, p.2)

/-- The argument that comes next, when it takes no braces: the next character, for an accent that is
    written with a sign, and for one that is written with a letter when a blank follows it. -/
def openArgument (name : List Char) (cs : List Char) : Option (List Char) × List Char :=
  let spaced := cs.head?.any isBlank
  let rest := cs.dropWhile isBlank
  if (name.all isSign || (spaced && (accentMark? name).isSome)) && rest.head? ≠ some '\x7b' then
    (some (rest.take 1), rest.drop 1)
  else (none, rest)

/-- The content that `cs` spells, where `depth` braces are open and `current` holds the characters
    of the piece so far, backwards. In a verbatim field commands and formulas mean nothing. -/
def readContent? (verbatim : Bool) :
    (fuel depth : Nat) → (current : List Char) → List Char → Option Content
  | 0, _, _, _ => none
  | fuel + 1, depth, current, cs =>
    let piece : Piece := ⟨if depth = 0 then .plain else .guarded, current.reverse⟩
    let write (text rest : List Char) : Option Content :=
      readContent? verbatim fuel depth (text.reverse ++ current) rest
    match cs with
    | [] => some [piece]
    | '\\' :: [] => if verbatim then write ['\\'] [] else none
    | '\\' :: d :: rest =>
      if isEscapable verbatim d then write [d] rest
      else if verbatim then write ['\\'] (d :: rest)
      else if d = '-' then write [] rest
      else if isBlank d || isControl d then write ['\\', d] (d :: rest)
      else do
        let (name, rest) ← commandName? (d :: rest)
        match rest with
        | '\x7b' :: rest => do
          let (argument, rest) ← upToMatching? 0 rest
          let argument ← readContent? verbatim fuel 0 [] argument
          write (expansion name (some (Content.written argument))) rest
        | rest =>
          let (argument, rest) := openArgument name rest
          write (expansion name argument) rest
    | '\x7b' :: rest => (readContent? verbatim fuel (depth + 1) [] rest).map (piece :: ·)
    | '\x7d' :: rest =>
      if depth = 0 then none else (readContent? verbatim fuel (depth - 1) [] rest).map (piece :: ·)
    | '-' :: '-' :: '-' :: rest => write ['—'] rest
    | '-' :: '-' :: rest => write ['–'] rest
    | c :: rest =>
      if isBlank c then write [' '] (rest.dropWhile isBlank)
      else if c = '$' && !verbatim then do
        let (formula, rest) ← readFormula? rest
        let content ← readContent? verbatim fuel depth [] rest
        some (piece :: ⟨.formula, formula⟩ :: content)
      else write [c] rest

/-- The fields in which commands mean nothing. -/
def verbatimFields : List String :=
  ["doi", "eprint", "file", "pdf", "uri", "url", "urlraw", "verba", "verbb", "verbc"]

/-- The content of a field. -/
def contentOf? (field : String) (cs : List Char) : Option Content :=
  readContent? (verbatimFields.contains field) (cs.length + 1) 0 [] cs

end Galley.Bibtex
