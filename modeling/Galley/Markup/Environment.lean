import Galley.Config.Basic
import Galley.Text.Scan

/-!
# Environments

An environment stands between the commands `\\begin` and `\\end` with its name in braces. Before
markup becomes a tree, some environments are taken out of their frame, some are moved to the top
of the body as sections, and some lose their star. A database may be embedded in an environment of
its own.
-/

namespace Galley.Markup

open Galley.Text

/-- The command that begins an environment. -/
def beginCommand (name : List Char) : List Char :=
  "\\begin\x7b".toList ++ name ++ ['\x7d']

/-- The command that ends an environment. -/
def endCommand (name : List Char) : List Char :=
  "\\end\x7b".toList ++ name ++ ['\x7d']

/-! ## 1. The embedded database -/

/-- What follows one of two words, the first of which that comes next. -/
def afterEither? (a b cs : List Char) : Option (List Char) :=
  match after? a cs with
  | some rest => some rest
  | none => after? b cs

/-- The name of the environment that holds a file. -/
def fileContents : List Char := "filecontents".toList

/-- The name of the environment that replaces a file. -/
def starredFileContents : List Char := "filecontents*".toList

/-- What follows the head of a file environment, which comes next: its begin command, an optional
    argument in brackets and the name of the file in braces. -/
def fileHead? (cs : List Char) : Option (List Char) :=
  (afterEither? (beginCommand fileContents) (beginCommand starredFileContents) cs).bind fun rest =>
    let rest := match between? '[' ']' rest with
      | some p => p.2
      | none => rest
    (between? '\x7b' '\x7d' rest).map Prod.snd

/-- The end of a file environment comes next. -/
def fileEnds (cs : List Char) : Bool :=
  startsWith (endCommand fileContents) cs || startsWith (endCommand starredFileContents) cs

/-- The content of the file environment that comes next. -/
def fileBody? (cs : List Char) : Option (List Char) :=
  (fileHead? cs).bind fun rest =>
    let inside := breakBefore fileEnds rest
    if inside.2.isEmpty then none else some inside.1

/-- The content of the first file environment that is complete. -/
def embeddedBibliography? : List Char → Option (List Char)
  | [] => none
  | c :: cs =>
    match fileBody? (c :: cs) with
    | some body => some body
    | none => embeddedBibliography? cs

/-! ## 2. Unwrapping -/

/-- The rule that erases the commands around an environment. -/
def eraseFrame (name : List Char) : Rule :=
  (Rule.word (beginCommand name) []).orElse (Rule.word (endCommand name) [])

/-- A text without the commands around the named environment. -/
def unwrap (cs : List Char) (name : String) : List Char :=
  replaceAll (eraseFrame name.toList) cs

/-! ## 3. Hoisting -/

/-- A section command with the blank line behind it. -/
def sectionCommand (title : String) : List Char :=
  "\\section\x7b".toList ++ title.toList ++ "\x7d\n\n".toList

/-- How the body of a document begins. -/
def documentBegin : List Char := "\\begin\x7bdocument\x7d\n".toList

/-- The places between which a section is moved: the text before the body, the body before the
    environment, what the environment holds, and the text behind it. -/
structure Hoistable where
  front : List Char
  passed : List Char
  content : List Char
  back : List Char
  deriving DecidableEq, Repr

/-- What an environment holds, whose begin command comes next, up to the first end command behind
    it, and the text behind that. -/
def environmentAhead? (name cs : List Char) : Option (List Char × List Char) :=
  (after? (beginCommand name) cs).bind (cut? (endCommand name))

/-- A body that begins here and has an environment of the given name: the text up to the
    environment, what it holds, and the text behind it. -/
def bodyAhead? (name cs : List Char) : Option (List Char × List Char × List Char) :=
  (after? documentBegin cs).bind (lazily? (environmentAhead? name))

/-- The place of a section, with as little text as there can be before the body, and then before
    the environment. Where no environment follows, a later begin of the body is tried. -/
def Hoistable.find? (name cs : List Char) : Option Hoistable :=
  (lazily? (bodyAhead? name) cs).map fun (front, passed, content, back) =>
    ⟨front, passed, content, back⟩

/-- The text with the environment as a section at the top of the body. -/
def Hoistable.hoisted (h : Hoistable) (s : HoistedSection) : List Char :=
  h.front ++ documentBegin ++ sectionCommand s.title ++ h.content ++ "\n\n".toList ++
    (match s.introduction with
      | some title => sectionCommand title
      | none => []) ++
    h.passed ++ h.back

/-- Moves the first environment that a section is made from to the top of the body. -/
def hoist (cs : List Char) (s : HoistedSection) : List Char :=
  match Hoistable.find? s.environment.toList cs with
  | some h => h.hoisted s
  | none => cs

/-! ## 4. Unstarring -/

/-- The rule that drops the star behind one of the given names. -/
def dropStar (names : List (List Char)) : Rule := fun cs =>
  names.findSome? fun name => (after? (name ++ ['*']) cs).map fun rest => (name, rest)

/-- A text without the stars behind the given names. -/
def unstar (names : List String) (cs : List Char) : List Char :=
  replaceAll (dropStar (names.map String.toList)) cs

theorem unstar_nil (cs : List Char) : unstar [] cs = cs :=
  replaceAll_eq_self fun _ _ => rfl

/-! ## 5. All three -/

/-- Unwraps, hoists and unstars, in this order. -/
def restructure (config : PrecleanConfig) (cs : List Char) : List Char :=
  unstar config.unstarEnvironments <|
    config.hoistedSections.foldl hoist <|
      config.unwrapEnvironments.foldl unwrap cs

end Galley.Markup
