import Galley.CommandLine.Arguments
import Galley.Citation.Json
import Galley.Files.Loading
import Galley.Finish.Manuscript
import Galley.Json.Writer
import Galley.Markup.Clean
import Galley.Style.AuthorDate

/-!
# Commands

A command reads files and gives a text, which is printed or written into one file. Nothing is
written unless everything before has gone well.
-/

namespace Galley.CommandLine

open Galley.Files

/-! ## 1. The text that a command gives -/

/-- The configuration in a file, or else the default one. -/
def configOrDefault (read : FileReader) : Option String → Except Failure Config
  | some path => loadConfig read path
  | none => .ok {}

/-- What is loaded from a file, if there is one. -/
def loadOptional {α : Type} (load : String → Except Failure α) :
    Option String → Except Failure (Option α)
  | some path => (load path).map some
  | none => .ok none

/-- The clean form of markup. -/
def cleanText (read : FileReader) (tex : String) (bib config : Option String) :
    Except Failure (Logged String) := do
  let config ← configOrDefault read config
  let markup ← loadText read tex
  let bibliography ← loadOptional (loadBibliography read) bib
  Markup.clean config AuthorDate.formatter bibliography markup

/-- The citations of markup. -/
def citationsText (read : FileReader) (tex : String) : Except Failure (Logged String) := do
  let markup ← loadText read tex
  let occurrences := Markup.citations markup.toList
  .ok (pure (Json.pretty (.array (occurrences.map Occurrence.toJson))))

/-- The finished form of a tree. -/
def processText (read : FileReader) (tree tex : String)
    (bib abstract keywords doi funding config : Option String) :
    Except Failure (Logged String) := do
  let config ← configOrDefault read config
  let doc ← loadTree read tree
  let manuscript : Manuscript := {
    tex := ← loadText read tex
    bibliography := ← loadOptional (loadBibliography read) bib
    abstract := ← loadOptional (loadText read) abstract
    keywords := keywords
    doi := doi
    funding := ← loadOptional (loadFunding read) funding }
  let finished ← manuscript.finish config AuthorDate.formatter doc
  .ok do
    let finished ← finished
    pure (Json.pretty finished.toJson)

/-- The name and the version of the program. -/
def versionText : String := "pubtex 0.1.0"

/-- The text that a command gives. -/
def Command.text (read : FileReader) : Command → Except Failure (Logged String)
  | .clean tex bib config _ => cleanText read tex bib config
  | .citations tex => citationsText read tex
  | .process tree tex bib abstract keywords doi funding config _ =>
    processText read tree tex bib abstract keywords doi funding config
  | .version => .ok (pure versionText)

/-- The file that a command writes. -/
def Command.output? : Command → Option String
  | .clean _ _ _ output => output
  | .citations _ => none
  | .process _ _ _ _ _ _ _ _ output => output
  | .version => none

/-- The files that a command reads. -/
def Command.inputs : Command → List String
  | .clean tex bib config _ => [tex] ++ bib.toList ++ config.toList
  | .citations tex => [tex]
  | .process tree tex bib abstract _ _ funding config _ =>
    [tree, tex] ++ bib.toList ++ abstract.toList ++ funding.toList ++ config.toList
  | .version => []

/-! ## 2. Runs -/

/-- How a run ends. -/
structure Outcome where
  code : Nat
  stdout : String
  /-- What went wrong. -/
  error : Option Failure
  files : Files

/-- A run that fails and leaves the files as they are. -/
def Outcome.failed (fs : Files) (cause : Failure) : Outcome :=
  ⟨1, "", some cause, fs⟩

/-- The end of a run that gives a text. -/
def deliver (fs : Files) (output : Option String) (text : String) : Outcome :=
  match output with
  | none => ⟨0, text ++ "\n", none, fs⟩
  | some path =>
    match fs.write path text.toUTF8 with
    | .ok fs => ⟨0, "", none, fs⟩
    | .error fault => .failed fs (.file fault)

/-- A run of a command. -/
def Command.run (fs : Files) (c : Command) : Outcome :=
  match c.text fs.read with
  | .ok text => deliver fs c.output? text.value
  | .error cause => .failed fs cause

/-- A run of a command line. One that gives no command ends with code 2. -/
def run (fs : Files) (args : List String) : Outcome :=
  match Command.ofArguments? args with
  | some c => c.run fs
  | none => ⟨2, "", none, fs⟩

end Galley.CommandLine
