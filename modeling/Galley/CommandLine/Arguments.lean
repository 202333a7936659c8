/-!
# Arguments

A command line names a command and gives it arguments. Options are long, with their value behind
an equals sign or in the next argument, or short, with the value right behind the letter too. No
option that takes a value comes twice. Verbosity may be asked for anywhere.
-/

namespace Galley.CommandLine

/-- What a command line asks for. -/
inductive Command where
  /-- Cleans markup for the builder of trees. -/
  | clean (tex : String) (bib config output : Option String)
  /-- Prints the citations of markup. -/
  | citations (tex : String)
  /-- Finishes a tree that was built from markup. -/
  | process (tree tex : String) (bib abstract keywords doi funding config output : Option String)
  /-- Prints the name and the version of the program. -/
  | version
  deriving DecidableEq, Repr

/-- An option that takes a value. -/
structure OptionSpec where
  name : String
  /-- The letter of the short form. -/
  letter : Option Char
  /-- The value names a file, so it may not be empty. -/
  isPath : Bool

/-- The options of a command. -/
abbrev Specs := List OptionSpec

/-- An option that names a file. -/
def pathOption (name : String) : OptionSpec := ⟨name, none, true⟩

/-- The option that names the output file. -/
def outputOption : OptionSpec := ⟨"output", some 'o', true⟩

/-- The options of `clean`. -/
def cleanSpecs : Specs := [pathOption "bib", pathOption "config", outputOption]

/-- The options of `process`. -/
def processSpecs : Specs :=
  [pathOption "tex", pathOption "bib", pathOption "abstract", ⟨"keywords", none, false⟩,
    ⟨"doi", none, false⟩, pathOption "funding", pathOption "config", outputOption]

/-- What has been read of the arguments of a command. -/
structure Given where
  positional : List String
  options : List (String × String)
  deriving Repr, Inhabited

/-- The value of an option. -/
def Given.value? (g : Given) (name : String) : Option String :=
  g.options.lookup name

/-- The value of an option is added, unless it has one. -/
def Given.addOption? (g : Given) (spec : OptionSpec) (value : String) : Option Given :=
  if (g.value? spec.name).isSome || (spec.isPath && value.isEmpty) then none
  else some { g with options := g.options ++ [(spec.name, value)] }

/-- A positional argument is added. -/
def Given.addPositional (g : Given) (value : String) : Given :=
  { g with positional := g.positional ++ [value] }

/-! ## 1. One argument -/

/-- How an argument is written. -/
inductive Shape where
  /-- Two hyphens: only positional arguments follow. -/
  | stop
  /-- A long option, and the value behind its equals sign. -/
  | long (name : String) (value : Option String)
  /-- The letters behind one hyphen. -/
  | short (letters : List Char)
  | positional
  deriving DecidableEq, Repr

/-- How an argument is written. A hyphen alone is a value. -/
def shapeOf (arg : String) : Shape :=
  match arg.toList with
  | ['-', '-'] => .stop
  | '-' :: '-' :: cs =>
    let name := String.ofList (cs.takeWhile fun c => c != '=')
    match cs.dropWhile fun c => c != '=' with
    | [] => .long name none
    | _ :: value => .long name (some (String.ofList value))
  | ['-'] => .positional
  | '-' :: cs => .short cs
  | _ => .positional

/-- What the letters of a short argument say: nothing left, or an option and what stands behind
    its letter. -/
def readLetters? (specs : Specs) : List Char → Option (Option (OptionSpec × List Char))
  | [] => some none
  | c :: cs =>
    if c = 'v' then readLetters? specs cs
    else (specs.find? fun s => s.letter = some c).map fun spec => some (spec, cs)

/-- A value behind the letter of an option, with or without an equals sign. -/
def attachedValue : List Char → String
  | '=' :: cs => String.ofList cs
  | cs => String.ofList cs

/-! ## 2. All arguments -/

/-- The arguments of a command; nothing when they break the rules. -/
def readArguments? (specs : Specs) (g : Given) : List String → Option Given
  | [] => some g
  | arg :: args =>
    let valueNext (spec : OptionSpec) : Option Given :=
      match args with
      | [] => none
      | value :: rest =>
        if shapeOf value = .positional then
          (g.addOption? spec value).bind fun g => readArguments? specs g rest
        else none
    match shapeOf arg with
    | .stop => some (args.foldl Given.addPositional g)
    | .positional => readArguments? specs (g.addPositional arg) args
    | .long name value =>
      if name = "verbose" then if value.isSome then none else readArguments? specs g args
      else
        match specs.find? fun s => s.name = name, value with
        | none, _ => none
        | some spec, some value =>
          (g.addOption? spec value).bind fun g => readArguments? specs g args
        | some spec, none => valueNext spec
    | .short letters =>
      match readLetters? specs letters with
      | none => none
      | some none => readArguments? specs g args
      | some (some (spec, [])) => valueNext spec
      | some (some (spec, attached)) =>
        (g.addOption? spec (attachedValue attached)).bind fun g => readArguments? specs g args

/-- The one positional argument, which names a file. -/
def Given.file? (g : Given) : Option String :=
  match g.positional with
  | [file] => if file.isEmpty then none else some file
  | _ => none

/-- The command of the given name with its arguments. -/
def readCommand? (name : String) (args : List String) : Option Command :=
  match name with
  | "clean" => do
    let g ← readArguments? cleanSpecs ⟨[], []⟩ args
    some (.clean (← g.file?) (g.value? "bib") (g.value? "config") (g.value? "output"))
  | "citations" => do
    let g ← readArguments? [] ⟨[], []⟩ args
    some (.citations (← g.file?))
  | "process" => do
    let g ← readArguments? processSpecs ⟨[], []⟩ args
    some (.process (← g.file?) (← g.value? "tex") (g.value? "bib") (g.value? "abstract")
      (g.value? "keywords") (g.value? "doi") (g.value? "funding") (g.value? "config")
      (g.value? "output"))
  | _ => none

/-- The command that a command line gives, behind any wishes for verbosity. Asking for the version
    is a command of its own, whatever follows. -/
def Command.ofArguments? : List String → Option Command
  | [] => none
  | arg :: args =>
    match shapeOf arg with
    | .positional => readCommand? arg args
    | .long "verbose" none => Command.ofArguments? args
    | .long "version" none => some .version
    | .short letters =>
      match letters.dropWhile fun c => c = 'v' with
      | [] => Command.ofArguments? args
      | c :: _ => if c = 'V' then some .version else none
    | _ => none

end Galley.CommandLine
