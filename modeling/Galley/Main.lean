import Galley.CommandLine.Run

/-!
# The program

Reads the files that a command line names, lets the command make its text of them, and prints the
text or writes it into a file. Warnings and the failure go to the error output.
-/

namespace Galley.CommandLine

/-- The fault that an error of the file system reports. -/
def faultOf : IO.Error → FileFault
  | .noFileOrDirectory _ _ _ => .notFound
  | .inappropriateType _ code reason =>
    if code = 20 then .notDirectory
    else if code = 21 then .isDirectory
    else .other code.toNat reason
  | .invalidArgument _ 36 _ => .nameTooLong
  | .permissionDenied _ code reason | .alreadyExists _ code reason
  | .invalidArgument _ code reason | .resourceExhausted _ code reason
  | .noSuchThing _ code reason | .interrupted _ code reason
  | .otherError code reason | .resourceBusy code reason | .resourceVanished code reason
  | .unsupportedOperation code reason | .hardwareFault code reason
  | .unsatisfiedConstraints code reason | .illegalOperation code reason
  | .protocolError code reason | .timeExpired code reason => .other code.toNat reason
  | .unexpectedEof => .notText
  | .userError reason => .other 0 reason

/-- What reading a file gives. -/
def readFile (path : String) : IO (Except FileFault ByteArray) := do
  try
    return .ok (← IO.FS.readBinFile path)
  catch e =>
    return .error (faultOf e)

/-- The reader of the files that a command names, all read beforehand. -/
def readInputs (c : Command) : IO FileReader := do
  let contents ← c.inputs.mapM fun path => do
    let content ← readFile path
    return (path, content)
  return fun path => (contents.lookup path).getD (.error .notFound)

/-- Ends a run that has failed. -/
def fail (cause : Failure) : IO UInt32 := do
  IO.eprintln ("Error: " ++ cause.message)
  return 1

/-- Prints a text or writes it into the file named for it. -/
def put (output : Option String) (text : String) : IO UInt32 := do
  match output with
  | none =>
    IO.println text
    return 0
  | some path =>
    try
      IO.FS.writeBinFile path text.toUTF8
      return 0
    catch e =>
      fail (.file (faultOf e))

/-- Carries out a command. -/
def carryOut (c : Command) : IO UInt32 := do
  let read ← readInputs c
  match c.text read with
  | .ok text =>
    for warning in text.warnings do
      IO.eprintln ("warning: " ++ warning.message)
    put c.output? text.value
  | .error cause => fail cause

/-- The command lines that the program takes. -/
def usage : String :=
  "usage: pubtex clean TEX [--bib FILE] [--config FILE] [-o FILE]\n" ++
  "       pubtex citations TEX\n" ++
  "       pubtex process TREE --tex FILE [--bib FILE] [--abstract FILE] [--keywords TEXT]\n" ++
  "                      [--doi TEXT] [--funding FILE] [--config FILE] [-o FILE]"

/-- Carries out the command of a command line. One that gives none ends with code 2. -/
def execute (args : List String) : IO UInt32 := do
  match Command.ofArguments? args with
  | some c => carryOut c
  | none =>
    IO.eprintln usage
    return 2

end Galley.CommandLine

def main (args : List String) : IO UInt32 :=
  Galley.CommandLine.execute args
