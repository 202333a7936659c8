import Galley.Text.Quoted

/-!
# What can go wrong

Every way in which a run can fail or a step can complain, by cause. The wording of a cause stands
in one place, `Failure.message`.
-/

namespace Galley

/-- The formats of structured input files. -/
inductive Format where
  | json
  | yaml
  deriving DecidableEq, Repr

/-- Why a file cannot be read or written. -/
inductive FileFault where
  | notFound
  | notDirectory
  | isDirectory
  | nameTooLong
  | notText
  /-- Any other fault, by its number and the system's words for it. -/
  | other (number : Nat) (reason : String)
  deriving DecidableEq, Repr

/-- Why a step cannot do its work. -/
inductive Failure where
  /-- The root of an HTML fragment is no tree node. -/
  | invalidFragment (html : String)
  /-- A citation placeholder holds no entry with a key. -/
  | missingKey (entry : String)
  /-- No caption is known for this table, counted from one. -/
  | missingCaption (table : Nat)
  /-- The bibliography has no reference under this key. -/
  | unknownReference (key : String)
  /-- The bibliography database is malformed. -/
  | malformedBibliography
  /-- A structured file is malformed. -/
  | malformed (format : Format)
  /-- A file cannot be read or written. -/
  | file (fault : FileFault)
  deriving DecidableEq, Repr

/-- The name of a format. -/
def Format.name : Format → String
  | .json => "JSON"
  | .yaml => "YAML"

/-- The wording of a file fault. -/
def FileFault.message : FileFault → String
  | .notFound => "No such file or directory (os error 2)"
  | .notDirectory => "Not a directory (os error 20)"
  | .isDirectory => "Is a directory (os error 21)"
  | .nameTooLong => "File name too long (os error 36)"
  | .notText => "stream did not contain valid UTF-8"
  | .other number reason => reason ++ " (os error " ++ toString number ++ ")"

/-- The wording of a failure. -/
def Failure.message : Failure → String
  | .invalidFragment html => "invalid HTML fragment: " ++ html
  | .missingKey entry => "could not find a BibTeX key in citation value " ++ Text.quoted entry
  | .missingCaption table => "could not find a caption for table " ++ toString table
  | .unknownReference key => "reference '" ++ key ++ "' not found in bibliography"
  | .malformedBibliography => "failed to parse bibliography"
  | .malformed format => "failed to parse " ++ format.name
  | .file fault => "IO error: " ++ fault.message

end Galley
