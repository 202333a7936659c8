import Galley.Dict
import Galley.Failure

/-!
# Files

The files below a directory, by their paths. Directories are there as far as files stand in them.
-/

namespace Galley

/-- What reads the file at a path. -/
abbrev FileReader := String → Except FileFault ByteArray

/-- Files by their paths. -/
abbrev Files := Dict ByteArray

namespace Files

/-! ## 1. Paths -/

/-- The steps of a path. -/
def steps (path : String) : List String :=
  ((path.toList.splitOnP fun c => c = '/').map String.ofList).filter fun s => s != ""

/-- The path with the given steps. -/
def ofSteps (steps : List String) : String :=
  "/".intercalate steps

/-- The path in its simplest form, without steps that stay where they are. -/
def normal (path : String) : String :=
  ofSteps ((steps path).filter fun s => s != ".")

/-- The path ends with a slash, so it has to name a directory. -/
def endsInSlash (path : String) : Bool :=
  path.endsWith "/"

/-- The paths of the directories that a path goes through. -/
def ancestors (path : String) : List String :=
  (List.range ((steps path).length - 1)).map fun n => ofSteps ((steps path).take (n + 1))

/-- The path in its simplest form is that of a directory. -/
def isDirectory (fs : Files) (path : String) : Bool :=
  path.isEmpty || fs.keys.any fun name => (ancestors name).contains path

/-! ## 2. Places -/

/-- The bytes that a step may take. -/
def maxStepSize : Nat := 255

/-- The bytes that a path may take. -/
def maxPathSize : Nat := 4095

/-- What a path leads to. -/
inductive Place where
  | directory
  | file (path : String) (bytes : ByteArray)
  /-- Nothing, in a directory that is there. -/
  | free (path : String)

/-- What the given steps lead to from the directory `here`. -/
def walk (fs : Files) (here : List String) : List String → Except FileFault Place
  | [] => .ok .directory
  | s :: rest =>
    if maxStepSize < s.utf8ByteSize then .error .nameTooLong
    else if s = "." then walk fs here rest
    else if s = ".." then walk fs here.dropLast rest
    else
      let there := here ++ [s]
      let path := ofSteps there
      if fs.isDirectory path then walk fs there rest
      else match fs.get? path, rest with
        | some bytes, [] => .ok (.file path bytes)
        | some _, _ => .error .notDirectory
        | none, [] => .ok (.free path)
        | none, _ => .error .notFound

/-- What a path leads to. -/
def place (fs : Files) (path : String) : Except FileFault Place :=
  if path.isEmpty then .error .notFound
  else if maxPathSize < path.utf8ByteSize then .error .nameTooLong
  else walk fs [] (steps path)

/-! ## 3. Reading and writing -/

/-- The content of the file at a path. -/
def read (fs : Files) : FileReader := fun path => do
  match ← fs.place path with
  | .directory => .error .isDirectory
  | .file _ bytes => if endsInSlash path then .error .notDirectory else .ok bytes
  | .free _ => .error .notFound

/-- The files with one more, or with one changed. -/
def write (fs : Files) (path : String) (bytes : ByteArray) : Except FileFault Files := do
  match ← fs.place path with
  | .directory => .error .isDirectory
  | .file there _ | .free there =>
    if endsInSlash path then .error .isDirectory else .ok (fs.insert there bytes)

end Files

end Galley
