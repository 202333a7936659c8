import Galley.Bibtex.Reference
import Galley.Config.Reading
import Galley.Files.Basic
import Galley.Json.Reader
import Galley.Text.Utf8
import Galley.Tree.Json
import Galley.Yaml.Value

/-!
# Loading files

Texts, bibliographies, trees, configurations and funding metadata are read from files. A
configuration is JSON when its file is named so, and YAML otherwise.
-/

namespace Galley.Files

/-- The bytes of a file. -/
def loadBytes (read : FileReader) (path : String) : Except Failure ByteArray :=
  (read path).mapError .file

/-- The text of a file, which has to be UTF-8. -/
def loadText (read : FileReader) (path : String) : Except Failure String := do
  let bytes ← loadBytes read path
  match Text.decode? bytes with
  | some s => .ok s
  | none => .error (.file .notText)

/-- The bibliography in a file. -/
def loadBibliography (read : FileReader) (path : String) : Except Failure Bibliography := do
  Bibtex.bibliography (← loadText read path)

/-- What `read?` finds in the JSON value of a file. -/
def loadJson {α : Type} (read : FileReader) (read? : Json → Option α) (path : String) :
    Except Failure α := do
  let bytes ← loadBytes read path
  match (Json.parseBytes? bytes).bind read? with
  | some a => .ok a
  | none => .error (.malformed .json)

/-- The tree in a file. The fields of all objects in it are sorted. -/
def loadTree (read : FileReader) (path : String) : Except Failure Fragment :=
  loadJson read (fun v => Fragment.ofJson? v.canonical) path

/-- The funding metadata in a file. -/
def loadFunding (read : FileReader) (path : String) : Except Failure Attrs :=
  loadJson read attrsOfJson? path

/-- The part of a file's name behind its last point, unless the name begins with that point. -/
def extension? (path : String) : Option String :=
  let name := ((steps (normal path)).getLast?.getD "").toList
  match Text.cutLast? ['.'] name with
  | some ([], _) | none => none
  | some (_, ending) => some (String.ofList ending)

/-- The configuration in a file. -/
def loadConfig (read : FileReader) (path : String) : Except Failure Config :=
  if extension? path = some "json" then loadJson read Config.read? path
  else do
    let bytes ← loadBytes read path
    match (Yaml.parse? (Text.decodeLenient bytes)).bind Config.read? with
    | some config => .ok config
    | none => .error (.malformed .yaml)

end Galley.Files
