import Galley.Html.Character

/-!
# Document types

A document type names the rules that a document follows. The old layout rules are asked for by the
types of old documents, and by every type that is malformed.
-/

namespace Galley.Html

open Galley.Text

/-! ## 1. Identifiers -/

/-- How the public identifiers begin that ask for the old layout rules. -/
def oldPublicIds : List String := [
  "+//silmaril//dtd html pro v0r11 19970101//",
  "-//advasoft ltd//dtd html 3.0 aswedit + extensions//",
  "-//as//dtd html 3.0 aswedit + extensions//", "-//ietf//dtd html 2.0 level 1//",
  "-//ietf//dtd html 2.0 level 2//", "-//ietf//dtd html 2.0 strict level 1//",
  "-//ietf//dtd html 2.0 strict level 2//", "-//ietf//dtd html 2.0 strict//",
  "-//ietf//dtd html 2.0//", "-//ietf//dtd html 2.1e//", "-//ietf//dtd html 3.0//",
  "-//ietf//dtd html 3.2 final//", "-//ietf//dtd html 3.2//", "-//ietf//dtd html 3//",
  "-//ietf//dtd html level 0//", "-//ietf//dtd html level 1//", "-//ietf//dtd html level 2//",
  "-//ietf//dtd html level 3//", "-//ietf//dtd html strict level 0//",
  "-//ietf//dtd html strict level 1//", "-//ietf//dtd html strict level 2//",
  "-//ietf//dtd html strict level 3//", "-//ietf//dtd html strict//", "-//ietf//dtd html//",
  "-//metrius//dtd metrius presentational//",
  "-//microsoft//dtd internet explorer 2.0 html strict//",
  "-//microsoft//dtd internet explorer 2.0 html//",
  "-//microsoft//dtd internet explorer 2.0 tables//",
  "-//microsoft//dtd internet explorer 3.0 html strict//",
  "-//microsoft//dtd internet explorer 3.0 html//",
  "-//microsoft//dtd internet explorer 3.0 tables//", "-//netscape comm. corp.//dtd html//",
  "-//netscape comm. corp.//dtd strict html//", "-//o'reilly and associates//dtd html 2.0//",
  "-//o'reilly and associates//dtd html extended 1.0//",
  "-//o'reilly and associates//dtd html extended relaxed 1.0//",
  "-//softquad software//dtd hotmetal pro 6.0::19990601::extensions to html 4.0//",
  "-//softquad//dtd hotmetal pro 4.0::19971010::extensions to html 4.0//",
  "-//spyglass//dtd html 2.0 extended//", "-//sq//dtd html 2.0 hotmetal + extensions//",
  "-//sun microsystems corp.//dtd hotjava html//",
  "-//sun microsystems corp.//dtd hotjava strict html//", "-//w3c//dtd html 3 1995-03-24//",
  "-//w3c//dtd html 3.2 draft//", "-//w3c//dtd html 3.2 final//", "-//w3c//dtd html 3.2//",
  "-//w3c//dtd html 3.2s draft//", "-//w3c//dtd html 4.0 frameset//",
  "-//w3c//dtd html 4.0 transitional//", "-//w3c//dtd html experimental 19960712//",
  "-//w3c//dtd html experimental 970421//", "-//w3c//dtd w3 html//", "-//w3o//dtd w3 html 3.0//",
  "-//webtechs//dtd mozilla html 2.0//", "-//webtechs//dtd mozilla html//"]

/-- How the public identifiers begin that ask for them unless there is a system identifier. -/
def oldLonePublicIds : List String :=
  ["-//w3c//dtd html 4.01 frameset//", "-//w3c//dtd html 4.01 transitional//"]

/-- The public identifiers that ask for them when they are nothing but this. -/
def oldWholePublicIds : List String :=
  ["-//w3o//dtd w3 html strict 3.0//en//", "-/w3c/dtd html 4.0 transitional/en", "html"]

/-- The system identifier that asks for them. -/
def oldSystemId : String := "http://www.ibm.com/data/dtd/v11/ibmxhtml1-transitional.dtd"

/-- The identifiers of a well-formed document type ask for the old layout rules. -/
def areOldIds (publicId systemId : Option String) : Bool :=
  let begins (ids : List String) : Bool :=
    publicId.any fun publicId => ids.any fun id => publicId.startsWith id
  publicId.any oldWholePublicIds.contains || systemId = some oldSystemId || begins oldPublicIds ||
    (systemId.isNone && begins oldLonePublicIds)

/-! ## 2. Reading -/

/-- The quoted text that comes next, and what follows. -/
def readQuoted? (cs : List Char) : Option (String × List Char) :=
  match skipSpace cs with
  | [] => none
  | c :: cs => if c = '"' || c = '\'' then (cut? [c] cs).map fun p => (foldName p.1, p.2) else none

/-- The identifiers that stand behind the name of a document type; nothing when they are
    malformed. -/
def readIds? (cs : List Char) : Option (Option String × Option String) :=
  let cs := skipSpace cs
  let keyword := foldName (cs.take 6)
  if cs.isEmpty then some (none, none)
  else if keyword = "public" then do
    let (publicId, rest) ← readQuoted? (cs.drop 6)
    if (skipSpace rest).isEmpty then some (some publicId, none)
    else do
      let (systemId, _) ← readQuoted? rest
      some (some publicId, some systemId)
  else if keyword = "system" then do
    let (systemId, _) ← readQuoted? (cs.drop 6)
    some (none, some systemId)
  else none

/-- A document type, by what it says up to its closing bracket, asks for the old layout rules. -/
def isOldDoctype (body : List Char) : Bool :=
  let cs := skipSpace body
  let isOfName := fun c => !isSpace c
  foldName (cs.takeWhile isOfName) ≠ "html" ||
    match readIds? (cs.dropWhile isOfName) with
    | none => true
    | some (publicId, systemId) => areOldIds publicId systemId

end Galley.Html
