import Galley.Html.Doctype

/-!
# HTML tokens

A text falls apart into tags, runs of text, comments and document types. How text is read depends
on the element that it stands in; the reader is told by a `TextMode`.
-/

namespace Galley.Html

open Galley.Text

/-- A start tag. -/
structure Tag where
  name : String
  attrs : List (String × String)
  selfClosing : Bool
  deriving Repr, Inhabited

/-- A token. A run of text is all blank or has no blanks. -/
inductive Token where
  | start (tag : Tag)
  | stop (name : String)
  | text (cs : List Char)
  | null
  | comment
  /-- A document type, and whether it asks for the old layout rules. -/
  | doctype (old : Bool)
  | finish
  deriving Repr, Inhabited

/-- How text is read. -/
inductive TextMode where
  /-- Tags, references and text. -/
  | data
  /-- Text and references up to the end tag of the named element. -/
  | escapable (name : String)
  /-- Text up to the end tag of the named element. -/
  | raw (name : String)
  /-- The text of a script. -/
  | script
  /-- Nothing but text. -/
  | plaintext
  deriving DecidableEq, Repr, Inhabited

/-! ## 1. Attributes -/

/-- The name of an attribute, of which the first character may be anything, and what follows. -/
def readAttributeName (c : Char) (cs : List Char) : String × List Char :=
  let goesOn := fun c => !(isSpace c || c = '/' || c = '>' || c = '=')
  (foldName (c :: cs.takeWhile goesOn), cs.dropWhile goesOn)

/-- The value behind an equals sign, and what follows; nothing when the text ends in it. -/
def readAttributeValue? (cs : List Char) : Option (String × List Char) :=
  let value := fun raw : List Char => String.ofList (attributeValue (raw.length + 1) raw)
  match skipSpace cs with
  | [] => none
  | c :: cs =>
    if c = '"' || c = '\'' then (cut? [c] cs).map fun p => (value p.1, p.2)
    else if c = '>' then some ("", c :: cs)
    else
      let goesOn := fun c => !(isSpace c || c = '>')
      some (value ((c :: cs).takeWhile goesOn), (c :: cs).dropWhile goesOn)

/-- Attributes with one more, unless its name is there. -/
def addAttribute (attrs : List (String × String)) (name value : String) : List (String × String) :=
  if (attrs.lookup name).isSome then attrs else attrs ++ [(name, value)]

/-- The attributes up to the end of a tag, behind the attributes `done`, whether the tag closes
    itself, and what follows; nothing when the text ends in the tag. -/
def readAttributes? : (fuel : Nat) → (done : List (String × String)) → List Char →
    Option (List (String × String) × Bool × List Char)
  | 0, _, _ => none
  | fuel + 1, done, cs =>
    match skipSpace cs with
    | [] => none
    | c :: cs =>
      if c = '>' then some (done, false, cs)
      else if c = '/' then
        if cs.head? = some '>' then some (done, true, cs.drop 1)
        else readAttributes? fuel done cs
      else
        let (name, cs) := readAttributeName c cs
        match after? ['='] (skipSpace cs) with
        | some cs => do
          let (value, cs) ← readAttributeValue? cs
          readAttributes? fuel (addAttribute done name value) cs
        | none => readAttributes? fuel (addAttribute done name "") cs

/-- The name of a tag and its attributes, from its first letter on, and what follows. -/
def readTag? (cs : List Char) : Option (Tag × List Char) := do
  let goesOn := fun c => !(isSpace c || c = '/' || c = '>')
  let name := foldName (cs.takeWhile goesOn)
  let (attrs, selfClosing, rest) ← readAttributes? (cs.length + 1) [] (cs.dropWhile goesOn)
  some (⟨name, attrs, selfClosing⟩, rest)

/-! ## 2. Comments and declarations -/

/-- What follows a comment, from behind its opening on. -/
def afterComment (cs : List Char) : List Char :=
  match after? ['>'] cs, after? ['-', '>'] cs with
  | some rest, _ => rest
  | none, some rest => rest
  | none, none =>
    let ends := fun cs => startsWith ['-', '-', '>'] cs || startsWith ['-', '-', '!', '>'] cs
    ((breakBefore ends cs).2.dropWhile fun c => c != '>').drop 1

/-- What follows a malformed piece of markup, which runs up to the next closing bracket. -/
def afterBogus (cs : List Char) : List Char :=
  (cs.dropWhile fun c => c != '>').drop 1

/-- What stands behind an exclamation mark. A section of character data is text where `inForeign`
    holds. -/
def readDeclaration (inForeign : Bool) (cs : List Char) : Token × List Char :=
  match after? ['-', '-'] cs with
  | some rest => (.comment, afterComment rest)
  | none =>
    if foldName (cs.take 7) = "doctype" then
      let body := (cs.drop 7).takeWhile fun c => c != '>'
      (.doctype (isOldDoctype body), afterBogus (cs.drop 7))
    else
      match if inForeign then after? "[CDATA[".toList cs else none with
      | some rest =>
        match cut? [']', ']', '>'] rest with
        | some (text, rest) => (.text text, rest)
        | none => (.text rest, [])
      | none => (.comment, afterBogus cs)

/-! ## 3. Tokens -/

/-- The run of text that comes next, up to a character that `isMark` stops at, and what follows. A
    run is all blank or has no blanks. -/
def readRun (isMark : Char → Bool) (c : Char) (cs : List Char) : Token × List Char :=
  let goesOn := fun d => !isMark d && (isSpace d == isSpace c)
  (.text (c :: cs.takeWhile goesOn), cs.dropWhile goesOn)

/-- The token behind an opening bracket, and what follows. A tag in which the text ends gives no
    token. -/
def readMarkup (inForeign : Bool) (cs : List Char) : Option Token × List Char :=
  match cs with
  | [] => (some (.text ['<']), [])
  | c :: rest =>
    if c.isAlpha then
      match readTag? cs with
      | some (tag, rest) => (some (.start tag), rest)
      | none => (none, [])
    else if c = '!' then
      let (token, rest) := readDeclaration inForeign rest
      (some token, rest)
    else if c = '?' then (some .comment, afterBogus cs)
    else if c = '/' then
      match rest with
      | [] => (some (.text ['<', '/']), [])
      | d :: _ =>
        if d.isAlpha then
          match readTag? rest with
          | some (tag, rest) => (some (.stop tag.name), rest)
          | none => (none, [])
        else if d = '>' then (none, rest.drop 1)
        else (some .comment, afterBogus rest)
    else (some (.text ['<']), cs)

/-- What follows the end tag of the named element, when that comes next. -/
def afterEndTag? (name : String) (cs : List Char) : Option (List Char) :=
  match after? ['<', '/'] cs with
  | none => none
  | some rest =>
    let behind := rest.drop name.length
    if foldName (rest.take name.length) = name &&
        behind.head?.any fun c => isSpace c || c = '/' || c = '>' then
      some ((readTag? rest).map Prod.snd |>.getD [])
    else none

/-- The next token of the text inside the named element, and what follows. -/
def readInside (references : Bool) (name : String) (c : Char) (cs : List Char) :
    Option Token × List Char :=
  if c = '<' then
    match afterEndTag? name (c :: cs) with
    | some rest => (some (.stop name), rest)
    | none => (some (.text [c]), cs)
  else if c = '&' && references then
    match readReference? false cs with
    | some (chars, rest) => (some (.text chars), rest)
    | none => (some (.text [c]), cs)
  else if c = '\x00' then (some (.text [replacement]), cs)
  else
    let (token, rest) := readRun (fun d => d = '<' || d = '&' || d = '\x00') c cs
    (some token, rest)

/-! ## 4. Scripts -/

/-- How far the text of a script is inside a comment: not at all, in it, or in a script that stands
    in the comment. Two hyphens behind each other and a bracket end the comment. -/
inductive ScriptDepth where
  | outside
  | inComment (hyphens : Nat)
  | inNested (hyphens : Nat)
  deriving DecidableEq, Repr, Inhabited

/-- The word "script" comes next, and behind it a character that ends a name. -/
def scriptAhead (cs : List Char) : Bool :=
  foldName (cs.take 6) = "script" &&
    (cs.drop 6).head?.any fun c => isSpace c || c = '/' || c = '>'

/-- The depth behind the character `c`, which `cs` follows. -/
def ScriptDepth.step (depth : ScriptDepth) (c : Char) (cs : List Char) : ScriptDepth :=
  match depth with
  | .outside => if c = '<' && startsWith ['!', '-', '-'] cs then .inComment 0 else .outside
  | .inComment hyphens =>
    if c = '-' then .inComment (min 2 (hyphens + 1))
    else if c = '>' && hyphens = 2 then .outside
    else if c = '<' && scriptAhead cs then .inNested 0
    else .inComment 0
  | .inNested hyphens =>
    if c = '-' then .inNested (min 2 (hyphens + 1))
    else if c = '>' && hyphens = 2 then .outside
    else if c = '<' && cs.head? = some '/' && scriptAhead (cs.drop 1) then .inComment 0
    else .inNested 0

/-- The end tag of a script closes it. -/
def ScriptDepth.isClosable : ScriptDepth → Bool
  | .inNested _ => false
  | _ => true

/-- The text of a script up to its end tag, and the rest from there on. -/
def scriptText (depth : ScriptDepth) : List Char → List Char × List Char
  | [] => ([], [])
  | c :: cs =>
    if depth.isClosable && (afterEndTag? "script" (c :: cs)).isSome then ([], c :: cs)
    else
      let (text, rest) := scriptText (depth.step c cs) cs
      ((if c = '\x00' then replacement else c) :: text, rest)

/-- The next token of a script, and what follows. -/
def readScript (cs : List Char) : Option Token × List Char :=
  match afterEndTag? "script" cs with
  | some rest => (some (.stop "script"), rest)
  | none =>
    let (text, rest) := scriptText .outside cs
    (some (.text text), rest)

/-! ## 5. All tokens -/

/-- The next token, and what follows. -/
def readToken (mode : TextMode) (inForeign : Bool) (c : Char) (cs : List Char) :
    Option Token × List Char :=
  match mode with
  | .escapable name => readInside true name c cs
  | .raw name => readInside false name c cs
  | .script => readScript (c :: cs)
  | .plaintext => (some (.text [if c = '\x00' then replacement else c]), cs)
  | .data =>
    if c = '<' then readMarkup inForeign cs
    else if c = '&' then
      match readReference? false cs with
      | some (chars, rest) => (some (.text chars), rest)
      | none => (some (.text [c]), cs)
    else if c = '\x00' then (some .null, cs)
    else
      let (token, rest) := readRun (fun d => d = '<' || d = '&' || d = '\x00') c cs
      (some token, rest)

end Galley.Html
