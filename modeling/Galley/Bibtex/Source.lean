import Galley.Bibtex.Command
import Galley.Text.Lowercase
import Galley.Text.Scan

/-!
# The notation of a database

A database is a sequence of items, each behind an at sign: entries with a key and fields,
abbreviations, a preamble, and comments. What stands between items is passed over, and so is a
remark, which a percent sign opens and the end of its line closes. A value is put together from
texts in braces or quotes, numerals and abbreviations.
-/

namespace Galley.Bibtex

open Galley.Text

/-- A part of a value. -/
inductive ValuePart where
  | text (cs : List Char)
  | abbreviation (name : String)
  deriving DecidableEq, Repr, Inhabited

/-- A field as it is written. -/
structure Field where
  name : String
  value : List ValuePart
  deriving DecidableEq, Repr, Inhabited

/-- An entry as it is written. -/
structure Entry where
  kind : String
  key : String
  fields : List Field
  deriving DecidableEq, Repr, Inhabited

/-- An item of a database. -/
inductive Item where
  | entry (e : Entry)
  | abbreviations (fields : List Field)
  | remark
  deriving DecidableEq, Repr, Inhabited

/-! ## 1. Remarks -/

/-- A character that ends a line. -/
def endsLine (c : Char) : Bool :=
  (10 ≤ c.toNat && c.toNat ≤ 13) || c.toNat = 0x85 || c.toNat = 0x2028 || c.toNat = 0x2029

/-- `cs` from its next character on that is neither a blank nor part of a remark; `inRemark` says
    that `cs` begins inside one. -/
def skipFrom (inRemark : Bool) : List Char → List Char
  | [] => []
  | c :: cs =>
    if inRemark then skipFrom (!endsLine c) cs
    else if c = '%' then skipFrom true cs
    else if isBlank c then skipFrom false cs
    else c :: cs

/-- `cs` from its next character on that is neither a blank nor part of a remark. -/
def skipIdle (cs : List Char) : List Char :=
  skipFrom false cs

/-- The text behind the next at sign that is not part of a remark. -/
def afterAt? (inRemark : Bool) : List Char → Option (List Char)
  | [] => none
  | c :: cs =>
    if inRemark then afterAt? (!endsLine c) cs
    else if c = '@' then some cs
    else afterAt? (c = '%') cs

/-! ## 2. Names and keys -/

/-- A character that a name may begin with. -/
def isNameStart (c : Char) : Bool :=
  isNameChar c && !(c = ':' || c = '<' || c = '-' || c = '>')

/-- The name that comes next. -/
def readName? : List Char → Option (String × List Char)
  | [] => none
  | c :: cs =>
    if isNameStart c then
      some (String.ofList (c :: cs.takeWhile isNameChar), cs.dropWhile isNameChar)
    else none

/-- A character that may stand in the key of an entry. -/
def isKeyChar (c : Char) : Bool :=
  !(c = ',' || c = '\x7d' || isControl c || isBlank c)

/-! ## 3. Values -/

/-- The text up to the brace that closes the `depth` open ones and the one before it, and the text
    behind that brace. What stands behind a backslash is no brace. -/
def upToClosing? (depth : Nat) : List Char → Option (List Char × List Char)
  | [] => none
  | [c] => if c = '\x7d' && depth = 0 then some ([], []) else none
  | c :: d :: cs =>
    if c = '\\' then (upToClosing? depth cs).map fun p => (c :: d :: p.1, p.2)
    else if c = '\x7d' && depth = 0 then some ([], d :: cs)
    else
      let inner := if c = '\x7b' then depth + 1 else if c = '\x7d' then depth - 1 else depth
      (upToClosing? inner (d :: cs)).map fun p => (c :: p.1, p.2)

/-- The text up to the quote that ends it, and what follows. What stands behind a backslash does not
    end it. -/
def upToQuote? : List Char → Option (List Char × List Char)
  | [] => none
  | [c] => if c = '"' then some ([], []) else none
  | c :: d :: cs =>
    if c = '\\' then (upToQuote? cs).map fun p => (c :: d :: p.1, p.2)
    else if c = '"' then some ([], d :: cs)
    else (upToQuote? (d :: cs)).map fun p => (c :: p.1, p.2)

/-- A numeral, which may have one point and may not end the text. -/
def readNumber? (cs : List Char) : Option (List Char × List Char) :=
  let isDigitOrPoint := fun c : Char => c.isDigit || c = '.'
  let number := cs.takeWhile isDigitOrPoint
  let rest := cs.dropWhile isDigitOrPoint
  if number.count '.' ≤ 1 && !rest.isEmpty then some (number, rest) else none

/-- The part of a value that comes next. -/
def readPart? : List Char → Option (ValuePart × List Char)
  | [] => none
  | c :: cs =>
    if c.isDigit then (readNumber? (c :: cs)).map fun p => (.text p.1, p.2)
    else if c = '"' then (upToQuote? cs).map fun p => (.text p.1, p.2)
    else if c = '\x7b' then (upToClosing? 0 cs).map fun p => (.text p.1, p.2)
    else (readName? (c :: cs)).map fun p => (.abbreviation p.1, p.2)

/-- The value that comes next: parts with number signs between them. -/
def readValue? : (fuel : Nat) → List Char → Option (List ValuePart × List Char)
  | 0, _ => none
  | fuel + 1, cs => do
    let (part, cs) ← readPart? cs
    match skipIdle cs with
    | '#' :: cs => do
      let (parts, cs) ← readValue? fuel (skipIdle cs)
      some (part :: parts, cs)
    | cs => some ([part], cs)

/-- The field that comes next. -/
def readField? (fuel : Nat) (cs : List Char) : Option (Field × List Char) := do
  let (name, cs) ← readName? cs
  let cs ← after? ['='] (skipIdle cs)
  let (value, cs) ← readValue? fuel (skipIdle cs)
  some (⟨name, value⟩, cs)

/-- The fields up to the brace that closes an item, and what follows that brace. -/
def readFields? : (fuel : Nat) → List Char → Option (List Field × List Char)
  | 0, _ => none
  | fuel + 1, cs =>
    match skipIdle cs with
    | '\x7d' :: cs => some ([], cs)
    | cs => do
      let (field, cs) ← readField? fuel cs
      match skipIdle cs with
      | ',' :: cs => do
        let (fields, cs) ← readFields? fuel cs
        some (field :: fields, cs)
      | '\x7d' :: cs => some ([field], cs)
      | _ => none

/-! ## 4. Items -/

/-- An entry of the given kind, from behind its brace on. -/
def readEntry? (fuel : Nat) (kind : String) (cs : List Char) : Option (Item × List Char) := do
  let cs := skipIdle cs
  let key := String.ofList (cs.takeWhile isKeyChar)
  let cs ← after? [','] (skipIdle (cs.dropWhile isKeyChar))
  let (fields, cs) ← readFields? fuel cs
  some (.entry ⟨kind, key, fields⟩, cs)

/-- The item that comes next, from behind its at sign on. -/
def readItem? (fuel : Nat) (cs : List Char) : Option (Item × List Char) := do
  let (kind, cs) ← readName? cs
  let cs ← after? ['\x7b'] (skipIdle cs)
  match toLower kind with
  | "string" => do
    let (fields, cs) ← readFields? fuel cs
    some (.abbreviations fields, cs)
  | "preamble" => do
    let cs ← after? ['"'] (skipIdle cs)
    let (_, cs) ← upToQuote? cs
    let cs ← after? ['\x7d'] (skipIdle cs)
    some (.remark, cs)
  | "comment" => do
    let (_, cs) ← cut? ['\x7d'] cs
    some (.remark, cs)
  | kind => readEntry? fuel kind cs

/-- The items of a database. -/
def readItems? : (fuel : Nat) → List Char → Option (List Item)
  | 0, _ => none
  | fuel + 1, cs =>
    match afterAt? false cs with
    | none => some []
    | some cs => do
      let (item, cs) ← readItem? fuel cs
      let items ← readItems? fuel cs
      some (item :: items)

/-- The items that a text spells. -/
def itemsOf? (cs : List Char) : Option (List Item) :=
  readItems? (cs.length + 1) cs

end Galley.Bibtex
