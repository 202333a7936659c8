import Galley.Record
import Galley.Text.Percent
import Galley.Text.Scan
import Galley.Yaml.Layout
import Galley.Yaml.Node

/-!
# YAML values

A value is a node of a document. A scalar is a text; only one that is written plain, or as a
literal block with the tag for it, may also be read as a number or a truth value.
-/

namespace Galley

open Galley.Text

/-- A YAML value: a node, and the nodes of its document that have numbers. -/
abbrev Yaml := Yaml.Document

namespace Yaml

/-- The value that a text spells. -/
def parse? (s : String) : Option Yaml := do
  document? (← tokens? (← glyphs? s))

/-! ## 1. Texts and collections -/

/-- The node that a value stands for. -/
def Document.target (v : Yaml) : Node :=
  match v.node with
  | .alias number => (v.numbered.lookup number).getD .void
  | node => node

/-- Another node of the document. -/
def Document.at (v : Yaml) (node : Node) : Yaml := { v with node }

/-- The text of a scalar. -/
def text? (v : Yaml) : Option String :=
  match v.target with
  | .scalar text .. => some text
  | _ => none

/-- Nothing is written, but for properties. -/
def isVoid (v : Yaml) : Bool :=
  match v.target with
  | .scalar text style _ => text.isEmpty && style = .plain
  | _ => false

/-- The fields of a mapping whose keys are scalars. Nothing at all stands for a mapping without
    fields. -/
def fields? (v : Yaml) : Option (List (String × Yaml)) :=
  match v.target with
  | .mapping fields => fields.mapM fun (key, value) => (text? (v.at key)).map (·, v.at value)
  | _ => if isVoid v then some [] else none

/-- The items of a sequence. Nothing at all stands for a sequence without items. -/
def items? (v : Yaml) : Option (List Yaml) :=
  match v.target with
  | .sequence items => some (items.map v.at)
  | _ => if isVoid v then some [] else none

/-! ## 2. Other scalars -/

/-- The tag of scalars of a kind. -/
def commonTag (kind : String) : String := commonSpace ++ kind

/-- The text of a scalar that is written plain, or as a literal block with the tag of its kind. -/
def typed? (kind : String) (v : Yaml) : Option String :=
  match v.target with
  | .scalar text .plain _ => some text
  | .scalar text .literal (some tag) => if tag = commonTag kind then some text else none
  | _ => none

/-- A truth value. -/
def flag? (v : Yaml) : Option Bool :=
  (typed? "bool" v).bind fun s =>
    if ["true", "True", "TRUE"].contains s then some true
    else if ["false", "False", "FALSE"].contains s then some false
    else none

/-- The number that digits spell in a base. -/
def digitsValue? (base : Nat) (cs : List Char) : Option Nat :=
  if cs.isEmpty then none
  else cs.foldl
    (fun n c => do
      let n ← n
      let d ← hexValue? c
      if d < base then some (n * base + d) else none)
    (some 0)

/-- A natural number: decimal digits that do not begin with a needless zero, or digits in another
    base behind the mark of that base. -/
def natural? (cs : List Char) : Option Nat :=
  match after? "0x".toList cs, after? "0o".toList cs, after? "0b".toList cs with
  | some digits, _, _ => digitsValue? 16 digits
  | _, some digits, _ => digitsValue? 8 digits
  | _, _, some digits => digitsValue? 2 digits
  | _, _, _ => if 1 < cs.length && cs.head? = some '0' then none else digitsValue? 10 cs

/-- A number of at most 64 bits, with or without a plus sign. -/
def count? (v : Yaml) : Option Nat := do
  let s ← typed? "int" v
  let n ← natural? ((after? ['+'] s.toList).getD s.toList)
  if n < Nat.pow 2 64 then some n else none

/-- A word that says that there is no value. -/
def isNullWord (s : String) : Bool := ["~", "null", "Null", "NULL"].contains s

/-- The value says that there is none: it is plain, and void or a word for that. A scalar with a tag
    says so only with the tag for that, and it has to be such a word then. -/
def absent? (v : Yaml) : Option Bool :=
  match v.target with
  | .scalar text .plain (some tag) =>
    if tag = commonTag "null" then
      if isNullWord text then some true else none
    else some false
  | .scalar text .plain none => some (text.isEmpty || isNullWord text)
  | _ => some false

end Yaml

instance : Structured Yaml where
  fields? := Yaml.fields?
  items? := Yaml.items?
  positional := false
  text? := Yaml.text?
  count? := Yaml.count?
  flag? := Yaml.flag?
  absent? := Yaml.absent?

end Galley
