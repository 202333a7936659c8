/-!
# Tokens

A text is a row of tokens: the marks of its collections, the properties of its nodes, its scalars,
and what it says about its documents. The end of a text is the end of the row.
-/

namespace Galley.Yaml

/-- How a scalar is written. -/
inductive Style where
  | plain
  | quoted
  | literal
  | folded
  deriving DecidableEq, Repr, Inhabited

/-- A token. -/
inductive Token where
  /-- The directive that names the version of the notation. -/
  | version (major minor : Nat)
  /-- The directive that says what a handle stands for. -/
  | handle (name meaning : String)
  | documentStart
  | documentEnd
  | blockSequenceStart
  | blockMappingStart
  | blockEnd
  | blockEntry
  | flowSequenceStart
  | flowSequenceEnd
  | flowMappingStart
  | flowMappingEnd
  | flowEntry
  /-- A key comes next. -/
  | key
  /-- The value of a key comes next. -/
  | value
  | anchor (name : String)
  | alias (name : String)
  /-- A tag, which is short for what its handle stands for, with `ending` behind it. -/
  | tag (handle ending : String)
  | scalar (text : String) (style : Style)
  deriving DecidableEq, Repr, Inhabited

/-- A directive. -/
def Token.isDirective : Token → Bool
  | .version .. | .handle .. => true
  | _ => false

end Galley.Yaml
