import Galley.Yaml.Token

/-!
# Nodes

The tokens of a document make one node: a scalar, a sequence, a mapping, or an alias, which stands
for another node of the document. A node may be given a name; an alias may stand inside the node
that it stands for.
-/

namespace Galley.Yaml

/-- A node. Tags are kept for scalars only. -/
inductive Node where
  | scalar (text : String) (style : Style) (tag : Option String)
  | sequence (items : List Node)
  | mapping (fields : List (Node × Node))
  /-- The node with a number. -/
  | alias (number : Nat)
  deriving Repr, Inhabited

/-- The node of a place where nothing is written. -/
def Node.void : Node := .scalar "" .plain none

/-- A document: its node, and the nodes with numbers. Of two nodes with one number, the first is
    meant. -/
structure Document where
  node : Node
  numbered : List (Nat × Node)
  deriving Repr, Inhabited

/-! ## 1. Reading tokens -/

/-- How far a document has been read. -/
structure Progress where
  tokens : List Token
  /-- What handles stand for. -/
  handles : List (String × String)
  /-- The names given so far, with the numbers of their nodes, the last one first. -/
  names : List (String × Nat) := []
  /-- How many different names there are among them. -/
  distinct : Nat := 0
  /-- The complete nodes with names, and how many names had been given before each. -/
  named : List (Nat × Node) := []

/-- Reading a node. -/
abbrev Reading := StateT Progress Option

/-- The next token. -/
def peek : Reading (Option Token) := return (← get).tokens.head?

/-- The next token is one of `ts`. -/
def nextIn (ts : List Token) : Reading Bool := return (← peek).any ts.contains

/-- Passes over the next token. -/
def skip : Reading Unit := modify fun p => { p with tokens := p.tokens.tail }

/-- Passes over the next token, which has to be `t`. -/
def expect (t : Token) : Reading Unit := do
  if ← nextIn [t] then skip else failure

/-! ## 2. Properties -/

/-- The number that an alias refers to: that of the node which was last given its name. -/
def numberOf (name : String) : Reading Nat := fun p =>
  (p.names.lookup name).map (·, p)

/-- Gives a name to the node that begins here, and tells how many names have been given before. The
    number of the node is how many different names there have been. -/
def giveName (name : String) : Reading Nat := do
  let p ← get
  let isNew := (p.names.lookup name).isNone
  set { p with
    names := (name, p.distinct) :: p.names
    distinct := if isNew then p.distinct + 1 else p.distinct }
  pure p.names.length

/-- The name of a node, if it comes next. -/
def readName : Reading (Option String) := do
  match ← peek with
  | some (.anchor name) => skip; pure (some name)
  | _ => pure none

/-- The tag of a node, if it comes next. Its handle has to stand for something. -/
def readTag : Reading (Option String) := do
  match ← peek with
  | some (.tag "" ending) => skip; pure (some ending)
  | some (.tag handle ending) =>
    match (← get).handles.lookup handle with
    | some meaning => skip; pure (some (meaning ++ ending))
    | none => failure
  | _ => pure none

/-- The name and the tag of a node, in either order. -/
def readProperties : Reading (Option String × Option String) := do
  let first ← readName
  let tag ← readTag
  match first with
  | some name => pure (some name, tag)
  | none => pure (← readName, tag)

/-! ## 3. Collections -/

mutual

/-- The node that comes next. Block collections are allowed when `block` holds, and a sequence
    whose beginning is not marked when `level` holds. -/
def readNode : (fuel : Nat) → (block level : Bool) → Reading Node
  | 0, _, _ => failure
  | fuel + 1, block, level => do
    match ← peek with
    | some (.alias name) => skip; return .alias (← numberOf name)
    | _ =>
      let (name, tag) ← readProperties
      match name with
      | none => readContent fuel block level false tag
      | some name =>
        let place ← giveName name
        let node ← readContent fuel block level true tag
        modify fun p => { p with named := (place, node) :: p.named }
        pure node

/-- The content of a node. Only a node with properties may have none. The mark alone is no tag of
    a scalar that is written. -/
def readContent : (fuel : Nat) → (block level isNamed : Bool) → (tag : Option String) →
    Reading Node
  | 0, _, _, _, _ => failure
  | fuel + 1, block, level, isNamed, tag => do
    match ← peek, block, level with
    | some .blockEntry, _, true => .sequence <$> readEntries fuel false
    | some (.scalar text style), _, _ =>
      skip
      pure (.scalar text style (tag.filter fun t => t != "!"))
    | some .flowSequenceStart, _, _ => skip; .sequence <$> readFlowItems fuel true
    | some .flowMappingStart, _, _ => skip; .mapping <$> readFlowFields fuel true
    | some .blockSequenceStart, true, _ => skip; .sequence <$> readEntries fuel true
    | some .blockMappingStart, true, _ => skip; .mapping <$> readFields fuel
    | _, _, _ => if isNamed || tag.isSome then pure (.scalar "" .plain tag) else failure

/-- The node that comes next in a block, or nothing written when one of `ends` comes. -/
def readBlockNode : (fuel : Nat) → (level : Bool) → (ends : List Token) → Reading Node
  | 0, _, _ => failure
  | fuel + 1, level, ends => do
    if ← nextIn ends then pure .void else readNode fuel true level

/-- The node that comes next between brackets, or nothing written when one of `ends` comes. -/
def readFlowNode : (fuel : Nat) → (ends : List Token) → Reading Node
  | 0, _ => failure
  | fuel + 1, ends => do
    if ← nextIn ends then pure .void else readNode fuel false false

/-- The items of a block sequence. Its end is marked when `closed` holds. -/
def readEntries : (fuel : Nat) → (closed : Bool) → Reading (List Node)
  | 0, _ => failure
  | fuel + 1, closed => do
    if ← nextIn [.blockEntry] then
      skip
      let item ← readBlockNode fuel false [.blockEntry, .key, .value, .blockEnd]
      return item :: (← readEntries fuel closed)
    else
      if closed then expect .blockEnd
      pure []

/-- The fields of a block mapping. -/
def readFields : (fuel : Nat) → Reading (List (Node × Node))
  | 0 => failure
  | fuel + 1 => do
    if ← nextIn [.key] then
      skip
      let key ← readBlockNode fuel true [.key, .value, .blockEnd]
      let value ←
        if ← nextIn [.value] then
          skip
          readBlockNode fuel true [.key, .value, .blockEnd]
        else pure .void
      return (key, value) :: (← readFields fuel)
    else
      expect .blockEnd
      pure []

/-- The value of a field between brackets, in front of one of `ends`. -/
def readFlowValue : (fuel : Nat) → (ends : List Token) → Reading Node
  | 0, _ => failure
  | fuel + 1, ends => do
    if ← nextIn [.value] then
      skip
      readFlowNode fuel ends
    else pure .void

/-- The items up to the bracket that closes a sequence. An item may be a mapping of one field,
    which begins with the mark of a key; a token that takes the place of the key is lost. -/
def readFlowItems : (fuel : Nat) → (first : Bool) → Reading (List Node)
  | 0, _ => failure
  | fuel + 1, first => do
    if !first && !(← nextIn [.flowSequenceEnd]) then expect .flowEntry
    if ← nextIn [.flowSequenceEnd] then
      skip
      pure []
    else if ← nextIn [.key] then
      skip
      let key ←
        if ← nextIn [.value, .flowEntry, .flowSequenceEnd] then
          skip
          pure .void
        else readNode fuel false false
      let value ← readFlowValue fuel [.flowEntry, .flowSequenceEnd]
      return .mapping [(key, value)] :: (← readFlowItems fuel false)
    else
      let item ← readNode fuel false false
      return item :: (← readFlowItems fuel false)

/-- The fields up to the brace that closes a mapping. A field without the mark of a key has no
    value. -/
def readFlowFields : (fuel : Nat) → (first : Bool) → Reading (List (Node × Node))
  | 0, _ => failure
  | fuel + 1, first => do
    if !first && !(← nextIn [.flowMappingEnd]) then expect .flowEntry
    if ← nextIn [.flowMappingEnd] then
      skip
      pure []
    else if ← nextIn [.key] then
      skip
      let key ← readFlowNode fuel [.value, .flowEntry, .flowMappingEnd]
      let value ← readFlowValue fuel [.flowEntry, .flowMappingEnd]
      return (key, value) :: (← readFlowFields fuel false)
    else
      let key ← readNode fuel false false
      return (key, .void) :: (← readFlowFields fuel false)

end

/-! ## 4. Documents -/

/-- What the tags begin with that are common to all documents. -/
def commonSpace : String := "tag:yaml.org,2002:"

/-- What handles stand for unless a directive says otherwise. -/
def commonHandles : List (String × String) := [("!", "!"), ("!!", commonSpace)]

/-- What handles stand for behind directives. The version may be named once, and has to be 1.1 or
    1.2; a handle may be given once. -/
def handles? (directives : List Token) : Option (List (String × String)) :=
  let versions := directives.filterMap fun
    | .version major minor => some (major, minor)
    | _ => none
  let given := directives.filterMap fun
    | .handle name meaning => some (name, meaning)
    | _ => none
  if versions.length ≤ 1 && versions.all [(1, 1), (1, 2)].contains
      && decide (given.map Prod.fst).Nodup then
    some (given ++ commonHandles)
  else none

/-- The document whose node comes next, with nothing but marks behind it. -/
def readDocument? (p : Progress) : Option Document := do
  let (node, p) ← readNode (5 * p.tokens.length + 5) true false p
  if p.tokens.all (· = .documentEnd) then
    let count := p.names.length
    some ⟨node, ((List.range count).zip p.names).filterMap fun (i, _, number) =>
      (p.named.lookup (count - 1 - i)).map (number, ·)⟩
  else none

/-- The document that tokens make. Without any token, nothing is written in it; directives need
    the mark that begins the document. -/
def document? (tokens : List Token) : Option Document := do
  let directives := tokens.takeWhile Token.isDirective
  let handles ← handles? directives
  match tokens.drop directives.length with
  | .documentStart :: tokens =>
    if tokens.all (· = .documentEnd) then some ⟨.void, []⟩ else readDocument? { tokens, handles }
  | tokens =>
    if !directives.isEmpty then none
    else if tokens.isEmpty then some ⟨.void, []⟩
    else readDocument? { tokens, handles }

end Galley.Yaml
