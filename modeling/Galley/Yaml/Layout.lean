import Galley.Yaml.Block
import Galley.Yaml.Property
import Galley.Yaml.Scalar

/-!
# Layout

Most marks of a block collection are not written: a collection begins where a line is indented
further, and ends where one is indented less; and what stands before a colon turns out to be a key
only then. So the tokens of a text are found with the columns of the open collections and the
places where a key may have begun. Brackets and braces suspend all this: inside them columns mean
nothing.
-/

namespace Galley.Yaml

/-! ## 1. The state of a text -/

/-- A place where a key may have begun. -/
structure Candidate where
  /-- How many tokens come before it. -/
  position : Nat
  line : Nat
  column : Nat
  /-- Nothing but a key may stand there. -/
  required : Bool
  deriving DecidableEq, Repr

/-- A key ends in the line where it begins, and within 1024 characters. -/
def Candidate.reaches (k : Candidate) (g : Glyph) : Bool :=
  k.line = g.line && g.column ≤ k.column + 1024

/-- What has been found in a text. -/
structure Layout where
  tokens : Array Token := #[]
  /-- The columns of the open block collections, the innermost first. -/
  columns : List Nat := []
  /-- The candidate inside the innermost brackets, or in the block when none are open. -/
  candidate : Option Candidate := none
  /-- The candidates outside of each of the open brackets, the innermost first. -/
  outer : List (Option Candidate) := []
  /-- A key may begin at the next token. -/
  keyAllowed : Bool := true

namespace Layout

/-- Brackets or braces are open. -/
def inFlow (l : Layout) : Bool := !l.outer.isEmpty

/-- The column of the innermost block collection, or -1 outside of all. -/
def indent (l : Layout) : Int :=
  match l.columns with
  | [] => -1
  | column :: _ => column

/-! ## 2. Candidates and collections -/

/-- Gives up the candidates that no longer reach. -/
def expire? (g : Glyph) (l : Layout) : Option Layout :=
  if (l.candidate :: l.outer).any fun k => k.any fun k => k.required && !k.reaches g then none
  else some { l with
    candidate := l.candidate.filter (·.reaches g)
    outer := l.outer.map fun k => k.filter (·.reaches g) }

/-- Gives up the candidate. -/
def dropCandidate? (l : Layout) : Option Layout :=
  if l.candidate.any (·.required) then none else some { l with candidate := none }

/-- Makes the next token a candidate, if a key may begin there. -/
def offer? (g : Glyph) (l : Layout) : Option Layout :=
  if l.keyAllowed then
    l.dropCandidate?.map fun l =>
      let required := !l.inFlow && l.columns.head? = some g.column
      { l with candidate := some ⟨l.tokens.size, g.line, g.column, required⟩ }
  else some l

/-- Ends the block collections to the right of a column. -/
def closeTo (column : Int) (l : Layout) : Layout :=
  if l.inFlow then l
  else
    let closed := l.columns.takeWhile fun (c : Nat) => column < c
    { l with
      columns := l.columns.drop closed.length
      tokens := l.tokens ++ Array.replicate closed.length .blockEnd }

/-- Begins a block collection at a column to the right of all others, before the token that stands
    at `position`. -/
def openAt (column position : Nat) (start : Token) (l : Layout) : Layout :=
  if l.inFlow || (column : Int) ≤ l.indent then l
  else { l with
    columns := column :: l.columns
    tokens := l.tokens.insertIdxIfInBounds position start }

/-! ## 3. Tokens -/

/-- Adds a token. A key may begin behind it when `allowed` holds. -/
def push (t : Token) (allowed : Bool) (l : Layout) : Layout :=
  { l with tokens := l.tokens.push t, keyAllowed := allowed }

/-- Adds a token that cannot be part of a key. -/
def mark? (t : Token) (allowed : Bool) (l : Layout) : Option Layout :=
  l.dropCandidate?.map (push t allowed)

/-- Adds a token that ends the document before it. -/
def outermost? (t : Token) (l : Layout) : Option Layout :=
  (l.closeTo (-1)).mark? t false

/-- Opens brackets or braces. -/
def openFlow? (g : Glyph) (t : Token) (l : Layout) : Option Layout :=
  (l.offer? g).map fun l =>
    { l with outer := l.candidate :: l.outer, candidate := none }.push t true

/-- Closes brackets or braces. -/
def closeFlow? (t : Token) (l : Layout) : Option Layout :=
  l.dropCandidate?.map fun l =>
    { l with outer := l.outer.tail, candidate := l.outer.head?.join }.push t false

/-- Adds a token that begins something in a block collection: an item or a key. -/
def begin? (g : Glyph) (start t : Token) (allowed : Bool) (l : Layout) : Option Layout :=
  if l.inFlow || l.keyAllowed then (l.openAt g.column l.tokens.size start).mark? t allowed
  else none

/-- Adds the mark of a value. A candidate is now known to be a key. -/
def value? (g : Glyph) (l : Layout) : Option Layout :=
  match l.candidate with
  | some k =>
    let l := { l with
      tokens := l.tokens.insertIdxIfInBounds k.position .key
      candidate := none }
    some ((l.openAt k.column k.position .blockMappingStart).push .value false)
  | none => l.begin? g .blockMappingStart .value !l.inFlow

/-- Adds the scalar that begins at `g`, and passes to what follows it. -/
def scalar? (g : Glyph) (rest : List Glyph) (l : Layout) : Option (Layout × List Glyph) :=
  if g.char = '\'' || g.char = '"' then do
    let l ← l.offer? g
    let (text, rest) ← quoted? g.char (rest.length + 1) rest
    some (l.push (.scalar (String.ofList text) .quoted) false, rest)
  else if plainStarts l.inFlow g.char rest then do
    let l ← l.offer? g
    let (text, broken, rest) ← plain? l.inFlow l.indent (rest.length + 2) (g :: rest)
    some (l.push (.scalar (String.ofList text) .plain) broken, rest)
  else if !l.inFlow && (g.char = '|' || g.char = '>') then do
    let l ← l.dropCandidate?
    let fold := g.char = '>'
    let (text, rest) ← blockScalar? fold l.indent rest
    some (l.push (.scalar (String.ofList text) (if fold then .folded else .literal)) true, rest)
  else none

/-- Adds the property that begins at `g`, and passes to what follows it. -/
def property? (g : Glyph) (rest : List Glyph) (l : Layout) : Option (Layout × List Glyph) := do
  let l ← l.offer? g
  let (t, rest) ←
    if g.char = '!' then tag? l.inFlow rest
    else (name? rest).map fun p => (if g.char = '&' then .anchor p.1 else .alias p.1, p.2)
  some (l.push t false, rest)

/-- Adds the token that begins at `g`, and passes to what follows it. -/
def next? (g : Glyph) (rest : List Glyph) (l : Layout) : Option (Layout × List Glyph) := do
  let l := (← l.expire? g).closeTo g.column
  let c := g.char
  if g.column = 0 && c = '%' then
    let (t, rest) ← directive? rest
    some (← l.outermost? t, rest)
  else if markAhead '-' (g :: rest) then some (← l.outermost? .documentStart, rest.drop 2)
  else if markAhead '.' (g :: rest) then some (← l.outermost? .documentEnd, rest.drop 2)
  else if c = '[' then some (← l.openFlow? g .flowSequenceStart, rest)
  else if c = '\x7b' then some (← l.openFlow? g .flowMappingStart, rest)
  else if c = ']' then some (← l.closeFlow? .flowSequenceEnd, rest)
  else if c = '\x7d' then some (← l.closeFlow? .flowMappingEnd, rest)
  else if c = ',' then some (← l.mark? .flowEntry true, rest)
  else if c = '-' && gapAhead rest then
    some (← l.begin? g .blockSequenceStart .blockEntry true, rest)
  else if c = '?' && (l.inFlow || gapAhead rest) then
    some (← l.begin? g .blockMappingStart .key !l.inFlow, rest)
  else if c = ':' && (l.inFlow || gapAhead rest) then some (← l.value? g, rest)
  else if c = '*' || c = '&' || c = '!' then l.property? g rest
  else l.scalar? g rest

/-! ## 4. Texts -/

/-- Whether a key may begin at the next token, and what follows the gap before it. At the beginning
    of a line where a key may begin, a tab is no blank. A mark of the byte order is passed over at
    the beginning of a line. -/
def skipGap (inFlow : Bool) (keyAllowed : Bool) : List Glyph → Bool × List Glyph
  | [] => (keyAllowed, [])
  | g :: gs =>
    if g.char = ' ' || (g.char = '\t' && (inFlow || !keyAllowed))
        || (g.char = '\ufeff' && g.column = 0) then
      skipGap inFlow keyAllowed gs
    else if isBreak g.char then skipGap inFlow (keyAllowed || !inFlow) gs
    else if g.char = '#' then pastComment inFlow keyAllowed gs
    else (keyAllowed, g :: gs)
where
  /-- The same, inside a comment. -/
  pastComment (inFlow : Bool) (keyAllowed : Bool) : List Glyph → Bool × List Glyph
    | [] => (keyAllowed, [])
    | g :: gs =>
      if isBreak g.char then skipGap inFlow (keyAllowed || !inFlow) gs
      else pastComment inFlow keyAllowed gs

/-- The tokens of a text, behind those of `l`. There are at most `fuel` of them. -/
def tokens? : (fuel : Nat) → Layout → List Glyph → Option (List Token)
  | 0, _, _ => none
  | fuel + 1, l, gs =>
    match skipGap l.inFlow l.keyAllowed gs with
    | (_, []) => l.dropCandidate?.map fun l => (l.closeTo (-1)).tokens.toList
    | (keyAllowed, g :: rest) =>
      match { l with keyAllowed }.next? g rest with
      | none => none
      | some (l, rest) => tokens? fuel l rest

end Layout

/-- The tokens of a text. -/
def tokens? (gs : List Glyph) : Option (List Token) :=
  Layout.tokens? (gs.length + 1) {} gs

end Galley.Yaml
