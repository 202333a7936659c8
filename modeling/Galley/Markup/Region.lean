import Galley.Text.Scan

/-!
# Footnotes and captions

Markup falls apart into the body and the arguments of footnote and caption commands. An argument
begins at the first brace behind its command and ends at the brace that closes that one, at the
next such command, or at the end of the text; what stands between a command and its brace is
dropped. Without a brace, the argument is all text up to the next such command. Main statements:
`source_tokens` and `source_pieces` say that nothing of the text is lost.
-/

namespace Galley.Markup

open Galley.Text

/-- The commands that make a region. -/
inductive RegionKind where
  | footnote
  | caption
  deriving DecidableEq, Repr, Inhabited

/-- How a region command is written. -/
def RegionKind.command : RegionKind → List Char
  | .footnote => ['\\', 'f', 'o', 'o', 't', 'n', 'o', 't', 'e']
  | .caption => ['\\', 'c', 'a', 'p', 't', 'i', 'o', 'n']

/-! ## 1. Tokens -/

/-- What is read at once. -/
inductive Token where
  /-- A region command that no letter follows. -/
  | command (kind : RegionKind)
  /-- A backslash and the brace behind it, which then groups nothing. -/
  | escaped (brace : Char)
  | char (c : Char)
  deriving DecidableEq, Repr, Inhabited

/-- The text of a token. -/
def Token.source : Token → List Char
  | .command kind => kind.command
  | .escaped brace => ['\\', brace]
  | .char c => [c]

/-- The text of a sequence of tokens. -/
def sourceOf (ts : List Token) : List Char :=
  ts.flatMap Token.source

/-- A letter of ASCII comes next, so the name of a command goes on. -/
def nameGoesOn (cs : List Char) : Bool :=
  cs.head?.any Char.isAlpha

/-- What follows the given region command, when it comes next. -/
def regionCommand? (kind : RegionKind) (cs : List Char) : Option (List Char) :=
  (after? kind.command cs).bind fun rest => if nameGoesOn rest then none else some rest

/-- A brace. -/
def isBrace (c : Char) : Bool := c = '\x7b' || c = '\x7d'

/-- A token that is no region command, and what follows it. -/
def plainToken (c : Char) (cs : List Char) : Token × List Char :=
  match cs with
  | b :: rest => if c = '\\' && isBrace b then (.escaped b, rest) else (.char c, b :: rest)
  | [] => (.char c, [])

/-- The next token, and what follows it. -/
def nextToken (c : Char) (cs : List Char) : Token × List Char :=
  match regionCommand? .footnote (c :: cs), regionCommand? .caption (c :: cs) with
  | some rest, _ => (.command .footnote, rest)
  | none, some rest => (.command .caption, rest)
  | none, none => plainToken c cs

theorem regionCommand?_eq_some {kind : RegionKind} {cs rest : List Char}
    (h : regionCommand? kind cs = some rest) : cs = kind.command ++ rest := by
  obtain ⟨r, hr, hg⟩ := Option.bind_eq_some_iff.1 h
  split at hg
  · cases hg
  · cases hg
    exact after?_eq_some_iff.1 hr

theorem source_plainToken (c : Char) (cs : List Char) :
    (plainToken c cs).1.source ++ (plainToken c cs).2 = c :: cs := by
  cases cs with
  | nil => rfl
  | cons b rest =>
    simp only [plainToken]
    split
    · next h =>
      have hc : c = '\\' := by simpa using (Bool.and_eq_true_iff.1 h).1
      simp [Token.source, hc]
    · simp [Token.source]

theorem source_nextToken (c : Char) (cs : List Char) :
    (nextToken c cs).1.source ++ (nextToken c cs).2 = c :: cs := by
  unfold nextToken
  split
  · next h => exact (regionCommand?_eq_some h).symm
  · next h => exact (regionCommand?_eq_some h).symm
  · exact source_plainToken c cs

theorem source_length_pos (t : Token) : 0 < t.source.length := by
  cases t with
  | command kind => cases kind <;> simp [Token.source, RegionKind.command]
  | escaped b => simp [Token.source]
  | char c => simp [Token.source]

theorem nextToken_length (c : Char) (cs : List Char) :
    (nextToken c cs).2.length < (c :: cs).length := by
  have h := congrArg List.length (source_nextToken c cs)
  rw [List.length_append] at h
  have := source_length_pos (nextToken c cs).1
  omega

/-- The tokens of a text. -/
def tokens : List Char → List Token
  | [] => []
  | c :: cs => (nextToken c cs).1 :: tokens (nextToken c cs).2
termination_by cs => cs.length
decreasing_by exact nextToken_length c cs

theorem tokens_nil : tokens [] = [] := by rw [tokens]

theorem tokens_cons (c : Char) (cs : List Char) :
    tokens (c :: cs) = (nextToken c cs).1 :: tokens (nextToken c cs).2 := by rw [tokens]

/-- The tokens of a text, one after the other, are the text. -/
theorem source_tokens (cs : List Char) : sourceOf (tokens cs) = cs := by
  induction h : cs.length using Nat.strongRecOn generalizing cs with
  | _ n ih =>
    cases cs with
    | nil => simp [tokens_nil, sourceOf]
    | cons c cs =>
      have hr := ih _ (h ▸ nextToken_length c cs) (nextToken c cs).2 rfl
      rw [sourceOf] at hr ⊢
      rw [tokens_cons, List.flatMap_cons, hr, source_nextToken]

/-! ## 2. Arguments -/

/-- The argument of a region command. -/
structure Argument where
  kind : RegionKind
  /-- What stands between the command and its brace. -/
  gap : List Char
  /-- The argument has an opening brace. -/
  opened : Bool
  /-- The text between the braces. -/
  text : List Char
  /-- The argument has a closing brace. -/
  closed : Bool
  deriving DecidableEq, Repr, Inhabited

/-- What stands before the text of an argument. -/
def Argument.head (a : Argument) : List Char :=
  a.kind.command ++ a.gap ++ if a.opened then ['\x7b'] else []

/-- The argument with its command, as it is written. -/
def Argument.source (a : Argument) : List Char :=
  a.head ++ a.text ++ if a.closed then ['\x7d'] else []

/-- The text of an argument, where `depth` braces are open; whether a brace closes it; and the
    tokens that follow. -/
def readText (depth : Nat) : List Token → List Char × Bool × List Token
  | [] => ([], false, [])
  | .command kind :: ts => ([], false, .command kind :: ts)
  | .escaped brace :: ts =>
    let (text, closed, rest) := readText depth ts
    ('\\' :: brace :: text, closed, rest)
  | .char c :: ts =>
    if c = '\x7d' && depth ≤ 1 then ([], true, ts)
    else
      let inner := if c = '\x7b' then depth + 1 else if c = '\x7d' then depth - 1 else depth
      let (text, closed, rest) := readText inner ts
      (c :: text, closed, rest)

/-- A token that may stand between a command and its brace. -/
def isGapToken : Token → Bool
  | .command _ => false
  | .escaped _ => true
  | .char c => c ≠ '\x7b'

/-- The argument of a region command, from behind the command on, and the tokens that follow. -/
def readArgument (kind : RegionKind) (ts : List Token) : Argument × List Token :=
  let gap := sourceOf (ts.takeWhile isGapToken)
  match ts.dropWhile isGapToken with
  | .char _ :: rest =>
    let (text, closed, rest) := readText 1 rest
    (⟨kind, gap, true, text, closed⟩, rest)
  | rest => (⟨kind, [], false, gap, false⟩, rest)

theorem readText_length (depth : Nat) (ts : List Token) :
    (readText depth ts).2.2.length ≤ ts.length := by
  induction ts generalizing depth with
  | nil => simp [readText]
  | cons t ts ih =>
    cases t with
    | command kind => simp [readText]
    | escaped b =>
      simp only [readText, List.length_cons]
      exact Nat.le_succ_of_le (ih depth)
    | char c =>
      simp only [readText]
      split
      · simp
      · exact Nat.le_succ_of_le (ih _)

theorem readArgument_length (kind : RegionKind) (ts : List Token) :
    (readArgument kind ts).2.length ≤ ts.length := by
  have hd := (List.dropWhile_suffix (p := isGapToken) (l := ts)).length_le
  unfold readArgument
  split
  · next c rest h =>
    rw [h] at hd
    have := readText_length 1 rest
    simp only [List.length_cons] at hd
    exact Nat.le_trans this (by omega)
  · exact hd

theorem readText_source (depth : Nat) (ts : List Token) :
    (readText depth ts).1 ++ (if (readText depth ts).2.1 then ['\x7d'] else [])
      ++ sourceOf (readText depth ts).2.2 = sourceOf ts := by
  induction ts generalizing depth with
  | nil => rfl
  | cons t ts ih =>
    cases t with
    | command kind => simp [readText]
    | escaped b =>
      have h := ih depth
      simp only [readText, sourceOf, List.flatMap_cons, Token.source] at h ⊢
      simp only [List.cons_append, List.nil_append]
      exact congrArg ('\\' :: b :: ·) h
    | char c =>
      simp only [readText]
      split
      · next hc =>
        have hc : c = '\x7d' := by simpa using (Bool.and_eq_true_iff.1 hc).1
        simp [sourceOf, Token.source, hc]
      · have h := ih (if c = '\x7b' then depth + 1 else if c = '\x7d' then depth - 1 else depth)
        simp only [sourceOf, List.flatMap_cons, Token.source] at h ⊢
        simp only [List.cons_append, List.nil_append]
        exact congrArg (c :: ·) h

/-- Reading an argument loses nothing. -/
theorem readArgument_source (kind : RegionKind) (ts : List Token) :
    (readArgument kind ts).1.source ++ sourceOf (readArgument kind ts).2
      = kind.command ++ sourceOf ts := by
  have hs : sourceOf (ts.takeWhile isGapToken) ++ sourceOf (ts.dropWhile isGapToken)
      = sourceOf ts := by
    rw [sourceOf, sourceOf, ← List.flatMap_append, List.takeWhile_append_dropWhile, sourceOf]
  unfold readArgument
  split
  · next c rest h =>
    have hb : c = '\x7b' := by
      have hn := List.head?_dropWhile_not isGapToken ts
      rw [h] at hn
      simpa [isGapToken] using hn
    subst hb
    have hr := readText_source 1 rest
    rw [h] at hs
    rw [← hs]
    simp only [sourceOf, List.flatMap_cons, Token.source] at hr ⊢
    rw [← hr]
    simp [Argument.source, Argument.head]
  · rw [← hs]
    simp [Argument.source, Argument.head]

/-! ## 3. Pieces -/

/-- Markup in pieces: text outside all regions, and arguments of region commands. -/
inductive Piece where
  | body (cs : List Char)
  | region (a : Argument)
  deriving DecidableEq, Repr, Inhabited

/-- The text of a piece. -/
def Piece.source : Piece → List Char
  | .body cs => cs
  | .region a => a.source

/-- The pieces that tokens make. -/
def piecesOf : List Token → List Piece
  | [] => []
  | .command kind :: ts =>
    let r := readArgument kind ts
    .region r.1 :: piecesOf r.2
  | .escaped brace :: ts => .body ['\\', brace] :: piecesOf ts
  | .char c :: ts => .body [c] :: piecesOf ts
termination_by ts => ts.length
decreasing_by
  · exact Nat.lt_succ_of_le (readArgument_length kind ts)
  · simp
  · simp

/-- The pieces of a text. -/
def pieces (cs : List Char) : List Piece :=
  piecesOf (tokens cs)

theorem source_piecesOf (ts : List Token) : (piecesOf ts).flatMap Piece.source = sourceOf ts := by
  induction h : ts.length using Nat.strongRecOn generalizing ts with
  | _ n ih =>
    match ts with
    | [] => simp [piecesOf, sourceOf]
    | .command kind :: ts =>
      have hl := Nat.lt_succ_of_le (readArgument_length kind ts)
      have hr := ih _ (by rw [← h]; exact hl) _ rfl
      rw [piecesOf, List.flatMap_cons, hr]
      simpa [Piece.source, sourceOf, Token.source] using readArgument_source kind ts
    | .escaped b :: ts =>
      have hr := ih ts.length (h ▸ Nat.lt_succ_self _) ts rfl
      rw [piecesOf, List.flatMap_cons, hr]
      simp [Piece.source, sourceOf, Token.source]
    | .char c :: ts =>
      have hr := ih ts.length (h ▸ Nat.lt_succ_self _) ts rfl
      rw [piecesOf, List.flatMap_cons, hr]
      simp [Piece.source, sourceOf, Token.source]

/-- The pieces of a text, one after the other, are the text. -/
theorem source_pieces (cs : List Char) : (pieces cs).flatMap Piece.source = cs := by
  rw [pieces, source_piecesOf, source_tokens]

/-! ## 4. Regions -/

/-- A footnote or caption and where its text stands. -/
structure Region where
  kind : RegionKind
  text : List Char
  /-- The byte at which the text begins. -/
  start : Nat
  deriving DecidableEq, Repr, Inhabited

/-- The byte behind the text of a region. -/
def Region.stop (r : Region) : Nat :=
  r.start + byteLength r.text

/-- The regions among pieces that begin at a byte. -/
def regionsFrom (offset : Nat) : List Piece → List Region
  | [] => []
  | .body cs :: ps => regionsFrom (offset + byteLength cs) ps
  | .region a :: ps =>
    ⟨a.kind, a.text, offset + byteLength a.head⟩ :: regionsFrom (offset + byteLength a.source) ps

/-- The regions of a text, in the order of the text. -/
def regions (cs : List Char) : List Region :=
  regionsFrom 0 (pieces cs)

/-- The footnotes of a text. -/
def footnotes (cs : List Char) : List Region :=
  (regions cs).filter fun r => r.kind = .footnote

/-- The captions of a text. -/
def captions (cs : List Char) : List Region :=
  (regions cs).filter fun r => r.kind = .caption

/-- Footnotes and captions together, by the bytes at which they begin. -/
def inSourceOrder (cs : List Char) : List Region :=
  (footnotes cs ++ captions cs).mergeSort fun r s => r.start ≤ s.start

/-- What a piece gives to the body. -/
def Piece.body? : Piece → List Char
  | .body cs => cs
  | .region _ => []

/-- The text outside all regions. -/
def body (cs : List Char) : List Char :=
  (pieces cs).flatMap Piece.body?

end Galley.Markup
