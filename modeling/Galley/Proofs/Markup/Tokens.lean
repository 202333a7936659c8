import Galley.Markup.Region

/-!
# The tokens of markup

Every control word of a footnote or caption becomes one command token, and command tokens come
from nothing else: `commandPlaces_eq` compares the places of all control words, looked for at every
character, with those of the command tokens. The tokens of a text are *well spelled*: a brace
behind a backslash is never a token of its own (`wellSpelled_tokens`). What one token does to the
argument in which it is read is `readText_cons`.
-/

namespace Galley.Markup

open Galley.Text

/-! ## 1. Control words -/

/-- The region command whose control word comes next, with no letter behind it. -/
def commandAt? (cs : List Char) : Option RegionKind :=
  if (regionCommand? .footnote cs).isSome then some .footnote
  else if (regionCommand? .caption cs).isSome then some .caption
  else none

/-- Every control word of a region command in a text that begins at a byte: which it is, and the
    byte at which it stands. -/
def commandPlaces (offset : Nat) : List Char → List (RegionKind × Nat)
  | [] => []
  | c :: cs =>
    match commandAt? (c :: cs) with
    | some kind => (kind, offset) :: commandPlaces (offset + c.utf8Size) cs
    | none => commandPlaces (offset + c.utf8Size) cs

/-- A region command begins with its backslash. -/
theorem RegionKind.command_eq_cons (kind : RegionKind) :
    kind.command = '\\' :: kind.command.tail := by cases kind <;> rfl

theorem regionCommand?_eq_some_iff {kind : RegionKind} {cs rest : List Char} :
    regionCommand? kind cs = some rest ↔ cs = kind.command ++ rest ∧ nameGoesOn rest = false := by
  constructor
  · intro h
    obtain ⟨r, hr, hg⟩ := Option.bind_eq_some_iff.1 h
    cases hn : nameGoesOn r with
    | true => rw [hn] at hg; cases hg
    | false =>
      rw [hn] at hg
      cases hg
      exact ⟨after?_eq_some_iff.1 hr, hn⟩
  · rintro ⟨rfl, hn⟩
    rw [regionCommand?, after?_append, Option.bind_some, hn]
    rfl

/-- **What a control word is**: the command, and no letter of ASCII behind it. -/
theorem commandAt?_eq_some_iff {kind : RegionKind} {cs : List Char} :
    commandAt? cs = some kind ↔ ∃ rest, cs = kind.command ++ rest ∧ nameGoesOn rest = false := by
  simp only [← regionCommand?_eq_some_iff, ← Option.isSome_iff_exists]
  unfold commandAt?
  constructor
  · intro h
    split at h
    · next hf => cases h; exact hf
    · split at h
      · next hc => cases h; exact hc
      · cases h
  · intro h
    cases kind with
    | footnote => rw [if_pos h]
    | caption =>
      have hf : ¬ (regionCommand? .footnote cs).isSome = true := by
        intro hf
        -- the two commands differ in the character behind their backslash
        obtain ⟨r, hr⟩ := Option.isSome_iff_exists.1 hf
        obtain ⟨s, hs⟩ := Option.isSome_iff_exists.1 h
        have he := (regionCommand?_eq_some hr).symm.trans (regionCommand?_eq_some hs)
        simp [RegionKind.command] at he
      rw [if_neg hf, if_pos h]

theorem commandAt?_of_ne {c : Char} (h : c ≠ '\\') (cs : List Char) :
    commandAt? (c :: cs) = none := by
  cases hk : commandAt? (c :: cs) with
  | none => rfl
  | some kind =>
    obtain ⟨rest, he, -⟩ := commandAt?_eq_some_iff.1 hk
    cases kind <;> simp [RegionKind.command] at he <;> exact absurd he.1 h

theorem commandPlaces_cons_none {c : Char} {cs : List Char} (h : commandAt? (c :: cs) = none)
    (offset : Nat) : commandPlaces offset (c :: cs) = commandPlaces (offset + c.utf8Size) cs := by
  rw [commandPlaces, h]

theorem commandPlaces_cons_some {c : Char} {cs : List Char} {kind : RegionKind}
    (h : commandAt? (c :: cs) = some kind) (offset : Nat) :
    commandPlaces offset (c :: cs) =
      (kind, offset) :: commandPlaces (offset + c.utf8Size) cs := by
  rw [commandPlaces, h]

/-- No control word stands in text without backslashes. -/
theorem commandPlaces_append {word : List Char} (h : '\\' ∉ word) (offset : Nat)
    (rest : List Char) :
    commandPlaces offset (word ++ rest) = commandPlaces (offset + byteLength word) rest := by
  induction word generalizing offset with
  | nil => rfl
  | cons c word ih =>
    rw [List.mem_cons, not_or] at h
    rw [List.cons_append, commandPlaces_cons_none (commandAt?_of_ne (Ne.symm h.1) _),
      ih h.2, byteLength_cons, Nat.add_assoc]

theorem commandPlaces_command {kind : RegionKind} {rest : List Char}
    (h : nameGoesOn rest = false) (offset : Nat) :
    commandPlaces offset (kind.command ++ rest) =
      (kind, offset) :: commandPlaces (offset + byteLength kind.command) rest := by
  have hk : commandAt? (kind.command ++ rest) = some kind :=
    commandAt?_eq_some_iff.2 ⟨rest, rfl, h⟩
  have htail : '\\' ∉ kind.command.tail := by cases kind <;> decide
  rw [kind.command_eq_cons, List.cons_append] at hk ⊢
  rw [commandPlaces_cons_some hk, commandPlaces_append htail, byteLength_cons, Nat.add_assoc]

/-! ## 2. The next token -/

theorem brace_ne_backslash {b : Char} (h : isBrace b = true) : b ≠ '\\' := by
  rintro rfl
  exact absurd h (by decide)

/-- A plain token is a backslash with a brace, or one character that is no backslash before a
    brace. -/
theorem plainToken_cases (c : Char) (cs : List Char) :
    (∃ b rest, c = '\\' ∧ cs = b :: rest ∧ isBrace b = true ∧
        plainToken c cs = (.escaped b, rest)) ∨
      (c = '\\' → cs.head?.any isBrace = false) ∧ plainToken c cs = (.char c, cs) := by
  cases cs with
  | nil => exact Or.inr ⟨fun _ => rfl, rfl⟩
  | cons b rest =>
    by_cases h : (c = '\\' && isBrace b) = true
    · obtain ⟨hc, hb⟩ := Bool.and_eq_true_iff.1 h
      exact Or.inl ⟨b, rest, of_decide_eq_true hc, rfl, hb, by simp only [plainToken, h, if_true]⟩
    · refine Or.inr ⟨?_, by simp only [plainToken, h, if_false, Bool.false_eq_true]⟩
      intro hc
      simpa [hc] using h

/-- The next token is a command exactly where a control word stands. -/
theorem nextToken_cases (c : Char) (cs : List Char) :
    (∃ kind rest, c :: cs = kind.command ++ rest ∧ nameGoesOn rest = false ∧
        nextToken c cs = (.command kind, rest)) ∨
      commandAt? (c :: cs) = none ∧ nextToken c cs = plainToken c cs := by
  unfold nextToken
  split
  · next rest h =>
    obtain ⟨he, hn⟩ := regionCommand?_eq_some_iff.1 h
    exact Or.inl ⟨.footnote, rest, he, hn, rfl⟩
  · next rest _ h =>
    obtain ⟨he, hn⟩ := regionCommand?_eq_some_iff.1 h
    exact Or.inl ⟨.caption, rest, he, hn, rfl⟩
  · next hf hc =>
    refine Or.inr ⟨?_, rfl⟩
    rw [commandAt?, hf, hc]
    rfl

/-- Where a control word stands, its command is the next token. -/
theorem nextToken_command {kind : RegionKind} {rest : List Char} {c : Char} {cs : List Char}
    (hcs : c :: cs = kind.command ++ rest) (h : nameGoesOn rest = false) :
    nextToken c cs = (.command kind, rest) := by
  have hk : commandAt? (c :: cs) = some kind := commandAt?_eq_some_iff.2 ⟨rest, hcs, h⟩
  rcases nextToken_cases c cs with ⟨k, more, he, hn, hnext⟩ | ⟨hnone, -⟩
  · have hkind : k = kind := by
      rw [commandAt?_eq_some_iff.2 ⟨more, he, hn⟩] at hk
      exact Option.some.inj hk
    subst hkind
    rw [hnext, List.append_cancel_left (he.symm.trans hcs)]
  · rw [hnone] at hk
    cases hk

/-- A brace behind a backslash is read with it. -/
theorem nextToken_escaped {b : Char} (hb : isBrace b = true) (cs : List Char) :
    nextToken '\\' (b :: cs) = (.escaped b, cs) := by
  rcases nextToken_cases '\\' (b :: cs) with ⟨kind, rest, he, -, -⟩ | ⟨-, hnext⟩
  · cases kind with
    | footnote => rw [(List.cons.inj (List.cons.inj he).2).1] at hb; cases hb
    | caption => rw [(List.cons.inj (List.cons.inj he).2).1] at hb; cases hb
  · rcases plainToken_cases '\\' (b :: cs) with ⟨b', rest, -, hcs, -, hplain⟩ | ⟨hno, -⟩
    · obtain ⟨rfl, rfl⟩ := List.cons.inj hcs
      rw [hnext, hplain]
    · rw [List.head?_cons, Option.any_some, hb] at hno
      cases hno rfl

/-- Any other character is a token of its own. -/
theorem nextToken_char {c : Char} {cs : List Char} (hnone : commandAt? (c :: cs) = none)
    (hbrace : c = '\\' → cs.head?.any isBrace = false) : nextToken c cs = (.char c, cs) := by
  rcases nextToken_cases c cs with ⟨kind, rest, he, hn, -⟩ | ⟨-, hnext⟩
  · rw [commandAt?_eq_some_iff.2 ⟨rest, he, hn⟩] at hnone
    cases hnone
  · rcases plainToken_cases c cs with ⟨b, rest, hc, hcs, hb, -⟩ | ⟨-, hplain⟩
    · have hno := hbrace hc
      rw [hcs, List.head?_cons, Option.any_some, hb] at hno
      cases hno
    · rw [hnext, hplain]

/-! ## 3. All tokens -/

/-- The tokens of a text with a region command at its front. -/
theorem tokens_command (kind : RegionKind) {rest : List Char} (h : nameGoesOn rest = false) :
    tokens (kind.command ++ rest) = .command kind :: tokens rest := by
  have hnext : nextToken '\\' (kind.command.tail ++ rest) = (.command kind, rest) := by
    refine nextToken_command ?_ h
    rw [← List.cons_append, ← kind.command_eq_cons]
  rw [kind.command_eq_cons, List.cons_append, tokens_cons, hnext]

/-- A character that is no backslash is a token. -/
theorem tokens_char {c : Char} (h : c ≠ '\\') (cs : List Char) :
    tokens (c :: cs) = .char c :: tokens cs := by
  rw [tokens_cons, nextToken_char (commandAt?_of_ne h cs) fun hc => absurd hc h]

/-- No token is a lone brace behind a backslash; `previous` stands before the tokens. -/
def WellSpelled (previous : Char) : List Token → Prop
  | [] => True
  | .command _ :: ts => WellSpelled ' ' ts
  | .escaped b :: ts => isBrace b = true ∧ WellSpelled b ts
  | .char c :: ts => (previous = '\\' → isBrace c = false) ∧ WellSpelled c ts

/-- The command tokens among tokens that begin at a byte, and the bytes at which they stand. -/
def tokenPlaces (offset : Nat) : List Token → List (RegionKind × Nat)
  | [] => []
  | .command kind :: ts => (kind, offset) :: tokenPlaces (offset + byteLength kind.command) ts
  | .escaped b :: ts => tokenPlaces (offset + byteLength ['\\', b]) ts
  | .char c :: ts => tokenPlaces (offset + byteLength [c]) ts

theorem wellSpelled_of_ne {p q : Char} (hq : q ≠ '\\') {ts : List Token}
    (h : WellSpelled p ts) : WellSpelled q ts := by
  cases ts with
  | nil => trivial
  | cons t ts =>
    cases t with
    | command kind => exact h
    | escaped b => exact h
    | char c => exact ⟨fun he => absurd he hq, h.2⟩

/-- **The tokens of a text are well spelled.** -/
theorem wellSpelled_tokens (cs : List Char) {previous : Char}
    (h : previous = '\\' → cs.head?.any isBrace = false) : WellSpelled previous (tokens cs) := by
  induction hn : cs.length using Nat.strongRecOn generalizing cs previous with
  | _ n ih =>
    cases cs with
    | nil => rw [tokens_nil]; trivial
    | cons c cs =>
      have hl := nextToken_length c cs
      rw [tokens_cons]
      rcases nextToken_cases c cs with ⟨kind, rest, -, -, he⟩ | ⟨-, he⟩
      · rw [he] at hl ⊢
        exact ih _ (hn ▸ hl) rest (fun e => absurd e (by decide)) rfl
      · rcases plainToken_cases c cs with ⟨b, rest, -, -, hb, hp⟩ | ⟨hs, hp⟩
        · rw [he, hp] at hl ⊢
          exact ⟨hb, ih _ (hn ▸ hl) rest (fun e => absurd e (brace_ne_backslash hb)) rfl⟩
        · rw [he, hp] at hl ⊢
          exact ⟨fun e => by simpa using h e, ih _ (hn ▸ hl) cs hs rfl⟩

/-- **The control words of a text are its command tokens**, one for one and in order. -/
theorem commandPlaces_eq (cs : List Char) (offset : Nat) :
    commandPlaces offset cs = tokenPlaces offset (tokens cs) := by
  induction hn : cs.length using Nat.strongRecOn generalizing cs offset with
  | _ n ih =>
    cases cs with
    | nil => rw [tokens_nil]; rfl
    | cons c cs =>
      have hl := nextToken_length c cs
      rw [tokens_cons]
      rcases nextToken_cases c cs with ⟨kind, rest, hs, hg, he⟩ | ⟨hnone, he⟩
      · rw [he] at hl ⊢
        rw [hs, commandPlaces_command hg, tokenPlaces, ih _ (hn ▸ hl) rest _ rfl]
      · rcases plainToken_cases c cs with ⟨b, rest, rfl, rfl, hb, hp⟩ | ⟨-, hp⟩
        · rw [he, hp] at hl ⊢
          rw [commandPlaces_cons_none hnone,
            commandPlaces_cons_none (commandAt?_of_ne (brace_ne_backslash hb) _), tokenPlaces,
            ih _ (hn ▸ hl) rest _ rfl]
          simp [Nat.add_assoc]
        · rw [he, hp] at hl ⊢
          rw [commandPlaces_cons_none hnone, tokenPlaces, ih _ (hn ▸ hl) cs _ rfl]
          simp

/-! ## 4. Reading arguments token by token -/

theorem sourceOf_cons (t : Token) (ts : List Token) :
    sourceOf (t :: ts) = t.source ++ sourceOf ts :=
  List.flatMap_cons

/-- **What one token does to the text of an argument**: it ends the text, as a command or as its
    closing brace, or it is part of the text. A character that is no brace leaves the depth. -/
theorem readText_cons (depth : Nat) (t : Token) :
    ((∃ kind, t = .command kind) ∧ ∀ ts, readText depth (t :: ts) = ([], false, t :: ts)) ∨
      (t = .char '\x7d' ∧ ∀ ts, readText depth (t :: ts) = ([], true, ts)) ∨
      (∀ kind, t ≠ .command kind) ∧ ∃ inner,
        (∀ c, t = .char c → isBrace c = false → inner = depth) ∧ ∀ ts, readText depth (t :: ts) =
          (t.source ++ (readText inner ts).1, (readText inner ts).2) := by
  cases t with
  | command kind => exact Or.inl ⟨⟨kind, rfl⟩, fun ts => by rw [readText]⟩
  | escaped b =>
    refine Or.inr (Or.inr ⟨fun _ ht => (by cases ht), depth, fun _ _ _ => rfl, fun ts => ?_⟩)
    rw [readText]
    rfl
  | char c =>
    by_cases hclose : (c = '\x7d' && depth ≤ 1) = true
    · have hc : c = '\x7d' := of_decide_eq_true (Bool.and_eq_true_iff.1 hclose).1
      exact Or.inr (Or.inl ⟨hc ▸ rfl, fun ts => by rw [readText, if_pos hclose]⟩)
    · refine Or.inr (Or.inr ⟨fun _ ht => (by cases ht), if c = '\x7b' then depth + 1 else
        if c = '\x7d' then depth - 1 else depth, fun d hd hbrace => ?_, fun ts => ?_⟩)
      · have hno : c ≠ '\x7b' ∧ c ≠ '\x7d' := by
          rw [← Token.char.inj hd] at hbrace
          simpa [isBrace] using hbrace
        rw [if_neg hno.1, if_neg hno.2]
      · rw [readText, if_neg hclose]
        rfl

/-- An argument with a brace is read up to the brace that closes it. -/
theorem readArgument_opened (kind : RegionKind) {ts rest : List Token} {c : Char}
    (h : ts.dropWhile isGapToken = .char c :: rest) :
    readArgument kind ts =
      (⟨kind, sourceOf (ts.takeWhile isGapToken), true, (readText 1 rest).1, (readText 1 rest).2.1⟩,
        (readText 1 rest).2.2) := by
  rw [readArgument, h]

/-- An argument without a brace is all text up to the next command. -/
theorem readArgument_unopened (kind : RegionKind) {ts : List Token}
    (h : ∀ c rest, ts.dropWhile isGapToken ≠ .char c :: rest) :
    readArgument kind ts =
      (⟨kind, [], false, sourceOf (ts.takeWhile isGapToken), false⟩, ts.dropWhile isGapToken) := by
  unfold readArgument
  split
  · next c rest hopened => exact absurd hopened (h c rest)
  · rfl

theorem kind_readArgument (kind : RegionKind) (ts : List Token) :
    (readArgument kind ts).1.kind = kind := by
  unfold readArgument
  split
  · rfl
  · rfl

end Galley.Markup
