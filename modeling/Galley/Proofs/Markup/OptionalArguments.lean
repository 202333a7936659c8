import Galley.Proofs.Markup.LineBreaks

/-!
# Optional arguments

Between a region command and its argument there can be an optional argument in brackets, as the
short form of a caption. The reader goes from the command to the first brace that groups, and takes
no notice of brackets. So an optional argument without groups is passed over, and the region is the
argument behind it; one with a group gives the region itself: its first group is the text, and all
that stands behind this group is body text. Main statement: `optionalArgument_iff`.
-/

namespace Galley.Markup

open Galley.Text

/-- A region command with an optional argument before its argument, as it is written. -/
def commandWith (kind : RegionKind) (optional text : List Char) : List Char :=
  kind.command ++ '[' :: (optional ++ ']' :: '\x7b' :: (text ++ ['\x7d']))

/-- The regions of one kind in a text. -/
def RegionKind.regionsIn : RegionKind → List Char → List Region
  | .footnote => footnotes
  | .caption => captions

/-- A text has one region of the given kind, which holds `text`, and its body is `rest`. -/
def HasOnly (kind : RegionKind) (cs text rest : List Char) : Prop :=
  (kind.regionsIn cs).map Region.text = [text] ∧ body cs = rest

/-! ## 1. Texts without control words -/

theorem command_not_mem_of_tokenPlaces {ts : List Token} {offset : Nat}
    (h : tokenPlaces offset ts = []) : ∀ kind, Token.command kind ∉ ts := by
  induction ts generalizing offset with
  | nil => intro kind; exact List.not_mem_nil
  | cons t ts ih =>
    intro kind
    rw [List.mem_cons, not_or]
    cases t with
    | command k => cases h
    | escaped b => exact ⟨Token.noConfusion, ih h kind⟩
    | char c => exact ⟨Token.noConfusion, ih h kind⟩

/-- A text without control words has no command among its tokens. -/
theorem command_not_mem_tokens {cs : List Char} (h : commandPlaces 0 cs = []) :
    ∀ kind, Token.command kind ∉ tokens cs :=
  command_not_mem_of_tokenPlaces ((commandPlaces_eq cs 0).symm.trans h)

/-- Two texts without control words make none, when a character stands between them that is in no
    control word. -/
theorem commandPlaces_eq_nil_of_apart {a b : List Char} {x : Char}
    (hx : ∀ kind : RegionKind, x ∉ kind.command) (ha : commandPlaces 0 a = [])
    (hb : commandPlaces 0 b = []) : commandPlaces 0 (a ++ x :: b) = [] := by
  rw [List.eq_nil_iff_forall_not_mem]
  rintro ⟨kind, place⟩ h
  obtain ⟨before, rest, hword, hn, -⟩ := exists_of_mem_commandPlaces h
  rw [← List.append_assoc] at hword
  rcases append_eq_append_cons hword.symm with ⟨between, hfront, hrest⟩ | ⟨between, hfront, hrest⟩
  · rcases append_eq_append_cons hfront with ⟨more, -, hmore⟩ | ⟨more, -, hcommand⟩
    · -- the word stands behind the character
      have hmem := @mem_commandPlaces more kind _ hn 0
      rw [← List.append_assoc, ← hmore, ← hrest, hb] at hmem
      cases hmem
    · exact hx kind (by rw [hcommand]; simp)
  · -- the word stands before the character
    rw [hrest] at hn
    have hmem := @mem_commandPlaces before kind _ (nameGoesOn_of_append hn) 0
    rw [← List.append_assoc, ← hfront, ha] at hmem
    cases hmem

/-- A part of a text without control words has none, when no letter stands behind it. -/
theorem commandPlaces_within {before part behind : List Char} {x : Char} (hx : x.isAlpha = false)
    (h : commandPlaces 0 (before ++ (part ++ x :: behind)) = []) : commandPlaces 0 part = [] := by
  rw [List.eq_nil_iff_forall_not_mem]
  rintro ⟨kind, place⟩ hmem
  obtain ⟨front, rest, rfl, hn, -⟩ := exists_of_mem_commandPlaces hmem
  have hname : nameGoesOn (rest ++ x :: behind) = false := by
    cases rest with
    | nil => exact hx
    | cons c rest => exact hn
  have hword := @mem_commandPlaces (before ++ front) kind _ hname 0
  rw [List.append_assoc, List.append_assoc] at h
  rw [List.append_assoc, h] at hword
  cases hword

/-- Tokens without commands are body text. -/
theorem pieces_of_no_command {ts : List Token} (h : ∀ kind, Token.command kind ∉ ts)
    (offset : Nat) :
    regionsFrom offset (piecesOf ts) = [] ∧ (piecesOf ts).flatMap Piece.body? = sourceOf ts := by
  induction ts generalizing offset with
  | nil =>
    rw [piecesOf]
    exact ⟨rfl, rfl⟩
  | cons t ts ih =>
    have hts : ∀ kind, Token.command kind ∉ ts := fun kind hm =>
      h kind (List.mem_cons_of_mem t hm)
    cases t with
    | command kind => exact absurd List.mem_cons_self (h kind)
    | escaped b =>
      obtain ⟨hregions, hbody⟩ := ih hts (offset + byteLength ['\\', b])
      rw [piecesOf]
      exact ⟨hregions, congrArg (['\\', b] ++ ·) hbody⟩
    | char c =>
      obtain ⟨hregions, hbody⟩ := ih hts (offset + byteLength [c])
      rw [piecesOf]
      exact ⟨hregions, congrArg ([c] ++ ·) hbody⟩

/-! ## 2. Up to the first brace that groups -/

/-- The tokens of a gap, before a brace and `rest`: no commands and no opening braces. -/
structure GapTokens (gap rest : List Char) (ts : List Token) : Prop where
  split : tokens (gap ++ '\x7b' :: rest) = ts ++ .char '\x7b' :: tokens rest
  passed : ∀ t ∈ ts, isGapToken t = true
  source : sourceOf ts = gap

theorem GapTokens.cons {t : Token} {gap rest : List Char} {ts : List Token}
    (h : GapTokens gap rest ts) (ht : isGapToken t = true)
    (hnext : tokens (t.source ++ gap ++ '\x7b' :: rest) = t :: tokens (gap ++ '\x7b' :: rest)) :
    GapTokens (t.source ++ gap) rest (t :: ts) where
  split := hnext.trans (congrArg (t :: ·) h.split)
  passed := List.forall_mem_cons.2 ⟨ht, h.passed⟩
  source := congrArg (t.source ++ ·) h.source

/-- Text in which no opening brace groups is passed over as a whole; `previous` stands before
    it. -/
theorem exists_gapTokens {gap rest : List Char} {previous : Char}
    (hno : ∀ kind, Token.command kind ∉ tokens (gap ++ '\x7b' :: rest))
    (hprevious : previous = '\\' → gap.head?.any isBrace = false)
    (hgap : '\x7b' ∉ unescaped previous gap) (hlast : (previous :: gap).getLast? ≠ some '\\') :
    ∃ ts, GapTokens gap rest ts := by
  -- an escaped brace takes two characters at once, so the induction is on the length
  induction h : gap.length using Nat.strongRecOn generalizing gap previous with
  | _ n ih =>
    cases gap with
    | nil => exact ⟨[], tokens_char (by decide) rest, by simp, rfl⟩
    | cons c gap =>
      have htokens := tokens_cons c (gap ++ '\x7b' :: rest)
      rcases nextToken_cases c (gap ++ '\x7b' :: rest) with ⟨kind, more, -, -, hnext⟩ | ⟨-, hnext⟩
      · rw [hnext] at htokens
        exact absurd (by rw [List.cons_append, htokens]; exact List.mem_cons_self) (hno kind)
      rcases plainToken_cases c (gap ++ '\x7b' :: rest) with
        ⟨b, more, rfl, hmore, hb, hplain⟩ | ⟨hbrace, hplain⟩
      · cases gap with
        | nil => exact absurd (by rw [List.getLast?_cons_cons]; rfl) hlast
        | cons d gap =>
          obtain ⟨rfl, rfl⟩ := List.cons.inj hmore
          rw [hnext, hplain] at htokens
          rw [← List.count_eq_zero, count_unescaped_escaped (by decide), List.count_eq_zero] at hgap
          rw [List.getLast?_cons_cons, List.getLast?_cons_cons] at hlast
          have hinner : ∀ kind, Token.command kind ∉ tokens (gap ++ '\x7b' :: rest) :=
            fun kind hm => hno kind (htokens ▸ List.mem_cons_of_mem _ hm)
          have hshorter : gap.length < n := by
            rw [← h]
            simp only [List.length_cons]
            omega
          obtain ⟨ts, hts⟩ := ih gap.length hshorter hinner
            (fun he => absurd he (brace_ne_backslash hb)) hgap hlast rfl
          exact ⟨.escaped d :: ts, hts.cons (t := .escaped d) rfl htokens⟩
      · rw [hnext, hplain] at htokens
        have hopen : c ≠ '\x7b' := by
          rintro rfl
          by_cases hp : previous = '\\'
          · exact Bool.noConfusion (hprevious hp)
          · rw [unescaped, if_neg hp] at hgap
            exact hgap List.mem_cons_self
        have hrest : '\x7b' ∉ unescaped c gap := by
          rw [unescaped] at hgap
          split at hgap
          · exact hgap
          · exact fun hm => hgap (List.mem_cons_of_mem c hm)
        have hhead : c = '\\' → gap.head?.any isBrace = false := by
          intro hc
          cases gap with
          | nil => rfl
          | cons d gap => exact hbrace hc
        rw [List.getLast?_cons_cons] at hlast
        have hinner : ∀ kind, Token.command kind ∉ tokens (gap ++ '\x7b' :: rest) := fun kind hm =>
          hno kind (htokens ▸ List.mem_cons_of_mem _ hm)
        obtain ⟨ts, hts⟩ := ih gap.length (by rw [← h]; exact Nat.lt_succ_self _) hinner hhead hrest
          hlast rfl
        exact ⟨.char c :: ts, hts.cons (t := .char c) (by simpa [isGapToken] using hopen) htokens⟩

/-- Somewhere an opening brace groups, so there is a first place where one does. -/
theorem exists_first_group {cs : List Char} {previous : Char}
    (h : '\x7b' ∈ unescaped previous cs) : ∃ front rest, cs = front ++ '\x7b' :: rest ∧
      '\x7b' ∉ unescaped previous front ∧ (previous :: front).getLast? ≠ some '\\' := by
  induction cs generalizing previous with
  | nil => cases h
  | cons c cs ih =>
    have hlater : '\x7b' ∈ unescaped c cs → (previous ≠ '\\' → c ≠ '\x7b') →
        ∃ front rest, c :: cs = front ++ '\x7b' :: rest ∧
          '\x7b' ∉ unescaped previous front ∧ (previous :: front).getLast? ≠ some '\\' := by
      intro hmem hc
      obtain ⟨front, rest, rfl, hfront, hlast⟩ := ih hmem
      refine ⟨c :: front, rest, rfl, ?_, by rwa [List.getLast?_cons_cons]⟩
      rw [unescaped]
      split
      · exact hfront
      · next hp =>
        rw [List.mem_cons, not_or]
        exact ⟨(hc hp).symm, hfront⟩
    rw [unescaped] at h
    split at h
    · next hp => exact hlater h fun hne => absurd hp hne
    · next hp =>
      by_cases hc : c = '\x7b'
      · exact ⟨[], cs, by rw [hc]; rfl, List.not_mem_nil, by simpa using hp⟩
      · exact hlater ((List.mem_cons.1 h).resolve_left (Ne.symm hc)) fun _ => hc

/-! ## 3. What is read behind a gap -/

section Gap

variable {kind : RegionKind} {gap rest : List Char}
  (hname : nameGoesOn (gap ++ '\x7b' :: rest) = false) (hgap : '\x7b' ∉ unescaped ' ' gap)
  (hlast : (' ' :: gap).getLast? ≠ some '\\')
  (hno : commandPlaces 0 (gap ++ '\x7b' :: rest) = [])

include hgap hlast hno

/-- An argument begins at the first brace that groups. -/
theorem readArgument_gap :
    readArgument kind (tokens (gap ++ '\x7b' :: rest)) =
      (⟨kind, gap, true, (readText 1 (tokens rest)).1, (readText 1 (tokens rest)).2.1⟩,
        (readText 1 (tokens rest)).2.2) := by
  obtain ⟨ts, htokens, hts, hsource⟩ := exists_gapTokens (command_not_mem_tokens hno)
    (fun h => absurd h (by decide)) hgap hlast
  have htake : (ts ++ .char '\x7b' :: tokens rest).takeWhile isGapToken = ts := by
    rw [List.takeWhile_append_of_pos hts, List.takeWhile_cons_of_neg (by decide), List.append_nil]
  have hdrop : (ts ++ .char '\x7b' :: tokens rest).dropWhile isGapToken =
      .char '\x7b' :: tokens rest := by
    rw [List.dropWhile_append_of_pos hts, List.dropWhile_cons_of_neg (by decide)]
  rw [readArgument, htokens, htake, hdrop, hsource]

include hname

/-- **The region of a command is what is read behind the first brace that groups**, and what is
    left of the text is body. -/
theorem hasOnly_gap :
    HasOnly kind (kind.command ++ (gap ++ '\x7b' :: rest)) (readText 1 (tokens rest)).1
      (sourceOf (readText 1 (tokens rest)).2.2) := by
  have hpieces : pieces (kind.command ++ (gap ++ '\x7b' :: rest)) =
      .region ⟨kind, gap, true, (readText 1 (tokens rest)).1, (readText 1 (tokens rest)).2.1⟩ ::
        piecesOf (readText 1 (tokens rest)).2.2 := by
    rw [pieces, tokens_command kind hname, piecesOf, readArgument_gap hgap hlast hno]
  have hleft : ∀ k, Token.command k ∉ (readText 1 (tokens rest)).2.2 := by
    obtain ⟨ts, htokens, -, -⟩ := exists_gapTokens (command_not_mem_tokens hno)
      (fun h => absurd h (by decide)) hgap hlast
    obtain ⟨used, hused, -⟩ := readText_used (tokens rest) 1
    intro k hm
    refine command_not_mem_tokens hno k ?_
    rw [htokens, hused]
    exact List.mem_append_right _ (List.mem_cons_of_mem _ (List.mem_append_right _ hm))
  have hregions : (regions (kind.command ++ (gap ++ '\x7b' :: rest))).map
      (fun r => (r.kind, r.text)) = [(kind, (readText 1 (tokens rest)).1)] := by
    rw [regions, hpieces, regionsFrom, (pieces_of_no_command hleft _).1]
    rfl
  constructor
  · obtain ⟨r, hr, hpair⟩ := List.map_eq_singleton_iff.1 hregions
    obtain ⟨rfl, htext⟩ := Prod.mk.inj hpair
    cases hk : r.kind with
    | footnote => simp [RegionKind.regionsIn, footnotes, ← hk, hr, htext]
    | caption => simp [RegionKind.regionsIn, captions, ← hk, hr, htext]
  · rw [body, hpieces, List.flatMap_cons, (pieces_of_no_command hleft 0).2]
    rfl

end Gap

/-- A balanced text that does not end with a backslash is read up to the brace behind it. -/
theorem read_whole {text : List Char} (htext : commandPlaces 0 text = [])
    (hbalanced : Balanced text) (hlast : text.getLast? ≠ some '\\') (rest : List Char) :
    (argumentRead text rest).1 = text ∧ sourceOf (argumentRead text rest).2.2 = rest := by
  have hread : (argumentRead text rest).1 = text := read_eq_of_balanced htext hbalanced hlast
  refine ⟨hread, ?_⟩
  have hsource := argumentRead_source text rest
  rw [hread, closed_of_read_eq hread, if_pos rfl] at hsource
  exact (List.cons.inj (List.append_cancel_left hsource)).2

/-! ## 4. Optional arguments -/

section Optional

variable {kind : RegionKind} {optional text rest : List Char}

/-- What stands behind an optional argument. -/
def behindOptional (text rest : List Char) : List Char := ']' :: '\x7b' :: (text ++ '\x7d' :: rest)

theorem commandWith_append (kind : RegionKind) (optional text rest : List Char) :
    commandWith kind optional text ++ rest =
      kind.command ++ '[' :: (optional ++ behindOptional text rest) := by
  simp [commandWith, behindOptional]

/-- No control word stands behind the command. -/
theorem commandPlaces_behind (hoptional : commandPlaces 0 optional = [])
    (htext : commandPlaces 0 text = []) (hrest : commandPlaces 0 rest = []) :
    commandPlaces 0 ('[' :: (optional ++ behindOptional text rest)) = [] := by
  have hmark : ∀ x ∈ ['[', ']', '\x7b', '\x7d'], ∀ kind : RegionKind, x ∉ kind.command := by
    intro x hx kind
    simp only [List.mem_cons, List.not_mem_nil, or_false] at hx
    rcases hx with rfl | rfl | rfl | rfl <;> cases kind <;> decide
  have harg : commandPlaces 0 (text ++ '\x7d' :: rest) = [] :=
    commandPlaces_eq_nil_of_apart (hmark _ (by decide)) htext hrest
  have hgroup : commandPlaces 0 ([] ++ '\x7b' :: (text ++ '\x7d' :: rest)) = [] :=
    commandPlaces_eq_nil_of_apart (hmark _ (by decide)) rfl harg
  have hbehind : commandPlaces 0 (optional ++ behindOptional text rest) = [] :=
    commandPlaces_eq_nil_of_apart (hmark _ (by decide)) hoptional hgroup
  exact commandPlaces_eq_nil_of_apart (a := []) (hmark _ (by decide)) rfl hbehind

theorem unescaped_congr {p q : Char} (hp : p ≠ '\\') (hq : q ≠ '\\') (cs : List Char) :
    unescaped p cs = unescaped q cs := by
  cases cs with
  | nil => rfl
  | cons c cs => rw [unescaped, unescaped, if_neg hp, if_neg hq]

/-- A bracket before a text changes nothing about the braces that group in it. -/
theorem opening_not_mem_bracket {cs : List Char} (h : '\x7b' ∉ unescaped ' ' cs) :
    '\x7b' ∉ unescaped ' ' ('[' :: cs) := by
  rw [unescaped, if_neg (by decide), unescaped_congr (q := ' ') (by decide) (by decide),
    List.mem_cons, not_or]
  exact ⟨by decide, h⟩

/-- A bracket behind a text changes nothing about the braces that group in it. -/
theorem opening_not_mem_concat {cs : List Char} (h : '\x7b' ∉ unescaped ' ' cs) :
    '\x7b' ∉ unescaped ' ' (cs ++ [']']) := by
  rw [unescaped_append, List.mem_append, not_or]
  refine ⟨h, ?_⟩
  rw [unescaped]
  split
  · exact List.not_mem_nil
  · decide

/-- Two readings of a text as one region and a body are the same. -/
theorem HasOnly.unique {cs text' rest' : List Char} (h : HasOnly kind cs text rest)
    (h' : HasOnly kind cs text' rest') : text = text' ∧ rest = rest' := by
  obtain ⟨htext, hbody⟩ := h
  obtain ⟨htext', hbody'⟩ := h'
  exact ⟨List.singleton_inj.1 (htext.symm.trans htext'), hbody.symm.trans hbody'⟩

/-- **An optional argument without groups is passed over.** -/
theorem hasOnly_of_no_group
    (hno : commandPlaces 0 ('[' :: (optional ++ behindOptional text rest)) = [])
    (h : '\x7b' ∉ unescaped ' ' optional) :
    HasOnly kind (commandWith kind optional text ++ rest) (argumentRead text rest).1
      (sourceOf (argumentRead text rest).2.2) := by
  have hsplit : '[' :: (optional ++ behindOptional text rest) =
      ('[' :: (optional ++ [']'])) ++ '\x7b' :: (text ++ '\x7d' :: rest) := by
    simp [behindOptional]
  rw [commandWith_append]
  rw [hsplit] at hno ⊢
  have hend : (' ' :: '[' :: (optional ++ [']'])).getLast? ≠ some '\\' := by
    rw [← List.cons_append, ← List.cons_append, List.getLast?_concat]
    decide
  exact hasOnly_gap rfl (opening_not_mem_bracket (opening_not_mem_concat h)) hend hno

/-- **Of an optional argument with a group the region begins at the first one.** -/
theorem hasOnly_of_group {front more : List Char}
    (hno : commandPlaces 0 ('[' :: (optional ++ behindOptional text rest)) = [])
    (he : optional = front ++ '\x7b' :: more) (h : '\x7b' ∉ unescaped ' ' front)
    (hlast : front.getLast? ≠ some '\\') :
    HasOnly kind (commandWith kind optional text ++ rest)
      (readText 1 (tokens (more ++ behindOptional text rest))).1
      (sourceOf (readText 1 (tokens (more ++ behindOptional text rest))).2.2) := by
  have hsplit : '[' :: (optional ++ behindOptional text rest) =
      ('[' :: front) ++ '\x7b' :: (more ++ behindOptional text rest) := by
    rw [he]
    simp
  have hend : (' ' :: '[' :: front).getLast? ≠ some '\\' := by
    cases front with
    | nil => decide
    | cons c front =>
      rw [List.getLast?_cons_cons, List.getLast?_cons_cons]
      exact hlast
  rw [commandWith_append]
  rw [hsplit] at hno ⊢
  exact hasOnly_gap rfl (opening_not_mem_bracket h) hend hno

/-- **An optional argument is passed over exactly when it has no group.** Of a region command with
    an optional argument the region holds the argument behind it, and the body is what follows,
    exactly when no brace opens a group in the optional argument and the argument is balanced to
    the reader, without a backslash at its end. Where the optional argument has groups, the first
    of them is the region, and what stands behind it is body: the rest of the optional argument,
    the argument and what follows. -/
theorem optionalArgument_iff (kind : RegionKind) (hoptional : commandPlaces 0 optional = [])
    (htext : commandPlaces 0 text = []) (hrest : commandPlaces 0 rest = []) :
    (HasOnly kind (commandWith kind optional text ++ rest) text rest ↔
        '\x7b' ∉ unescaped ' ' optional ∧ Balanced text ∧ text.getLast? ≠ some '\\') ∧
      ∀ front group back, optional = front ++ '\x7b' :: (group ++ '\x7d' :: back) →
        '\x7b' ∉ unescaped ' ' front → front.getLast? ≠ some '\\' →
        Balanced group → group.getLast? ≠ some '\\' →
          HasOnly kind (commandWith kind optional text ++ rest) group
            (back ++ behindOptional text rest) := by
  have hno := commandPlaces_behind hoptional htext hrest
  refine ⟨⟨fun h => ?_, fun ⟨hgroup, hbalanced, hlast⟩ => ?_⟩, ?_⟩
  · have hgroup : '\x7b' ∉ unescaped ' ' optional := by
      intro hmem
      obtain ⟨front, more, he, hfront, hlast⟩ := exists_first_group hmem
      have hend : front.getLast? ≠ some '\\' := fun hend =>
        hlast (by rw [List.getLast?_cons, hend]; rfl)
      obtain ⟨hread, hbody⟩ := h.unique (hasOnly_of_group hno he hfront hend)
      -- what is read and what is left are longer than the argument and what follows
      have hsource := readText_source 1 (tokens (more ++ behindOptional text rest))
      rw [← hread, ← hbody, source_tokens] at hsource
      have hlength := congrArg List.length hsource
      split at hlength <;> simp [behindOptional] at hlength <;> omega
    obtain ⟨hread, -⟩ := h.unique (hasOnly_of_no_group hno hgroup)
    exact ⟨hgroup, (read_eq_iff htext rest).1 hread.symm⟩
  · have h := @hasOnly_of_no_group kind _ _ _ hno hgroup
    obtain ⟨hread, hbody⟩ := read_whole htext hbalanced hlast rest
    rwa [hread, hbody] at h
  · intro front group back he hfront hlast hbalanced hend
    have h := @hasOnly_of_group kind _ text rest _ _ hno he hfront hlast
    have hsplit : group ++ '\x7d' :: back ++ behindOptional text rest =
        group ++ '\x7d' :: (back ++ behindOptional text rest) := by simp
    have hwords : commandPlaces 0 group = [] := by
      have hwithin : optional = (front ++ ['\x7b']) ++ (group ++ '\x7d' :: back) := by
        rw [he]
        simp
      exact commandPlaces_within (by decide) (hwithin ▸ hoptional)
    obtain ⟨hread, hbody⟩ := read_whole hwords hbalanced hend (back ++ behindOptional text rest)
    rw [argumentRead] at hread hbody
    rwa [hsplit, hread, hbody] at h

end Optional

/-- A short caption with an escaped brace in it is passed over. -/
theorem optionalArgument_escapedBrace :
    commandPlaces 0 "a \\\x7b [b".toList = [] ∧ commandPlaces 0 "c \x7bd\x7d".toList = [] ∧
      commandPlaces 0 "\x7d e".toList = [] ∧
      HasOnly .caption
        (commandWith .caption "a \\\x7b [b".toList "c \x7bd\x7d".toList ++ "\x7d e".toList)
        "c \x7bd\x7d".toList "\x7d e".toList := by
  have hoptional : commandPlaces 0 "a \\\x7b [b".toList = [] := by decide +kernel
  have htext : commandPlaces 0 "c \x7bd\x7d".toList = [] := by decide +kernel
  have hrest : commandPlaces 0 "\x7d e".toList = [] := by decide +kernel
  have hbalanced : Balanced "c \x7bd\x7d".toList :=
    (balanced_iff_depthAfter (by decide +kernel)).2 (by decide +kernel)
  refine ⟨hoptional, htext, hrest, ?_⟩
  exact (optionalArgument_iff .caption hoptional htext hrest).1.2
    ⟨by decide +kernel, hbalanced, by decide +kernel⟩

/-- **A short caption with a formatting command in it becomes the caption.** -/
theorem not_hasOnly_emphasizedShort :
    ¬ ∀ (kind : RegionKind) (optional text rest : List Char), ']' ∉ optional →
      Balanced optional → Balanced text → BracesGroup optional →
      BracesGroup (text ++ ['\x7d']) →
      commandPlaces 0 optional = [] → commandPlaces 0 text = [] → commandPlaces 0 rest = [] →
        HasOnly kind (commandWith kind optional text ++ rest) text rest := by
  intro h
  have hbalanced : Balanced "\\emph\x7bx\x7d".toList :=
    (balanced_iff_depthAfter (by decide +kernel)).2 (by decide +kernel)
  have hbody : Balanced "Body".toList :=
    (balanced_iff_depthAfter (by decide +kernel)).2 (by decide +kernel)
  obtain ⟨hread, -⟩ := h .caption "\\emph\x7bx\x7d".toList "Body".toList [] (by decide +kernel)
    hbalanced hbody (by decide +kernel) (by decide +kernel) (by decide +kernel)
    (by decide +kernel) rfl
  have hshort : (captions (commandWith .caption "\\emph\x7bx\x7d".toList "Body".toList)).map
      Region.text = ["x".toList] := by decide +kernel
  rw [List.append_nil] at hread
  have hsame := hshort.symm.trans hread
  exact absurd hsame (by decide +kernel)

end Galley.Markup
