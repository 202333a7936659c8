import Galley.Proofs.Markup.Arguments
import Mathlib.Data.List.Infix

/-!
# Line breaks before braces

To a typesetter backslashes come in pairs: two of them are a line break, and a brace is literal
only behind an odd number of them. The reader of footnotes looks at one backslash, so a brace
directly behind a line break does not group for it. Where the text of a footnote is balanced to a
typesetter, it is read whole exactly when it is balanced to the reader too and no backslash stands
at its end. Main statement: `footnoteText_eq_iff`.
-/

namespace Galley.Markup

open Galley.Text

/-! ## 1. Backslashes in pairs -/

/-- How many backslashes stand directly at the end of a text. -/
def backslashesAtEnd (cs : List Char) : Nat := (cs.reverse.takeWhile fun c => c = '\\').length

/-- The characters of a text behind `front` that no odd number of backslashes stands directly
    before. -/
def unpaired (front : List Char) : List Char → List Char
  | [] => []
  | c :: cs =>
    if backslashesAtEnd front % 2 = 1 then unpaired (front ++ [c]) cs
    else c :: unpaired (front ++ [c]) cs

/-- How often a brace groups in a text, as a typesetter reads it. -/
def grouping (brace : Char) (cs : List Char) : Nat := (unpaired [] cs).count brace

/-- To a typesetter, opening and closing braces are equal in number, and no prefix has more closing
    ones. -/
def TypesetBalanced (cs : List Char) : Prop :=
  grouping '\x7d' cs = grouping '\x7b' cs ∧
    ∀ front, front <+: cs → grouping '\x7d' front ≤ grouping '\x7b' front

/-- Somewhere in a text a line break stands directly before a brace: backslashes in pairs. -/
def BreakBeforeBrace (cs : List Char) : Prop :=
  ∃ front b rest, cs = front ++ b :: rest ∧ isBrace b = true ∧
    0 < backslashesAtEnd front ∧ backslashesAtEnd front % 2 = 0

instance (cs : List Char) : Decidable (TypesetBalanced cs) :=
  decidable_of_iff
    (grouping '\x7d' cs = grouping '\x7b' cs ∧
      ∀ front ∈ cs.inits, grouping '\x7d' front ≤ grouping '\x7b' front)
    ⟨fun h => ⟨h.1, fun front hf => h.2 front ((List.mem_inits _ _).2 hf)⟩,
      fun h => ⟨h.1, fun front hf => h.2 front ((List.mem_inits _ _).1 hf)⟩⟩

/-- A line break before a brace, told by the place of the brace. -/
theorem breakBeforeBrace_iff {cs : List Char} :
    BreakBeforeBrace cs ↔ ∃ i, i < cs.length ∧ cs[i]?.any isBrace = true ∧
      0 < backslashesAtEnd (cs.take i) ∧ backslashesAtEnd (cs.take i) % 2 = 0 := by
  constructor
  · rintro ⟨front, b, rest, rfl, hb, h⟩
    refine ⟨front.length, by simp, by simpa using hb, ?_⟩
    rwa [List.take_left]
  · rintro ⟨i, hlt, hb, h⟩
    rw [List.getElem?_eq_getElem hlt, Option.any_some] at hb
    refine ⟨cs.take i, cs[i], cs.drop (i + 1), ?_, hb, h⟩
    rw [← List.drop_eq_getElem_cons hlt, List.take_append_drop]

instance (cs : List Char) : Decidable (BreakBeforeBrace cs) :=
  decidable_of_iff _ breakBeforeBrace_iff.symm

theorem backslashesAtEnd_concat (cs : List Char) (c : Char) :
    backslashesAtEnd (cs ++ [c]) = if c = '\\' then backslashesAtEnd cs + 1 else 0 := by
  by_cases h : c = '\\' <;> simp [backslashesAtEnd, h]

theorem backslashesAtEnd_eq_zero_iff {cs : List Char} :
    backslashesAtEnd cs = 0 ↔ cs.getLast? ≠ some '\\' := by
  rcases List.eq_nil_or_concat cs with rfl | ⟨front, c, rfl⟩
  · simp [backslashesAtEnd]
  · rw [List.concat_eq_append, backslashesAtEnd_concat, List.getLast?_concat]
    by_cases h : c = '\\' <;> simp [h]

/-- Where no brace stands behind a line break, a backslash directly before a brace is what makes it
    literal. -/
theorem count_unescaped_eq_unpaired {x : Char} (hx : isBrace x = true) {cs : List Char}
    {previous : Char} {front : List Char}
    (hprevious : previous = '\\' ↔ 0 < backslashesAtEnd front)
    (h : ∀ between b rest, cs = between ++ b :: rest → isBrace b = true →
      ¬ (0 < backslashesAtEnd (front ++ between) ∧ backslashesAtEnd (front ++ between) % 2 = 0)) :
    (unescaped previous cs).count x = (unpaired front cs).count x := by
  induction cs generalizing previous front with
  | nil => rfl
  | cons c cs ih =>
    have hnext : c = '\\' ↔ 0 < backslashesAtEnd (front ++ [c]) := by
      rw [backslashesAtEnd_concat]
      split <;> simp_all
    have hrest := ih hnext fun between b rest he hb => by
      rw [List.append_assoc]
      exact h (c :: between) b rest (by rw [he]; rfl) hb
    rw [unescaped, unpaired]
    by_cases hc : isBrace c = true
    · have hbreak := h [] c cs rfl hc
      rw [List.append_nil] at hbreak
      have hsame : previous = '\\' ↔ backslashesAtEnd front % 2 = 1 := by
        rw [hprevious]
        omega
      by_cases hp : previous = '\\'
      · rw [if_pos hp, if_pos (hsame.1 hp), hrest]
      · rw [if_neg hp, if_neg (mt hsame.2 hp), List.count_cons, List.count_cons, hrest]
    · have hne : (c == x) = false := by
        rw [beq_eq_false_iff_ne]
        rintro rfl
        exact hc hx
      split <;> split <;> simp [List.count_cons, hne, hrest]

/-- **Without line breaks before braces both readings agree.** -/
theorem balanced_of_typesetBalanced {cs : List Char} (h : TypesetBalanced cs)
    (hbreak : ¬ BreakBeforeBrace cs) : Balanced cs := by
  have hcount : ∀ front, front <+: cs →
      closings front = grouping '\x7d' front ∧ openings front = grouping '\x7b' front := by
    rintro front ⟨more, rfl⟩
    have hno : ∀ between b rest, front = between ++ b :: rest → isBrace b = true →
        ¬ (0 < backslashesAtEnd ([] ++ between) ∧ backslashesAtEnd ([] ++ between) % 2 = 0) := by
      rintro between b rest rfl hb ⟨hpos, heven⟩
      exact hbreak ⟨between, b, rest ++ more, by simp, hb, hpos, heven⟩
    have hprevious : (' ' : Char) = '\\' ↔ 0 < backslashesAtEnd [] := by decide
    exact ⟨count_unescaped_eq_unpaired (by decide) hprevious hno,
      count_unescaped_eq_unpaired (by decide) hprevious hno⟩
  constructor
  · obtain ⟨hc, ho⟩ := hcount cs (List.prefix_refl cs)
    rw [hc, ho, h.1]
  · intro front hf
    obtain ⟨hc, ho⟩ := hcount front hf
    rw [hc, ho]
    exact h.2 front hf

/-! ## 2. The text of a footnote -/

/-- A footnote command with its argument, as it is written. -/
def footnoteOf (text : List Char) : List Char :=
  RegionKind.footnote.command ++ '\x7b' :: (text ++ ['\x7d'])

/-- The text of the first footnote. -/
def footnoteText? (cs : List Char) : Option (List Char) := (footnotes cs).head?.map Region.text

/-- The first footnote of a text that begins with one is what is read behind its brace. -/
theorem footnoteText?_eq (cs : List Char) :
    footnoteText? (RegionKind.footnote.command ++ '\x7b' :: cs) =
      some (readText 1 (tokens cs)).1 := by
  rw [footnoteText?, footnotes, regions, pieces, tokens_command .footnote rfl,
    tokens_char (by decide), piecesOf]
  rfl

/-! ## 3. What is read up to a closing brace -/

theorem unescaped_append (previous : Char) (cs ds : List Char) :
    unescaped previous (cs ++ ds) =
      unescaped previous cs ++ unescaped (cs.getLastD previous) ds := by
  induction cs generalizing previous with
  | nil => rfl
  | cons c cs ih =>
    rw [List.cons_append, unescaped, unescaped, ih, List.getLastD_cons]
    split <;> rfl

/-- Behind no backslash a closing brace groups. -/
theorem closings_concat {cs : List Char} (h : cs.getLast? ≠ some '\\') :
    closings (cs ++ ['\x7d']) = closings cs + 1 ∧ openings (cs ++ ['\x7d']) = openings cs := by
  have hlast : cs.getLastD ' ' ≠ '\\' := by
    rw [List.getLastD_eq_getLast?]
    cases hl : cs.getLast? with
    | none => decide
    | some c => exact fun he => h (by rw [hl, ← he]; rfl)
  have hbrace : unescaped (cs.getLastD ' ') ['\x7d'] = ['\x7d'] := by
    rw [unescaped, if_neg hlast]
    rfl
  rw [closings, closings, openings, openings, unescaped_append, hbrace, List.count_append,
    List.count_append]
  exact ⟨rfl, rfl⟩

/-- The brace that ends the text of an argument stands behind no backslash. -/
theorem getLast?_readText {ts : List Token} {depth : Nat} {previous : Char}
    (hw : WellSpelled previous ts) (hc : (readText depth ts).2.1 = true) :
    (previous :: (readText depth ts).1).getLast? ≠ some '\\' := by
  induction ts generalizing depth previous with
  | nil => simp [readText] at hc
  | cons t ts ih =>
    cases t with
    | command kind => simp [readText] at hc
    | escaped b =>
      simp only [readText] at hc ⊢
      rw [List.getLast?_cons_cons, List.getLast?_cons_cons]
      exact ih hw.2 hc
    | char c =>
      simp only [readText] at hc ⊢
      split at hc
      · next hstop =>
        have hbrace : isBrace c = true := by
          have hclose : c = '\x7d' := by simpa using (Bool.and_eq_true_iff.1 hstop).1
          rw [hclose]
          rfl
        intro hlast
        rw [if_pos hstop] at hlast
        rw [hw.1 (by simpa using hlast)] at hbrace
        cases hbrace
      · next hstop =>
        rw [if_neg hstop]
        rw [List.getLast?_cons_cons]
        exact ih hw.2 hc

/-- Reading a text to its end, or to a command, takes just the tokens that are read. -/
theorem sourceOf_used {ts : List Token} {depth : Nat} (hc : (readText depth ts).2.1 = false) :
    ∃ used, ts = used ++ (readText depth ts).2.2 ∧ (∀ kind, Token.command kind ∉ used) ∧
      sourceOf used = (readText depth ts).1 := by
  obtain ⟨used, he, hu⟩ := readText_used ts depth
  refine ⟨used, he, hu, ?_⟩
  have hs := readText_source depth ts
  rw [hc, if_neg Bool.false_ne_true, List.append_nil] at hs
  have hsplit : sourceOf ts = sourceOf used ++ sourceOf (readText depth ts).2.2 := by
    conv => lhs; rw [he]
    exact List.flatMap_append
  rw [hsplit] at hs
  exact (List.append_cancel_right hs).symm

/-- Where a control word is found, it stands. -/
theorem exists_of_mem_commandPlaces {kind : RegionKind} {place offset : Nat} {cs : List Char}
    (h : (kind, place) ∈ commandPlaces offset cs) :
    ∃ before rest, cs = before ++ (kind.command ++ rest) ∧ nameGoesOn rest = false ∧
      place = offset + byteLength before := by
  induction cs generalizing offset with
  | nil => cases h
  | cons c cs ih =>
    have hlater : (kind, place) ∈ commandPlaces (offset + c.utf8Size) cs →
        ∃ before rest, c :: cs = before ++ (kind.command ++ rest) ∧ nameGoesOn rest = false ∧
          place = offset + byteLength before := by
      intro h
      obtain ⟨before, rest, rfl, hn, hplace⟩ := ih h
      refine ⟨c :: before, rest, rfl, hn, ?_⟩
      rw [hplace, byteLength_cons, Nat.add_assoc]
    cases hk : commandAt? (c :: cs) with
    | none =>
      rw [commandPlaces_cons_none hk] at h
      exact hlater h
    | some k =>
      rw [commandPlaces_cons_some hk] at h
      rcases List.mem_cons.1 h with he | h
      · obtain ⟨rfl, rfl⟩ := Prod.mk.inj he
        obtain ⟨rest, hcs, hn⟩ := commandAt?_eq_some_iff.1 hk
        exact ⟨[], rest, hcs, hn, rfl⟩
      · exact hlater h

/-- A name that does not go on before a brace does not go on at all. -/
theorem nameGoesOn_of_append {cs : List Char} {b : Char} {rest : List Char}
    (h : nameGoesOn (cs ++ b :: rest) = false) : nameGoesOn cs = false := by
  cases cs with
  | nil => rfl
  | cons c cs => exact h

/-- A control word that begins in a text, behind which a brace stands, stands in the text. -/
theorem mem_commandPlaces_of_brace {kind : RegionKind} {text behind rest : List Char} {x : Char}
    (h : (kind, byteLength text) ∈ commandPlaces 0 (text ++ x :: behind ++ '\x7d' :: rest)) :
    (kind, byteLength text) ∈ commandPlaces 0 (text ++ x :: behind) := by
  obtain ⟨before, more, hword, hn, hplace⟩ := exists_of_mem_commandPlaces h
  rw [Nat.zero_add] at hplace
  rw [List.append_assoc] at hword
  obtain ⟨-, hahead⟩ := append_inj_of_byteLength hword hplace
  rcases append_eq_append_cons hahead.symm with ⟨between, hkind, -⟩ | ⟨between, hx, hmore⟩
  · -- no control word has a brace in it
    have hbrace : '\x7d' ∉ kind.command := by cases kind <;> decide
    exact absurd (by rw [hkind]; simp) hbrace
  · rw [hmore] at hn
    rw [hx, ← Nat.zero_add (byteLength text)]
    exact mem_commandPlaces text (nameGoesOn_of_append hn) 0

/-- What is read behind the opening brace of an argument, where `s` comes first, then a closing
    brace and then `r`. -/
def argumentRead (s r : List Char) : List Char × Bool × List Token :=
  readText 1 (tokens (s ++ '\x7d' :: r))

section Read

variable {s r : List Char}

theorem wellSpelled_argument (s r : List Char) : WellSpelled ' ' (tokens (s ++ '\x7d' :: r)) :=
  wellSpelled_tokens _ fun h => absurd h (by decide)

theorem argumentRead_source (s r : List Char) :
    (argumentRead s r).1 ++ ((if (argumentRead s r).2.1 then ['\x7d'] else []) ++
      sourceOf (argumentRead s r).2.2) = s ++ '\x7d' :: r := by
  rw [← List.append_assoc]
  exact (readText_source 1 _).trans (source_tokens _)

/-- No beginning of what is read closes more braces than it opens. -/
theorem closings_le_openings_read {front : List Char} (hf : front <+: (argumentRead s r).1) :
    closings front ≤ openings front := by
  have h := readText_prefix (Nat.le_refl 1) (wellSpelled_argument s r) front hf
  unfold closings openings
  omega

theorem getLast?_read_of_closed (hc : (argumentRead s r).2.1 = true) :
    (argumentRead s r).1.getLast? ≠ some '\\' := by
  intro hlast
  refine getLast?_readText (wellSpelled_argument s r) hc ?_
  rw [argumentRead] at hlast
  rw [List.getLast?_cons, hlast]
  rfl

/-- An argument that ends within a text without control words, behind which a brace stands, is
    closed there by a brace. -/
theorem closed_of_read_within {x : Char} {behind : List Char} (hs : commandPlaces 0 s = [])
    (h : s = (argumentRead s r).1 ++ x :: behind) : (argumentRead s r).2.1 = true := by
  cases hc : (argumentRead s r).2.1 with
  | true => rfl
  | false =>
    obtain ⟨used, he, hu, hused⟩ := sourceOf_used hc
    have hsource := source_tokens (s ++ '\x7d' :: r)
    have hplaces := commandPlaces_eq (s ++ '\x7d' :: r) 0
    rw [he] at hsource hplaces
    rw [tokenPlaces_append hu, Nat.zero_add] at hplaces
    rw [argumentRead] at h
    generalize (readText 1 (tokens (s ++ '\x7d' :: r))).1 = text at h hused
    rcases readText_atCommand hc with hnil | ⟨kind, rest, hrest⟩
    · -- at the end of the text nothing would be left for the brace
      rw [hnil, List.append_nil, hused, h] at hsource
      have hlength := congrArg List.length hsource
      simp at hlength
    · -- the control word that ends the argument would stand in the text
      rw [hrest, tokenPlaces, hused] at hplaces
      have hmem : (kind, byteLength text) ∈
          commandPlaces 0 (text ++ x :: behind ++ '\x7d' :: r) := by
        rw [← h, hplaces]
        exact List.mem_cons_self
      have hstands := mem_commandPlaces_of_brace hmem
      rw [← h, hs] at hstands
      cases hstands

/-- Where an argument is read to the brace behind its text, that brace closes it. -/
theorem closed_of_read_eq (h : (argumentRead s r).1 = s) : (argumentRead s r).2.1 = true := by
  cases hc : (argumentRead s r).2.1 with
  | true => rfl
  | false =>
    have hsource := argumentRead_source s r
    rw [h, hc, if_neg Bool.false_ne_true, List.nil_append] at hsource
    have hrest := List.append_cancel_left hsource
    rcases readText_atCommand hc with hnil | ⟨kind, rest, hcommand⟩
    · rw [argumentRead, hnil] at hrest
      cases hrest
    · rw [argumentRead, hcommand] at hrest
      cases kind <;> cases hrest

/-- A balanced text that does not end with a backslash is read whole: any other brace that closed
    the argument would close one too many. -/
theorem read_eq_of_balanced (hs : commandPlaces 0 s = []) (hbalanced : Balanced s)
    (hlast : s.getLast? ≠ some '\\') : (argumentRead s r).1 = s := by
  have hsource := argumentRead_source s r
  rcases List.append_eq_append_iff.1 hsource with ⟨behind, htext, htail⟩ | ⟨behind, htext, htail⟩
  · cases behind with
    | nil => rw [List.append_nil] at htext; exact htext.symm
    | cons x behind =>
      have hc := closed_of_read_within hs htext
      rw [hc, if_pos rfl] at htail
      obtain ⟨rfl, -⟩ := List.cons.inj htail
      have hfront : (argumentRead s r).1 ++ ['\x7d'] <+: s :=
        ⟨behind, by rw [List.append_assoc]; exact htext.symm⟩
      have hle := hbalanced.2 _ hfront
      have heq : closings (argumentRead s r).1 = openings (argumentRead s r).1 :=
        (balanced_readText (wellSpelled_argument s r) hc).1
      obtain ⟨hcount, hcount'⟩ := closings_concat (getLast?_read_of_closed hc)
      omega
  · cases behind with
    | nil => rw [List.append_nil] at htext; exact htext
    | cons x behind =>
      obtain ⟨rfl, -⟩ := List.cons.inj htail
      have hfront : s ++ ['\x7d'] <+: (argumentRead s r).1 :=
        ⟨behind, by rw [List.append_assoc]; exact htext.symm⟩
      have hle := closings_le_openings_read hfront
      have heq := hbalanced.1
      obtain ⟨hcount, hcount'⟩ := closings_concat hlast
      omega

/-- **A text without control words is read whole exactly when it is balanced and no backslash
    stands at its end.** -/
theorem read_eq_iff (hs : commandPlaces 0 s = []) (r : List Char) :
    (argumentRead s r).1 = s ↔ Balanced s ∧ s.getLast? ≠ some '\\' := by
  constructor
  · intro h
    have hc := closed_of_read_eq h
    have hbalanced : Balanced (argumentRead s r).1 :=
      balanced_readText (wellSpelled_argument s r) hc
    have hlast := getLast?_read_of_closed hc
    rw [h] at hbalanced hlast
    exact ⟨hbalanced, hlast⟩
  · rintro ⟨hbalanced, hlast⟩
    exact read_eq_of_balanced hs hbalanced hlast

end Read

/-! ## 4. Which footnotes are read whole -/

/-- **A footnote is read whole exactly when its text is balanced to the reader.** The first
    footnote of a text that begins with one has the text that stands between its braces exactly
    when in that text a brace behind any backslash counts as literal, the others are balanced, and
    no backslash stands at its end. So a text that is balanced to a typesetter is read whole if no
    line break stands directly before a brace of it, or at its end. -/
theorem footnoteText_eq_iff {s : List Char} (hs : commandPlaces 0 s = []) (r : List Char) :
    (footnoteText? (footnoteOf s ++ r) = some s ↔ Balanced s ∧ s.getLast? ≠ some '\\') ∧
      (TypesetBalanced s → backslashesAtEnd s % 2 = 0 → ¬ BreakBeforeBrace (s ++ ['\x7d']) →
        footnoteText? (footnoteOf s ++ r) = some s) := by
  have hread : footnoteText? (footnoteOf s ++ r) = some (argumentRead s r).1 := by
    have hsource : footnoteOf s ++ r =
        RegionKind.footnote.command ++ '\x7b' :: (s ++ '\x7d' :: r) := by simp [footnoteOf]
    rw [hsource, footnoteText?_eq, argumentRead]
  have hiff : footnoteText? (footnoteOf s ++ r) = some s ↔
      Balanced s ∧ s.getLast? ≠ some '\\' := by
    rw [hread, Option.some.injEq, read_eq_iff hs]
  refine ⟨hiff, fun hbalanced heven hbreak => hiff.2 ⟨?_, ?_⟩⟩
  · refine balanced_of_typesetBalanced hbalanced ?_
    rintro ⟨front, b, rest, rfl, hb, hpos, heven⟩
    exact hbreak ⟨front, b, rest ++ ['\x7d'], by simp, hb, hpos, heven⟩
  · rw [← backslashesAtEnd_eq_zero_iff]
    have hend : ¬ (0 < backslashesAtEnd s ∧ backslashesAtEnd s % 2 = 0) := fun h =>
      hbreak ⟨s, '\x7d', [], rfl, rfl, h.1, h.2⟩
    omega

/-- A text with a brace behind three backslashes, and a line break inside a group. -/
def brokenGroup : List Char := "a\\\\\\\x7b \x7bb\\\\ c\x7d".toList

/-- It is read whole, whatever stands behind the footnote. -/
theorem footnoteText_brokenGroup :
    commandPlaces 0 brokenGroup = [] ∧ TypesetBalanced brokenGroup ∧
      footnoteText? (footnoteOf brokenGroup ++ "\x7d \x7b".toList) = some brokenGroup := by
  have hs : commandPlaces 0 brokenGroup = [] := by decide +kernel
  have hbalanced : TypesetBalanced brokenGroup := by decide +kernel
  have hbreak : ¬ BreakBeforeBrace (brokenGroup ++ ['\x7d']) := by decide +kernel
  exact ⟨hs, hbalanced, (footnoteText_eq_iff hs _).2 hbalanced (by decide +kernel) hbreak⟩

/-- A footnote that ends with a line break goes on behind its closing brace. -/
theorem not_footnoteText_lineBreak :
    ¬ ∀ s r : List Char, commandPlaces 0 s = [] → TypesetBalanced s →
      backslashesAtEnd s % 2 = 0 → footnoteText? (footnoteOf s ++ r) = some s := by
  intro h
  have hread : footnoteText? (footnoteOf ['a', '\\', '\\'] ++ ['b']) =
      some ['a', '\\', '\\', '\x7d', 'b'] := by decide +kernel
  have hwhole := h ['a', '\\', '\\'] ['b'] (by decide +kernel) (by decide +kernel)
    (by decide +kernel)
  rw [hread] at hwhole
  exact absurd hwhole (by decide)

end Galley.Markup
