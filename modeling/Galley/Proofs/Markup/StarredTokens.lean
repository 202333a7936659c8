import Galley.Proofs.Markup.Stars
import Galley.Proofs.Markup.Tokens

/-!
# Tokens of unstarred markup

Where no configured name meets a region command, dropping the stars behind the names changes
nothing but single characters for the reader of regions: no command is made or broken, and no brace
comes to stand behind a backslash. So the tokens of the unstarred text are the tokens of the text
without the dropped stars. Main statements: `after?_unstarredBehind`, which says that a word in
which no name ends is ahead before and after, and `tokens_unstarredBehind`.
-/

namespace Galley.Markup

open Galley.Text

/-! ## 1. Names that do not meet region commands -/

instance (names : List String) (front : List Char) : Decidable (EndsName names front) :=
  inferInstanceAs (Decidable (∃ name ∈ names, _))

/-- No name begins at the end of a text. -/
def Fresh (names : List String) (front : List Char) : Prop :=
  ∀ name ∈ names, ∀ n < name.toList.length, ¬ name.toList.take (n + 1) <:+ front

/-- No name ends within a word, before the end of the word. -/
def Quiet (names : List String) (word : List Char) : Prop :=
  ∀ n < word.length, ¬ EndsName names (word.take n)

instance (names : List String) (front : List Char) : Decidable (Fresh names front) :=
  inferInstanceAs (Decidable (∀ name ∈ names, ∀ n < name.toList.length, ¬ _))

instance (names : List String) (word : List Char) : Decidable (Quiet names word) :=
  inferInstanceAs (Decidable (∀ n < word.length, ¬ _))

/-- The names are plain words that neither end nor begin in a region command. -/
structure Harmless (names : List String) : Prop where
  plain : ∀ name ∈ names, Plain name.toList
  star_free : ∀ name ∈ names, '*' ∉ name.toList
  named : ¬ EndsName names []
  command_quiet : ∀ kind : RegionKind, Quiet names kind.command.tail
  command_fresh : ∀ kind : RegionKind, Fresh names kind.command

section Names

variable {names : List String} {front : List Char}

theorem Quiet.not_endsName {word part rest : List Char} (h : Quiet names word)
    (hword : word = part ++ rest) (hrest : rest ≠ []) : ¬ EndsName names part := by
  have hlt : part.length < word.length := by
    rw [hword, List.length_append]
    exact Nat.lt_add_of_pos_right (List.length_pos_iff.2 hrest)
  have hpart := h part.length hlt
  rwa [hword, List.take_left] at hpart

/-- A name ends behind a text in which none begins exactly where it ends by itself. -/
theorem Fresh.endsName_append_iff (h : Fresh names front) (cs : List Char) :
    EndsName names (front ++ cs) ↔ EndsName names cs := by
  constructor
  · rintro ⟨name, hname, hends⟩
    refine ⟨name, hname, ?_⟩
    obtain ⟨more, he⟩ := hends
    rcases List.append_eq_append_iff.1 he with ⟨between, hfront, hbetween⟩ | ⟨between, -, hcs⟩
    · cases between with
      | nil => exact ⟨[], hbetween⟩
      | cons c between =>
        -- the name would begin at the end of the text
        have hlt : between.length < name.toList.length := by
          rw [hbetween, List.length_append, List.length_cons]
          omega
        have htake : (c :: between ++ cs).take (between.length + 1) = c :: between :=
          List.take_left' rfl
        refine absurd ⟨more, ?_⟩ (h name hname between.length hlt)
        rw [hfront, hbetween, htake]
    · exact ⟨between, hcs.symm⟩
  · rintro ⟨name, hname, hends⟩
    exact ⟨name, hname, hends.trans (List.suffix_append front cs)⟩

/-- Behind a character of no name none begins. -/
theorem fresh_concat {c : Char} (hc : ∀ name ∈ names, c ∉ name.toList) (front : List Char) :
    Fresh names (front ++ [c]) := by
  rintro name hname n hn ⟨more, he⟩
  rcases append_eq_append_cons he with ⟨between, -, hnil⟩ | ⟨between, -, htake⟩
  · have hempty : name.toList.take (n + 1) = [] := (List.append_eq_nil_iff.1 hnil.symm).2
    rw [List.take_eq_nil_iff] at hempty
    rcases hempty with hzero | hname
    · omega
    · rw [hname] at hn
      exact Nat.not_lt_zero n hn
  · refine hc name hname (List.mem_of_mem_take (i := n + 1) ?_)
    rw [htake]
    exact List.mem_append_right between List.mem_cons_self

end Names

namespace Harmless

variable {names : List String} (h : Harmless names)

include h

theorem fresh_concat {c : Char} (hc : isControl c = true) (front : List Char) :
    Fresh names (front ++ [c]) :=
  Markup.fresh_concat (fun name hname => (h.plain name hname).not_mem hc) front

theorem not_endsName {front : List Char} (hf : Fresh names front) : ¬ EndsName names front := by
  have hiff := hf.endsName_append_iff []
  rw [List.append_nil] at hiff
  exact fun he => h.named (hiff.1 he)

/-- Behind a region command no name begins, whatever stands before the command. -/
theorem fresh_command (front : List Char) (kind : RegionKind) :
    Fresh names (front ++ kind.command) := by
  rintro name hname n hn ⟨more, he⟩
  rcases List.append_eq_append_iff.1 he with ⟨between, -, htake⟩ | ⟨between, -, hcommand⟩
  · -- the name would hold the backslash of the command
    have hslash : '\\' ∈ kind.command := by cases kind <;> decide
    refine (h.plain name hname).not_mem (c := '\\') rfl (List.mem_of_mem_take (i := n + 1) ?_)
    rw [htake]
    exact List.mem_append_right between hslash
  · exact h.command_fresh kind name hname n hn ⟨between, hcommand.symm⟩

end Harmless

/-! ## 2. Unstarred texts -/

/-- What stands behind `front`, without the stars behind names. -/
def unstarredBehind (names : List String) (front cs : List Char) : List Char :=
  withoutStars (namePlaces names) front cs

section Unstarred

variable {names : List String} {front : List Char}

@[simp] theorem unstarredBehind_nil (names : List String) (front : List Char) :
    unstarredBehind names front [] = [] := rfl

theorem unstarredBehind_star (h : EndsName names front) (cs : List Char) :
    unstarredBehind names front ('*' :: cs) = unstarredBehind names (front ++ ['*']) cs :=
  withoutStars_star (dropped_namePlaces_iff.2 h)

theorem unstarredBehind_kept {c : Char} (h : c = '*' → ¬ EndsName names front) (cs : List Char) :
    unstarredBehind names front (c :: cs) = c :: unstarredBehind names (front ++ [c]) cs :=
  withoutStars_kept fun hc hd => h hc (dropped_namePlaces_iff.1 hd)

/-- A star is dropped, or it is kept; any other character is kept. -/
theorem dropped_or_kept (p : Prop) (names : List String) (front : List Char) :
    (p ∧ EndsName names front) ∨ (p → ¬ EndsName names front) := by
  by_cases hd : EndsName names front
  · by_cases hp : p
    · exact Or.inl ⟨hp, hd⟩
    · exact Or.inr fun hp' => absurd hp' hp
  · exact Or.inr fun _ => hd

theorem unstarredBehind_append (front as bs : List Char) :
    unstarredBehind names front (as ++ bs) =
      unstarredBehind names front as ++ unstarredBehind names (front ++ as) bs := by
  induction as generalizing front with
  | nil => rw [List.nil_append, unstarredBehind_nil, List.append_nil]; rfl
  | cons c as ih =>
    rw [List.cons_append]
    rcases dropped_or_kept (c = '*') names front with ⟨rfl, hd⟩ | hkept
    · rw [unstarredBehind_star hd, unstarredBehind_star hd, ih, List.append_assoc]
      rfl
    · rw [unstarredBehind_kept hkept, unstarredBehind_kept hkept, ih, List.append_assoc]
      rfl

theorem unstarredBehind_of_not_mem {word : List Char} (h : '*' ∉ word) (front : List Char) :
    unstarredBehind names front word = word := by
  have hword : unstarredBehind names front (word ++ []) = word ++ [] :=
    withoutStars_append_of_not_mem h front []
  rwa [List.append_nil] at hword

/-- What stands before a text counts only by the names that end behind it. -/
theorem unstarredBehind_congr {front' : List Char}
    (h : ∀ more, EndsName names (front ++ more) ↔ EndsName names (front' ++ more))
    (cs : List Char) : unstarredBehind names front cs = unstarredBehind names front' cs := by
  induction cs generalizing front front' with
  | nil => rfl
  | cons c cs ih =>
    have hnext : unstarredBehind names (front ++ [c]) cs =
        unstarredBehind names (front' ++ [c]) cs :=
      ih fun more => by rw [List.append_assoc, List.append_assoc]; exact h ([c] ++ more)
    have hfront := h []
    rw [List.append_nil, List.append_nil] at hfront
    rcases dropped_or_kept (c = '*') names front with ⟨rfl, hd⟩ | hkept
    · rw [unstarredBehind_star hd, unstarredBehind_star (hfront.1 hd), hnext]
    · rw [unstarredBehind_kept hkept, unstarredBehind_kept fun hc => mt hfront.2 (hkept hc), hnext]

/-- Behind a text in which no name begins, a text is unstarred by itself. -/
theorem Fresh.unstarredBehind_eq (h : Fresh names front) (cs : List Char) :
    unstarredBehind names front cs = unstarredBehind names [] cs :=
  unstarredBehind_congr h.endsName_append_iff cs

theorem head?_unstarredBehind (h : ¬ EndsName names front) (cs : List Char) :
    (unstarredBehind names front cs).head? = cs.head? := by
  cases cs with
  | nil => rfl
  | cons c cs => rw [unstarredBehind_kept fun _ => h, List.head?_cons, List.head?_cons]

/-- **A word in which no name ends is ahead before and after**, with the unstarred rest behind. -/
theorem after?_unstarredBehind {word : List Char} (cs : List Char)
    (h : ∀ part rest, word = part ++ rest → rest ≠ [] → ¬ EndsName names (front ++ part)) :
    after? word (unstarredBehind names front cs) =
      (after? word cs).map (unstarredBehind names (front ++ word)) := by
  induction word generalizing front cs with
  | nil => rw [List.append_nil]; rfl
  | cons w word ih =>
    cases cs with
    | nil => rfl
    | cons c cs =>
      have hfirst : ¬ EndsName names front := by
        have hempty := h [] (w :: word) rfl (List.cons_ne_nil w word)
        rwa [List.append_nil] at hempty
      rw [unstarredBehind_kept (fun _ => hfirst), after?, after?]
      split
      · next hw =>
        subst hw
        rw [ih cs fun part rest hword hrest => ?_, List.append_assoc, List.singleton_append]
        rw [List.append_assoc]
        exact h (w :: part) rest (by rw [hword, List.cons_append]) hrest
      · rfl

end Unstarred

/-! ## 3. Tokens of unstarred texts -/

/-- Tokens behind `front`, without the stars behind names. -/
def unstarredTokens (names : List String) : (front : List Char) → List Token → List Token
  | _, [] => []
  | front, t :: ts =>
    if t = .char '*' ∧ EndsName names front then unstarredTokens names (front ++ t.source) ts
    else t :: unstarredTokens names (front ++ t.source) ts

section Tokens

variable {names : List String} {front : List Char}

theorem unstarredTokens_star (h : EndsName names front) (ts : List Token) :
    unstarredTokens names front (.char '*' :: ts) = unstarredTokens names (front ++ ['*']) ts := by
  rw [unstarredTokens, if_pos ⟨rfl, h⟩]
  rfl

theorem unstarredTokens_kept {t : Token} (h : t = .char '*' → ¬ EndsName names front)
    (ts : List Token) :
    unstarredTokens names front (t :: ts) = t :: unstarredTokens names (front ++ t.source) ts := by
  rw [unstarredTokens, if_neg fun hd => h hd.1 hd.2]

variable (h : Harmless names)

include h

/-- A region command is ahead before and after. -/
theorem after?_command (kind : RegionKind) (front cs : List Char) :
    after? kind.command.tail (unstarredBehind names (front ++ ['\\']) cs) =
      (after? kind.command.tail cs).map (unstarredBehind names (front ++ kind.command)) := by
  have hslash : Fresh names (front ++ ['\\']) := h.fresh_concat rfl front
  rw [after?_unstarredBehind, List.append_assoc, List.singleton_append, ← kind.command_eq_cons]
  intro part rest hword hrest
  rw [hslash.endsName_append_iff]
  exact (h.command_quiet kind).not_endsName hword hrest

theorem nameGoesOn_unstarredBehind {cs : List Char} (hf : Fresh names front) :
    nameGoesOn (unstarredBehind names front cs) = nameGoesOn cs := by
  rw [nameGoesOn, head?_unstarredBehind (h.not_endsName hf), nameGoesOn]

/-- No region command is made behind a backslash. -/
theorem commandAt?_unstarredBehind {cs : List Char} (hnone : commandAt? ('\\' :: cs) = none)
    (front : List Char) :
    commandAt? ('\\' :: unstarredBehind names (front ++ ['\\']) cs) = none := by
  cases hk : commandAt? ('\\' :: unstarredBehind names (front ++ ['\\']) cs) with
  | none => rfl
  | some kind =>
    obtain ⟨rest, he, hn⟩ := commandAt?_eq_some_iff.1 hk
    rw [kind.command_eq_cons, List.cons_append] at he
    have hafter := after?_command h kind front cs
    rw [(List.cons.inj he).2, after?_append, eq_comm, Option.map_eq_some_iff] at hafter
    obtain ⟨more, hmore, rfl⟩ := hafter
    rw [nameGoesOn_unstarredBehind h (h.fresh_command front kind)] at hn
    have hcs : '\\' :: cs = kind.command ++ more := by
      rw [after?_eq_some_iff.1 hmore, ← List.cons_append, ← kind.command_eq_cons]
    have hstands : commandAt? ('\\' :: cs) = some kind :=
      commandAt?_eq_some_iff.2 ⟨more, hcs, hn⟩
    rw [hnone] at hstands
    cases hstands

/-- **The next token is the same**, if its first character is kept, and what follows it is
    unstarred. -/
theorem nextToken_unstarredBehind (front : List Char) (c : Char) (cs : List Char) :
    nextToken c (unstarredBehind names (front ++ [c]) cs) =
      ((nextToken c cs).1,
        unstarredBehind names (front ++ (nextToken c cs).1.source) (nextToken c cs).2) := by
  rcases nextToken_cases c cs with ⟨kind, rest, he, hn, hnext⟩ | ⟨hnone, hnext⟩
  · rw [hnext]
    rw [kind.command_eq_cons, List.cons_append] at he
    obtain ⟨rfl, hcs⟩ := List.cons.inj he
    refine nextToken_command ?_ ?_
    · have hafter := after?_command h kind front cs
      rw [hcs, after?_append, Option.map_some] at hafter
      rw [hcs, after?_eq_some_iff.1 hafter, ← List.cons_append, ← kind.command_eq_cons]
      rfl
    · rw [← hn]
      exact nameGoesOn_unstarredBehind h (h.fresh_command front kind)
  · rcases plainToken_cases c cs with ⟨b, rest, rfl, rfl, hb, hplain⟩ | ⟨hbrace, hplain⟩
    · have hstar : b = '*' → ¬ EndsName names (front ++ ['\\']) := by
        rintro rfl
        cases hb
      rw [hnext, hplain, unstarredBehind_kept hstar, nextToken_escaped hb, List.append_assoc]
      rfl
    · rw [hnext, hplain]
      refine nextToken_char ?_ ?_
      · by_cases hc : c = '\\'
        · subst hc
          exact commandAt?_unstarredBehind h hnone front
        · exact commandAt?_of_ne hc _
      · rintro rfl
        rw [head?_unstarredBehind (h.not_endsName (h.fresh_concat rfl front))]
        exact hbrace rfl

/-- **The tokens of an unstarred text** are the tokens of the text without the stars behind
    names. -/
theorem tokens_unstarredBehind (front cs : List Char) :
    tokens (unstarredBehind names front cs) = unstarredTokens names front (tokens cs) := by
  induction hn : cs.length using Nat.strongRecOn generalizing front cs with
  | ind n ih =>
    subst hn
    cases cs with
    | nil => rw [unstarredBehind_nil, tokens_nil]; rfl
    | cons c cs =>
      rcases dropped_or_kept (c = '*') names front with ⟨rfl, hd⟩ | hkept
      · rw [unstarredBehind_star hd, tokens_char (by decide), unstarredTokens_star hd,
          ih cs.length (Nat.lt_succ_self _) _ cs rfl]
      · have htoken : (nextToken c cs).1 = .char '*' → ¬ EndsName names front := by
          intro ht
          have hsource := source_nextToken c cs
          rw [ht] at hsource
          exact hkept (List.cons.inj hsource).1.symm
        rw [unstarredBehind_kept hkept, tokens_cons, tokens_cons, nextToken_unstarredBehind h,
          unstarredTokens_kept htoken,
          ih _ (nextToken_length c cs) _ _ rfl]

end Tokens

end Galley.Markup
