import Galley.Proofs.Markup.Tokens

/-!
# Braces that group

A brace groups unless a backslash stands directly before it. Text is *balanced* when it has as many
closing as opening braces that group, and no prefix of it has more closing ones. Since tokens are
well spelled, reading an argument counts exactly the braces that group. Main statement:
`balanced_readText`, an argument that a brace closes is balanced.
-/

namespace Galley.Markup

/-! ## 1. Braces of a text -/

/-- The characters of a text that no backslash stands directly before; `previous` stands before
    the text. -/
def unescaped (previous : Char) : List Char → List Char
  | [] => []
  | c :: cs => if previous = '\\' then unescaped c cs else c :: unescaped c cs

/-- How many opening braces of a text group. -/
def openings (cs : List Char) : Nat := (unescaped ' ' cs).count '\x7b'

/-- How many closing braces of a text group. -/
def closings (cs : List Char) : Nat := (unescaped ' ' cs).count '\x7d'

/-- Opening and closing braces are equal in number, and no prefix has more closing ones. -/
def Balanced (cs : List Char) : Prop :=
  closings cs = openings cs ∧ ∀ front, front <+: cs → closings front ≤ openings front

theorem unescaped_cons_backslash (c : Char) (cs : List Char) :
    unescaped '\\' (c :: cs) = unescaped c cs := by
  rw [unescaped, if_pos rfl]

/-- A backslash and the brace behind it add no brace that groups. -/
theorem count_unescaped_escaped {x : Char} (hx : isBrace x = true) (previous b : Char)
    (cs : List Char) :
    (unescaped previous ('\\' :: b :: cs)).count x = (unescaped b cs).count x := by
  have hne : ('\\' == x) = false := by simpa using (brace_ne_backslash hx).symm
  rw [unescaped]
  split
  · rw [unescaped_cons_backslash]
  · rw [unescaped_cons_backslash, List.count_cons, hne]
    simp

/-- A character that is no brace behind a backslash counts itself. -/
theorem count_unescaped_char {previous c x : Char} (hx : isBrace x = true)
    (h : previous = '\\' → isBrace c = false) (cs : List Char) :
    (unescaped previous (c :: cs)).count x = (unescaped c cs).count x + if c = x then 1 else 0 := by
  rw [unescaped]
  split
  · next hp =>
    have hne : c ≠ x := by
      rintro rfl
      rw [h hp] at hx
      cases hx
    rw [if_neg hne, Nat.add_zero]
  · rw [List.count_cons]
    simp only [beq_iff_eq]

/-! ## 2. The text of an argument -/

/-- With `depth` braces open, no prefix of the text that is read closes all of them. -/
theorem readText_prefix {ts : List Token} {depth : Nat} {previous : Char} (hd : 1 ≤ depth)
    (hw : WellSpelled previous ts) : ∀ front, front <+: (readText depth ts).1 →
      (unescaped previous front).count '\x7d' + 1 ≤
        (unescaped previous front).count '\x7b' + depth := by
  induction ts generalizing depth previous with
  | nil =>
    intro front hf
    rw [List.prefix_nil.1 hf]
    simpa [unescaped] using hd
  | cons t ts ih =>
    intro front hf
    cases front with
    | nil => simpa [unescaped] using hd
    | cons x front =>
      cases t with
      | command kind => simp [readText] at hf
      | escaped b =>
        simp only [readText, List.cons_prefix_cons] at hf
        obtain ⟨rfl, hf⟩ := hf
        cases front with
        | nil => by_cases hp : previous = '\\' <;> simp [unescaped, hp, hd]
        | cons y front =>
          obtain ⟨rfl, hrest⟩ := List.cons_prefix_cons.1 hf
          rw [count_unescaped_escaped (by decide), count_unescaped_escaped (by decide)]
          exact ih hd hw.2 front hrest
      | char c =>
        simp only [readText] at hf
        split at hf
        · simp at hf
        · next hstop =>
          obtain ⟨rfl, hf⟩ := List.cons_prefix_cons.1 hf
          rw [count_unescaped_char (by decide) hw.1, count_unescaped_char (by decide) hw.1]
          have hinner : 1 ≤ if x = '\x7b' then depth + 1 else
              if x = '\x7d' then depth - 1 else depth := by grind
          have hin := ih hinner hw.2 front hf
          grind

/-- The brace that ends the text closes the last one that is open. -/
theorem readText_total {ts : List Token} {depth : Nat} {previous : Char} (hd : 1 ≤ depth)
    (hw : WellSpelled previous ts) (hc : (readText depth ts).2.1 = true) :
    (unescaped previous (readText depth ts).1).count '\x7d' + 1 =
      (unescaped previous (readText depth ts).1).count '\x7b' + depth := by
  induction ts generalizing depth previous with
  | nil => simp [readText] at hc
  | cons t ts ih =>
    cases t with
    | command kind => simp [readText] at hc
    | escaped b =>
      simp only [readText] at hc ⊢
      rw [count_unescaped_escaped (by decide), count_unescaped_escaped (by decide)]
      exact ih hd hw.2 hc
    | char c =>
      simp only [readText] at hc ⊢
      split at hc
      · next hstop =>
        rw [if_pos hstop]
        have : depth = 1 := by grind
        simp [unescaped, this]
      · next hstop =>
        rw [if_neg hstop]
        rw [count_unescaped_char (by decide) hw.1, count_unescaped_char (by decide) hw.1]
        have hinner : 1 ≤ if c = '\x7b' then depth + 1 else
            if c = '\x7d' then depth - 1 else depth := by grind
        have hin := ih hinner hw.2 hc
        grind

/-- **The text of an argument that a brace closes is balanced.** -/
theorem balanced_readText {ts : List Token} {previous : Char} (hw : WellSpelled previous ts)
    (hc : (readText 1 ts).2.1 = true) : Balanced (readText 1 ts).1 := by
  have hw : WellSpelled ' ' ts := wellSpelled_of_ne (by decide) hw
  constructor
  · have h := readText_total (Nat.le_refl 1) hw hc
    unfold closings openings
    omega
  · intro front hf
    have h := readText_prefix (Nat.le_refl 1) hw front hf
    unfold closings openings
    omega

/-- No opening brace that groups stands before the text of an argument. -/
theorem opening_not_mem_gap (ts : List Token) (previous : Char) :
    '\x7b' ∉ unescaped previous (sourceOf (ts.takeWhile isGapToken)) := by
  induction ts generalizing previous with
  | nil => simp [sourceOf, unescaped]
  | cons t ts ih =>
    by_cases ht : isGapToken t = true
    · rw [List.takeWhile_cons_of_pos ht, sourceOf, List.flatMap_cons]
      cases t with
      | command kind => cases ht
      | escaped b =>
        rw [← List.count_eq_zero]
        show (unescaped previous ('\\' :: b :: sourceOf (ts.takeWhile isGapToken))).count _ = 0
        rw [count_unescaped_escaped (by decide), List.count_eq_zero]
        exact ih b
      | char c =>
        show _ ∉ unescaped previous (c :: sourceOf (ts.takeWhile isGapToken))
        have hne : c ≠ '\x7b' := by simpa [isGapToken] using ht
        rw [unescaped]
        split
        · exact ih c
        · rw [List.mem_cons]
          exact fun h => h.elim (fun e => hne e.symm) (ih c)
    · rw [List.takeWhile_cons_of_neg ht]
      simp [sourceOf, unescaped]

end Galley.Markup
