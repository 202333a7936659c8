import Galley.Label.Disambiguation

/-!
# Year letters as numerals

The letters behind a year are the numerals of the bijective system of base 26 with the digits "a"
to "z": the letters that follow a numeral are the next numeral, and different numbers have
different numerals. A label takes letters between its *stem* and its *closing*, so two labels with
letters are equal exactly when they have the same closing and stems and letters join to the same
text. Main statements: `nextSuffix_numeral`, `numeral_injective`, `withSuffix_eq_iff`.
-/

namespace Galley.Label

/-! ## 1. Numerals -/

/-- The letter at a place of the alphabet, counted from zero. -/
def letterAt (i : Nat) : Char := Char.ofNat ('a'.toNat + i)

/-- The numeral of a number in the bijective system of base 26. Zero has the empty one. -/
def numeral (n : Nat) : List Char :=
  if n = 0 then [] else numeral ((n - 1) / 26) ++ [letterAt ((n - 1) % 26)]
termination_by n
decreasing_by omega

/-- The number that a numeral stands for. -/
def numeralValue (cs : List Char) : Nat :=
  cs.foldl (fun v c => 26 * v + (c.toNat - 'a'.toNat + 1)) 0

theorem letterAt_toNat : ∀ i < 26, (letterAt i).toNat = 'a'.toNat + i := by decide

theorem letterAt_ne_closing : ∀ i < 26, letterAt i ≠ ')' := by decide

/-- Every letter but the last is below "z", and the next one is a step further. -/
theorem letterAt_succ : ∀ i < 25,
    letterAt i < 'z' ∧ Char.ofNat ((letterAt i).toNat + 1) = letterAt (i + 1) := by decide

@[simp] theorem numeral_zero : numeral 0 = [] := by
  rw [numeral, if_pos rfl]

theorem numeral_succ (n : Nat) : numeral (n + 1) = numeral (n / 26) ++ [letterAt (n % 26)] := by
  rw [numeral, if_neg (Nat.succ_ne_zero n), Nat.add_sub_cancel]

theorem numeral_one : numeral 1 = ['a'] := by
  rw [numeral_succ, Nat.zero_div, numeral_zero]
  rfl

theorem numeral_ne_nil {n : Nat} (h : 0 < n) : numeral n ≠ [] := by
  obtain ⟨m, rfl⟩ := Nat.exists_eq_succ_of_ne_zero (Nat.ne_of_gt h)
  rw [numeral_succ]
  exact List.append_ne_nil_of_right_ne_nil _ (List.cons_ne_nil _ _)

theorem numeralValue_numeral (n : Nat) : numeralValue (numeral n) = n := by
  induction n using Nat.strongRecOn with
  | _ n ih =>
    cases n with
    | zero => simp [numeralValue]
    | succ m =>
      have hd : m % 26 < 26 := Nat.mod_lt m (by decide)
      have hv := ih (m / 26) (by omega)
      unfold numeralValue at hv ⊢
      rw [numeral_succ, List.foldl_append, hv]
      simp only [List.foldl_cons, List.foldl_nil]
      rw [letterAt_toNat _ hd]
      omega

/-- **Different numbers have different numerals.** -/
theorem numeral_injective {m n : Nat} (h : numeral m = numeral n) : m = n := by
  rw [← numeralValue_numeral m, h, numeralValue_numeral]

/-- A numeral holds letters of the alphabet only. -/
theorem mem_numeral {n : Nat} {c : Char} (h : c ∈ numeral n) : ∃ i < 26, c = letterAt i := by
  induction n using Nat.strongRecOn with
  | _ n ih =>
    cases n with
    | zero =>
      rw [numeral_zero] at h
      cases h
    | succ m =>
      rw [numeral_succ, List.mem_append, List.mem_singleton] at h
      rcases h with h | h
      · exact ih (m / 26) (by omega) h
      · exact ⟨m % 26, Nat.mod_lt m (by decide), h⟩

theorem not_mem_numeral {c : Char} (h : ∀ i < 26, letterAt i ≠ c) (n : Nat) : c ∉ numeral n := by
  intro hmem
  obtain ⟨i, hi, he⟩ := mem_numeral hmem
  exact h i hi he.symm

theorem closing_not_mem_numeral (n : Nat) : ')' ∉ numeral n :=
  not_mem_numeral letterAt_ne_closing n

/-! ## 2. The letters that follow -/

theorem nextBackwards_numeral (n : Nat) :
    nextBackwards (numeral n).reverse = (numeral (n + 1)).reverse := by
  induction n using Nat.strongRecOn with
  | _ n ih =>
    cases n with
    | zero => rw [numeral_zero, numeral_one]; rfl
    | succ m =>
      rw [numeral_succ, List.reverse_append, List.reverse_singleton, List.singleton_append,
        nextBackwards, numeral_succ (m + 1), List.reverse_append, List.reverse_singleton,
        List.singleton_append]
      by_cases hd : m % 26 < 25
      · have hq : (m + 1) / 26 = m / 26 := by omega
        have hr : (m + 1) % 26 = m % 26 + 1 := by omega
        obtain ⟨hz, hs⟩ := letterAt_succ _ hd
        rw [if_pos hz, hs, hq, hr]
      · -- the last letter is "z": it starts again at "a" and the rest goes up by one
        have hl : m % 26 = 25 := by omega
        have hq : (m + 1) / 26 = m / 26 + 1 := by omega
        have hr : (m + 1) % 26 = 0 := by omega
        rw [hl, hq, hr, ih (m / 26) (by omega)]
        rfl

/-- **The letters that follow a numeral are the next numeral.** -/
theorem nextSuffix_numeral {n : Nat} (h : 0 < n) :
    nextSuffix (some (String.ofList (numeral n))) = String.ofList (numeral (n + 1)) := by
  have hne : ¬ (String.ofList (numeral n)).isEmpty = true := by
    rw [String.isEmpty_iff]
    intro he
    exact numeral_ne_nil h (by simpa using congrArg String.toList he)
  simp only [nextSuffix, hne, if_false, String.toList_ofList, nextBackwards_numeral,
    List.reverse_reverse, Bool.false_eq_true]

theorem nextSuffix_none : nextSuffix none = String.ofList (numeral 1) := by
  rw [numeral_one]
  rfl

/-! ## 3. Labels with letters -/

/-- What stands behind the letters of a label: its closing parenthesis, if it ends with one. -/
def closing (cs : List Char) : List Char := if cs.getLast? = some ')' then [')'] else []

/-- What stands before the letters of a label. -/
def stem (cs : List Char) : List Char := if cs.getLast? = some ')' then cs.dropLast else cs

theorem stem_append_closing (cs : List Char) : stem cs ++ closing cs = cs := by
  unfold stem closing
  split
  · next h =>
    obtain ⟨front, hf⟩ := List.getLast?_eq_some_iff.1 h
    rw [hf, List.dropLast_concat]
  · exact List.append_nil cs

/-- Text without a closing parenthesis at its end joins the stem. -/
theorem stem_insert {cs t : List Char} (h : ')' ∉ t) :
    stem (stem cs ++ t ++ closing cs) = stem cs ++ t ∧
      closing (stem cs ++ t ++ closing cs) = closing cs := by
  by_cases hc : cs.getLast? = some ')'
  · have he : closing cs = [')'] := if_pos hc
    rw [he]
    simp [stem, closing]
  · have he : closing cs = [] := if_neg hc
    have hs : stem cs = cs := if_neg hc
    have hl : (cs ++ t).getLast? ≠ some ')' := by
      rw [List.getLast?_append]
      cases ht : t.getLast? with
      | none => simpa using hc
      | some c =>
        intro hz
        have hcz : c = ')' := by simpa using hz
        exact h (hcz ▸ List.mem_of_getLast? ht)
    rw [he, hs, List.append_nil]
    exact ⟨if_neg hl, if_neg hl⟩

theorem toList_withSuffix (r s : String) :
    (withSuffix r s).toList = stem r.toList ++ s.toList ++ closing r.toList := by
  unfold withSuffix
  split
  · next front h =>
    have hr : r.toList = front.reverse ++ [')'] := by
      rw [← List.reverse_reverse r.toList, h, List.reverse_cons]
    have hl : r.toList.getLast? = some ')' := by rw [hr]; simp
    have hc : closing r.toList = [')'] := if_pos hl
    have hs : stem r.toList = front.reverse := by
      rw [stem, if_pos hl, hr, List.dropLast_concat]
    rw [hc, hs]
    simp
  · next h =>
    have hl : r.toList.getLast? ≠ some ')' := by
      intro hl
      obtain ⟨front, hf⟩ := List.getLast?_eq_some_iff.1 hl
      exact h front.reverse (by rw [hf]; simp)
    have hc : closing r.toList = [] := if_neg hl
    have hs : stem r.toList = r.toList := if_neg hl
    rw [hc, hs]
    simp

/-- **Two labels with letters are equal when their closings are, and their stems with the letters
    behind them.** -/
theorem withSuffix_eq_iff {r r' : String} {s s' : List Char} (hs : ')' ∉ s) (hs' : ')' ∉ s') :
    withSuffix r (String.ofList s) = withSuffix r' (String.ofList s') ↔
      stem r.toList ++ s = stem r'.toList ++ s' ∧ closing r.toList = closing r'.toList := by
  rw [← String.toList_inj, toList_withSuffix, toList_withSuffix, String.toList_ofList,
    String.toList_ofList]
  constructor
  · intro h
    have h1 := congrArg stem h
    have h2 := congrArg closing h
    rw [(stem_insert hs).1, (stem_insert hs').1] at h1
    rw [(stem_insert hs).2, (stem_insert hs').2] at h2
    exact ⟨h1, h2⟩
  · rintro ⟨h1, h2⟩
    rw [h1, h2]

/-- No letters leave a label as it is, and any letters change it. -/
theorem withSuffix_eq_self_iff {r : String} {t : List Char} :
    withSuffix r (String.ofList t) = r ↔ t = [] := by
  rw [← String.toList_inj, toList_withSuffix, String.toList_ofList]
  constructor
  · intro h
    have hs : stem r.toList ++ (t ++ closing r.toList) = stem r.toList ++ closing r.toList := by
      rw [← List.append_assoc, h, stem_append_closing]
    exact List.append_left_eq_self.1 (List.append_cancel_left hs)
  · rintro rfl
    rw [List.append_nil, stem_append_closing]

/-- Letters behind letters. -/
theorem withSuffix_withSuffix {r : String} {t s : List Char} (ht : ')' ∉ t) :
    withSuffix (withSuffix r (String.ofList t)) (String.ofList s) =
      withSuffix r (String.ofList (t ++ s)) := by
  rw [← String.toList_inj, toList_withSuffix, toList_withSuffix, toList_withSuffix,
    String.toList_ofList, (stem_insert ht).1, (stem_insert ht).2]
  simp

end Galley.Label
