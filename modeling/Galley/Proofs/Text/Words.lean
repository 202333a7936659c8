import Galley.Proofs.Text.Lines

/-!
# Words

The words of a text are its longest runs of characters that are no blanks. Trimming a text and
writing one space for every run of blanks leaves its words, with one space between them. Main
statement: `squeezeBlanks_trimChars`.
-/

namespace Galley.Text

/-- The words of a text: the pieces between its blanks, but for the empty ones. -/
def words (cs : List Char) : List (List Char) :=
  (cs.splitOnP isBlank).filter fun w => !w.isEmpty

variable {c : Char} {cs : List Char}

/-! ## 1. The words of a text -/

theorem splitOnP_cons_of_blank (h : isBlank c = true) (cs : List Char) :
    (c :: cs).splitOnP isBlank = [] :: cs.splitOnP isBlank := by
  rw [List.splitOnP_cons_eq_if_modifyHead, if_pos h]

theorem splitOnP_cons_of_not_blank (h : isBlank c = false) {piece : List Char}
    {pieces : List (List Char)} (hsplit : cs.splitOnP isBlank = piece :: pieces) :
    (c :: cs).splitOnP isBlank = (c :: piece) :: pieces := by
  rw [List.splitOnP_cons_eq_if_modifyHead, if_neg (by simp [h]), hsplit]
  rfl

/-- A text has a first piece, up to its first blank. -/
theorem exists_splitOnP (cs : List Char) :
    ∃ piece pieces, cs.splitOnP isBlank = piece :: pieces :=
  List.exists_cons_of_ne_nil (List.splitOnP_ne_nil isBlank cs)

theorem words_cons_blank (h : isBlank c = true) (cs : List Char) : words (c :: cs) = words cs := by
  rw [words, splitOnP_cons_of_blank h, List.filter_cons_of_neg (by simp), words]

theorem words_append_left {blanks : List Char} (h : ∀ c ∈ blanks, isBlank c = true)
    (cs : List Char) : words (blanks ++ cs) = words cs := by
  induction blanks with
  | nil => rfl
  | cons b blanks ih =>
    obtain ⟨hb, hblanks⟩ := List.forall_mem_cons.1 h
    rw [List.cons_append, words_cons_blank hb, ih hblanks]

/-- Blanks at the end of a text begin no word. -/
theorem splitOnP_append_blanks {blanks : List Char} (h : ∀ c ∈ blanks, isBlank c = true)
    {piece : List Char} {pieces : List (List Char)}
    (hsplit : cs.splitOnP isBlank = piece :: pieces) :
    ∃ pieces', (cs ++ blanks).splitOnP isBlank = piece :: pieces' ∧
      pieces'.filter (fun w => !w.isEmpty) = pieces.filter fun w => !w.isEmpty := by
  induction cs generalizing piece pieces with
  | nil =>
    have hnone : words blanks = [] := by
      have := words_append_left h []
      rwa [List.append_nil] at this
    obtain ⟨rfl, rfl⟩ := List.cons.inj hsplit
    cases blanks with
    | nil => exact ⟨[], rfl, rfl⟩
    | cons b blanks =>
      have hb : isBlank b = true := h b List.mem_cons_self
      rw [words_cons_blank hb] at hnone
      exact ⟨_, splitOnP_cons_of_blank hb blanks, hnone⟩
  | cons c cs ih =>
    obtain ⟨first, rest, hcs⟩ := exists_splitOnP cs
    obtain ⟨rest', hrest', hwords⟩ := ih hcs
    cases hc : isBlank c with
    | true =>
      rw [splitOnP_cons_of_blank hc, hcs] at hsplit
      obtain ⟨rfl, rfl⟩ := List.cons.inj hsplit
      refine ⟨first :: rest', ?_, ?_⟩
      · rw [List.cons_append, splitOnP_cons_of_blank hc, hrest']
      · rw [List.filter_cons, List.filter_cons, hwords]
    | false =>
      rw [splitOnP_cons_of_not_blank hc hcs] at hsplit
      obtain ⟨rfl, rfl⟩ := List.cons.inj hsplit
      exact ⟨rest', splitOnP_cons_of_not_blank hc hrest', hwords⟩

theorem words_append_right {blanks : List Char} (h : ∀ c ∈ blanks, isBlank c = true)
    (cs : List Char) : words (cs ++ blanks) = words cs := by
  obtain ⟨piece, pieces, hcs⟩ := exists_splitOnP cs
  obtain ⟨pieces', hsplit, hwords⟩ := splitOnP_append_blanks h hcs
  rw [words, words, hsplit, hcs, List.filter_cons, List.filter_cons, hwords]

/-- Trimming keeps the words. -/
theorem words_trimChars (cs : List Char) : words (trimChars cs) = words cs := by
  obtain ⟨left, right, hcs, hleft, hright⟩ := exists_trimChars cs
  have hwords := words_append_left hleft (trimChars cs ++ right)
  rw [← hcs, words_append_right hright] at hwords
  exact hwords.symm

theorem words_ne_nil (hc : c ∈ cs) (h : isBlank c = false) : words cs ≠ [] := by
  induction cs with
  | nil => cases hc
  | cons d cs ih =>
    cases hd : isBlank d with
    | true =>
      have hmem : c ∈ cs := (List.mem_cons.1 hc).resolve_left fun he => by simp [he, hd] at h
      rw [words_cons_blank hd]
      exact ih hmem
    | false =>
      obtain ⟨piece, pieces, hcs⟩ := exists_splitOnP cs
      rw [words, splitOnP_cons_of_not_blank hd hcs, List.filter_cons_of_pos (by simp)]
      exact List.cons_ne_nil _ _

/-! ## 2. One space for every run of blanks -/

/-- Words behind another one, each with a space before it. -/
theorem intercalate_space_cons (w : List Char) (ws : List (List Char)) :
    [' '].intercalate (w :: ws) = w ++ ws.flatMap (' ' :: ·) := by
  induction ws generalizing w with
  | nil => simp
  | cons v ws ih => rw [List.intercalate_cons_cons, ih, List.flatMap_cons]; simp

/-- **What becomes of a text that does not end with a blank**: behind a blank its words, with one
    space between them; behind anything else its first piece, and then the words behind that, with
    one space before each. -/
theorem squeezeFrom_eq {piece : List Char} {pieces : List (List Char)}
    (hlast : ∀ c ∈ cs.getLast?, isBlank c = false)
    (hsplit : cs.splitOnP isBlank = piece :: pieces) :
    squeezeFrom true cs = [' '].intercalate (words cs) ∧
      squeezeFrom false cs =
        piece ++ (pieces.filter fun w => !w.isEmpty).flatMap (' ' :: ·) := by
  induction cs generalizing piece pieces with
  | nil =>
    obtain ⟨rfl, rfl⟩ := List.cons.inj hsplit
    exact ⟨rfl, rfl⟩
  | cons c cs ih =>
    obtain ⟨first, rest, hcs⟩ := exists_splitOnP cs
    cases hc : isBlank c with
    | true =>
      have hne : cs ≠ [] := by
        rintro rfl
        rw [hlast c rfl] at hc
        cases hc
      rw [List.getLast?_cons_of_ne_nil hne] at hlast
      obtain ⟨hbehind, -⟩ := ih hlast hcs
      rw [splitOnP_cons_of_blank hc] at hsplit
      obtain ⟨rfl, rfl⟩ := List.cons.inj hsplit
      have hword : words cs ≠ [] :=
        words_ne_nil (List.getLast_mem hne) (hlast _ (List.getLast?_eq_some_getLast hne))
      obtain ⟨w, ws, hws⟩ := List.exists_cons_of_ne_nil hword
      refine ⟨by rw [squeezeFrom, if_pos hc, if_pos rfl, hbehind, words_cons_blank hc], ?_⟩
      rw [squeezeFrom, if_pos hc, if_neg Bool.false_ne_true, hbehind, List.nil_append]
      rw [words] at hws
      rw [words, hws, intercalate_space_cons, List.flatMap_cons]
      rfl
    | false =>
      have hlast' : ∀ d ∈ cs.getLast?, isBlank d = false := fun d hd => hlast d (by
        cases cs with
        | nil => cases hd
        | cons x cs => rwa [List.getLast?_cons_cons])
      obtain ⟨-, hfirst⟩ := ih hlast' hcs
      have hcons := splitOnP_cons_of_not_blank hc hcs
      rw [hcons] at hsplit
      obtain ⟨rfl, rfl⟩ := List.cons.inj hsplit
      have hno : ¬isBlank c = true := by simp [hc]
      refine ⟨?_, by rw [squeezeFrom, if_neg hno, hfirst]; rfl⟩
      rw [squeezeFrom, if_neg hno, hfirst, words, hcons, List.filter_cons_of_pos (by simp),
        intercalate_space_cons]
      rfl

/-- No text that is trimmed at its front begins with a blank. -/
theorem head?_trimLeft (cs : List Char) : ∀ c ∈ (trimLeft cs).head?, isBlank c = false := by
  intro c hc
  have h := List.head?_dropWhile_not isBlank cs
  rw [← trimLeft, Option.mem_def.1 hc] at h
  simpa using h

/-- What is trimmed neither begins nor ends with a blank. -/
theorem trimmed_trimChars (cs : List Char) : Trimmed (trimChars cs) where
  left c hc := by
    have hprefix : trimChars cs <+: trimLeft cs := by
      rw [← List.reverse_suffix, trimChars, trimRight, List.reverse_reverse]
      exact trimLeft_suffix _
    obtain ⟨behind, hbehind⟩ := hprefix
    refine head?_trimLeft cs c ?_
    rw [← hbehind, List.head?_append, Option.mem_def.1 hc]
    rfl
  right c hc := by
    rw [trimChars, trimRight, List.getLast?_reverse] at hc
    exact head?_trimLeft _ c hc

/-- **Trimming and squeezing leave the words of a text**, with one space between them. -/
theorem squeezeBlanks_trimChars (cs : List Char) :
    squeezeBlanks (trimChars cs) = [' '].intercalate (words cs) := by
  obtain ⟨piece, pieces, hsplit⟩ := exists_splitOnP (trimChars cs)
  obtain ⟨hbehind, -⟩ := squeezeFrom_eq (trimmed_trimChars cs).right hsplit
  have hfront : squeezeFrom false (trimChars cs) = squeezeFrom true (trimChars cs) := by
    cases htrimmed : trimChars cs with
    | nil => rfl
    | cons c rest =>
      have hc : isBlank c = false := (trimmed_trimChars cs).left c (by rw [htrimmed]; rfl)
      simp [squeezeFrom, hc]
  rw [squeezeBlanks, hfront, hbehind, words_trimChars]

end Galley.Text
