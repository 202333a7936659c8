/-!
# Reading ahead in a text

A text is read as a list of characters. A *word* is a fixed piece of text; `after?` asks whether
it comes next, `cut?` finds its first occurrence, and `replaceAll` replaces whatever a recogniser
finds, from left to right. Main statements: `after?_eq_some_iff` and `cut?_eq_some` say that no
character is lost.
-/

namespace Galley.Text

/-! ## 1. A word ahead -/

/-- What follows `word` in `cs`, when `cs` begins with it. -/
def after? : (word cs : List Char) → Option (List Char)
  | [], cs => some cs
  | _ :: _, [] => none
  | w :: ws, c :: cs => if w = c then after? ws cs else none

theorem after?_append (word rest : List Char) : after? word (word ++ rest) = some rest := by
  induction word with
  | nil => rfl
  | cons w ws ih => simpa [after?] using ih

theorem after?_eq_some_iff {word cs rest : List Char} :
    after? word cs = some rest ↔ cs = word ++ rest := by
  constructor
  · induction word generalizing cs with
    | nil => simp [after?]
    | cons w ws ih =>
      cases cs with
      | nil => simp [after?]
      | cons c cs =>
        simp only [after?]
        split
        · next h => subst h; intro hr; simp [ih hr]
        · simp
  · rintro rfl; exact after?_append word rest

theorem after?_length {word cs rest : List Char} (h : after? word cs = some rest) :
    cs.length = word.length + rest.length := by
  rw [after?_eq_some_iff.1 h, List.length_append]

/-- `cs` begins with `word`. -/
def startsWith (word cs : List Char) : Bool :=
  (after? word cs).isSome

/-! ## 2. The first occurrence of a word -/

/-- The text before the first occurrence of `word` and the text after it. -/
def cut? (word : List Char) : List Char → Option (List Char × List Char)
  | [] => (after? word []).map ([], ·)
  | c :: cs =>
    match after? word (c :: cs) with
    | some rest => some ([], rest)
    | none => (cut? word cs).map fun p => (c :: p.1, p.2)

theorem cut?_eq_some {word cs a b : List Char} (h : cut? word cs = some (a, b)) :
    cs = a ++ word ++ b := by
  induction cs generalizing a with
  | nil =>
    obtain ⟨r, hr, he⟩ := Option.map_eq_some_iff.1 h
    cases he
    simpa using after?_eq_some_iff.1 hr
  | cons c cs ih =>
    simp only [cut?] at h
    split at h
    · next rest hr =>
      cases h
      simpa using after?_eq_some_iff.1 hr
    · obtain ⟨p, hp, he⟩ := Option.map_eq_some_iff.1 h
      cases he
      simp [ih (a := p.1) hp]

/-- The shortest text behind which `next` reads on, and what it reads there. -/
def lazily? {α : Type} (next : List Char → Option α) : List Char → Option (List Char × α)
  | [] => (next []).map ([], ·)
  | c :: cs =>
    match next (c :: cs) with
    | some a => some ([], a)
    | none => (lazily? next cs).map fun p => (c :: p.1, p.2)

/-- The text before the last occurrence of `word` and the text after it. -/
def cutLast? (word : List Char) : List Char → Option (List Char × List Char)
  | [] => (after? word []).map ([], ·)
  | c :: cs =>
    match cutLast? word cs with
    | some p => some (c :: p.1, p.2)
    | none => (after? word (c :: cs)).map ([], ·)

/-- `cs` up to its first character that satisfies `p`, and the rest from it on. -/
def breakAt (p : Char → Bool) (cs : List Char) : List Char × List Char :=
  (cs.takeWhile fun c => !p c, cs.dropWhile fun c => !p c)

theorem breakAt_append (p : Char → Bool) (cs : List Char) :
    (breakAt p cs).1 ++ (breakAt p cs).2 = cs :=
  List.takeWhile_append_dropWhile

/-- `cs` up to the first place where what follows satisfies `p`, and the rest from there on. -/
def breakBefore (p : List Char → Bool) : List Char → List Char × List Char
  | [] => ([], [])
  | c :: cs =>
    if p (c :: cs) then ([], c :: cs) else (c :: (breakBefore p cs).1, (breakBefore p cs).2)

theorem breakBefore_append (p : List Char → Bool) (cs : List Char) :
    (breakBefore p cs).1 ++ (breakBefore p cs).2 = cs := by
  induction cs with
  | nil => rfl
  | cons c cs ih =>
    simp only [breakBefore]
    split
    · rfl
    · simpa using ih

theorem breakBefore_length (p : List Char → Bool) (cs : List Char) :
    (breakBefore p cs).2.length ≤ cs.length := by
  have h := congrArg List.length (breakBefore_append p cs)
  rw [List.length_append] at h
  omega

/-- The text before the first `stop` of the line and the text after it. -/
def lineCut? (stop : Char) : List Char → Option (List Char × List Char)
  | [] => none
  | c :: cs =>
    if c = stop then some ([], cs)
    else if c = '\n' then none
    else (lineCut? stop cs).map fun p => (c :: p.1, p.2)

theorem lineCut?_eq_some {stop : Char} {cs a b : List Char} (h : lineCut? stop cs = some (a, b)) :
    cs = a ++ stop :: b := by
  induction cs generalizing a with
  | nil => simp [lineCut?] at h
  | cons c cs ih =>
    simp only [lineCut?] at h
    split at h
    · next hc => cases h; simp [hc]
    · split at h
      · cases h
      · obtain ⟨p, hp, he⟩ := Option.map_eq_some_iff.1 h
        cases he
        simp [ih (a := p.1) hp]

/-- The text between `left`, which comes next, and the first `right` behind it, and the text after
    that. -/
def between? (left right : Char) : List Char → Option (List Char × List Char)
  | [] => none
  | c :: cs => if c = left then cut? [right] cs else none

theorem between?_eq_some {left right : Char} {cs a b : List Char}
    (h : between? left right cs = some (a, b)) : cs = left :: (a ++ right :: b) := by
  cases cs with
  | nil => simp [between?] at h
  | cons c cs =>
    simp only [between?] at h
    split at h
    · next hc => simpa [hc] using cut?_eq_some h
    · cases h

/-- The first occurrence of a single character is the one that has none before it. -/
theorem cut?_char_eq_some_iff {stop : Char} {cs a b : List Char} :
    cut? [stop] cs = some (a, b) ↔ cs = a ++ stop :: b ∧ stop ∉ a := by
  constructor
  · intro h
    refine ⟨by simpa using cut?_eq_some h, ?_⟩
    induction cs generalizing a with
    | nil => simp [cut?, after?] at h
    | cons c cs ih =>
      by_cases hc : stop = c
      · simp only [cut?, after?, hc, if_true] at h
        cases h
        simp
      · simp only [cut?, after?, hc, if_false] at h
        obtain ⟨p, hp, he⟩ := Option.map_eq_some_iff.1 h
        cases he
        simpa [hc] using ih (a := p.1) hp
  · rintro ⟨rfl, h⟩
    induction a with
    | nil => simp [cut?, after?]
    | cons c a ih =>
      obtain ⟨hc, ha⟩ := not_or.1 (mt List.mem_cons.2 h)
      simp [cut?, after?, hc, ih ha]

theorem between?_eq_some_iff {left right : Char} {cs a b : List Char} :
    between? left right cs = some (a, b) ↔ cs = left :: (a ++ right :: b) ∧ right ∉ a := by
  cases cs with
  | nil => simp [between?]
  | cons c cs =>
    by_cases hc : c = left
    · simp [between?, hc, cut?_char_eq_some_iff]
    · simp [between?, hc]

/-! ## 3. Replacing what a recogniser finds -/

/-- A recogniser of text: the text to write in place of what it recognises at the front, and the
    text that follows. -/
abbrev Rule := List Char → Option (List Char × List Char)

/-- Replaces from left to right. Where `rule` recognises the text ahead, its replacement is written
    and reading goes on behind it; elsewhere one character is copied. A rule that recognises
    nothing at all counts as failing, so every step reads on. -/
def replaceAll (rule : Rule) : List Char → List Char
  | [] => []
  | c :: cs =>
    match rule (c :: cs) with
    | some (out, rest) =>
      if rest.length ≤ cs.length then out ++ replaceAll rule rest else c :: replaceAll rule cs
    | none => c :: replaceAll rule cs
termination_by cs => cs.length

theorem replaceAll_nil (rule : Rule) : replaceAll rule [] = [] := by
  simp [replaceAll]

theorem replaceAll_cons_none {rule : Rule} {c : Char} {cs : List Char}
    (h : rule (c :: cs) = none) : replaceAll rule (c :: cs) = c :: replaceAll rule cs := by
  rw [replaceAll, h]

theorem replaceAll_cons_some {rule : Rule} {c : Char} {cs out rest : List Char}
    (h : rule (c :: cs) = some (out, rest)) (hl : rest.length ≤ cs.length) :
    replaceAll rule (c :: cs) = out ++ replaceAll rule rest := by
  rw [replaceAll, h]
  simp [hl]

/-- A text in which the rule finds nothing stays as it is. -/
theorem replaceAll_eq_self {rule : Rule} {cs : List Char}
    (h : ∀ t, t <:+ cs → rule t = none) : replaceAll rule cs = cs := by
  induction cs with
  | nil => exact replaceAll_nil rule
  | cons c cs ih =>
    rw [replaceAll_cons_none (h _ (List.suffix_refl _)),
      ih fun t ht => h t (ht.trans (List.suffix_cons c cs))]

/-- The rule that writes `new` for `old`. -/
def Rule.word (old new : List Char) : Rule := fun cs =>
  (after? old cs).map fun rest => (new, rest)

/-- The first of two rules that recognises the text. -/
def Rule.orElse (a b : Rule) : Rule := fun cs =>
  match a cs with
  | some r => some r
  | none => b cs

/-! ## 4. Offsets -/

/-- How many bytes a text takes in UTF-8. -/
def byteLength : List Char → Nat
  | [] => 0
  | c :: cs => c.utf8Size + byteLength cs

@[simp] theorem byteLength_nil : byteLength [] = 0 := rfl

@[simp] theorem byteLength_cons (c : Char) (cs : List Char) :
    byteLength (c :: cs) = c.utf8Size + byteLength cs := rfl

@[simp] theorem byteLength_append (a b : List Char) :
    byteLength (a ++ b) = byteLength a + byteLength b := by
  induction a with
  | nil => simp
  | cons c cs ih => simp [ih, Nat.add_assoc]

theorem byteLength_eq_zero_iff {cs : List Char} : byteLength cs = 0 ↔ cs = [] := by
  cases cs with
  | nil => simp
  | cons c cs =>
    have := c.utf8Size_pos
    simp only [byteLength_cons, reduceCtorEq, iff_false]
    omega

/-- Of two beginnings of a text, the one of fewer bytes is the beginning of the other. -/
theorem exists_append_of_byteLength_le {a b c d : List Char} (h : a ++ b = c ++ d)
    (hle : byteLength a ≤ byteLength c) : ∃ e, c = a ++ e ∧ b = e ++ d := by
  rcases List.append_eq_append_iff.1 h with ⟨e, hc, hb⟩ | ⟨e, ha, hd⟩
  · exact ⟨e, hc, hb⟩
  · have he : e = [] := by
      rw [ha, byteLength_append] at hle
      exact byteLength_eq_zero_iff.1 (by omega)
    rw [he, List.append_nil] at ha
    exact ⟨[], by rw [ha, List.append_nil], by rw [hd, he]; rfl⟩

theorem append_inj_of_byteLength {a b c d : List Char} (h : a ++ b = c ++ d)
    (hl : byteLength a = byteLength c) : a = c ∧ b = d := by
  obtain ⟨e, hc, hb⟩ := exists_append_of_byteLength_le h (Nat.le_of_eq hl)
  have he : e = [] := by
    rw [hc, byteLength_append] at hl
    exact byteLength_eq_zero_iff.1 (by omega)
  rw [he, List.append_nil] at hc
  exact ⟨hc.symm, by rw [hb, he]; rfl⟩

end Galley.Text
