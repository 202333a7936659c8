import Galley.Proofs.Label.Letters
import Galley.Proofs.Label.Run

/-!
# When labels are apart

The label of a work follows from the works before it. As long as the works that had its rendered
label share its first family name, it is *numbered*: it has the rendered label with the numeral of
their number as letters, and none have the same number. Otherwise it is *composed* of author names.
Nothing compares a label with what was handed out before, so two labels may be the same text.
Main statement: `labelsApart_run_iff` says exactly when that happens.
-/

namespace Galley.Label.Disambiguator

/-! ## 1. Numbered and composed labels -/

/-- The works that came before a key. -/
def before (d : Disambiguator) (key : String) : Disambiguator :=
  d.takeWhile fun a => a.key != key

/-- The works before `a` that had its rendered label. -/
def rivals (d : Disambiguator) (a : Assigned) : List Assigned :=
  (d.before a.key).colliding a.rendered

/-- How many works before `a` had its rendered label. -/
def number (d : Disambiguator) (a : Assigned) : Nat := (d.rivals a).length

/-- One of the rivals of a work has another first family name. -/
def Divided (rivals : List Assigned) (reference : Option Reference) : Prop :=
  ∃ b ∈ rivals, firstFamily? b.reference ≠ firstFamily? reference

instance (rivals : List Assigned) (reference : Option Reference) :
    Decidable (Divided rivals reference) :=
  inferInstanceAs (Decidable (∃ b ∈ rivals, firstFamily? b.reference ≠ firstFamily? reference))

/-- The label of `a` is composed of author names. -/
def Composed (d : Disambiguator) (a : Assigned) : Prop := Divided (d.rivals a) a.reference

/-- The label with the numeral of a number as letters; with zero, the label itself. -/
def numberedLabel (rendered : String) (n : Nat) : String :=
  withSuffix rendered (String.ofList (numeral n))

/-- The letters of a numbered label. -/
def numberedSuffix (n : Nat) : Option String :=
  if n = 0 then none else some (String.ofList (numeral n))

/-- A label of author names, which sets a work apart from its rivals. -/
def composedLabel (rivals : List Assigned) (reference : Option Reference) : String :=
  let names := namesOf reference
  let year := (reference.bind Reference.year).getD AuthorDate.noDate
  if ∀ b ∈ rivals, firstInitial? b.reference = firstInitial? reference then
    expandedInitials names year
  else differingAuthors names rivals year

/-- The label that the rivals of a work give it. -/
def labelAmong (rivals : List Assigned) (reference : Option Reference) (rendered : String) :
    String :=
  if Divided rivals reference then composedLabel rivals reference
  else numberedLabel rendered rivals.length

/-- The label of a work, from the references and rendered labels of the works before it. -/
def labelText (d : Disambiguator) (a : Assigned) : String :=
  labelAmong (d.rivals a) a.reference a.rendered

theorem colliding_append (d : Disambiguator) (a : Assigned) (rendered : String) :
    colliding (d ++ [a]) rendered =
      d.colliding rendered ++ if a.rendered = rendered then [a] else [] := by
  by_cases h : a.rendered = rendered <;> simp [colliding, List.filter_append, h]

/-- A work added later is not before a key that has a label. -/
theorem before_append_of_mem {d : Disambiguator} {a : Assigned} (ha : a ∈ d) (x : Assigned) :
    before (d ++ [x]) a.key = d.before a.key := by
  have hne : (d.takeWhile fun b => b.key != a.key).length ≠ d.length := by
    intro he
    have hd : (d.takeWhile fun b => b.key != a.key) = d :=
      (List.takeWhile_prefix _).eq_of_length he
    have hall := List.all_takeWhile (p := fun b : Assigned => b.key != a.key) (l := d)
    rw [hd, List.all_eq_true] at hall
    simpa using hall a ha
  rw [before, List.takeWhile_append, if_neg hne, before]

/-- Every work is before a new key. -/
theorem before_append_of_new {d : Disambiguator} {c : Call} (h : d.label? c.key = none)
    (more : List Assigned) : before (d ++ d.made c :: more) c.key = d := by
  have hall : ∀ a ∈ d, (a.key != c.key) = true := fun a ha => by
    simpa using label?_eq_none_iff.1 h a ha
  rw [before, List.takeWhile_append_of_pos hall, List.takeWhile_cons_of_neg (by simp [made]),
    List.append_nil]

theorem rivals_append_of_mem {d : Disambiguator} {a : Assigned} (ha : a ∈ d) (x : Assigned) :
    rivals (d ++ [x]) a = d.rivals a := by
  rw [rivals, before_append_of_mem ha, rivals]

theorem rivals_made {d : Disambiguator} {c : Call} (h : d.label? c.key = none) :
    rivals (d ++ [d.made c]) (d.made c) = d.colliding c.rendered := by
  show (before (d ++ [d.made c]) c.key).colliding c.rendered = _
  rw [before_append_of_new h]

/-! ## 2. The label of a work -/

theorem distinguish_numbered {rivals : List Assigned} {reference : Option Reference}
    (rendered : String) (hf : ¬ Divided rivals reference)
    (hs : lastSuffix? rivals = numberedSuffix (rivals.length - 1)) :
    distinguish rivals reference rendered =
      (numberedLabel rendered rivals.length, numberedSuffix rivals.length) := by
  cases rivals with
  | nil =>
    rw [List.length_nil, numberedLabel, withSuffix_eq_self_iff.2 numeral_zero]
    rfl
  | cons b bs =>
    have hall : ((b :: bs).all fun a => firstFamily? a.reference == firstFamily? reference)
        = true := by
      simpa [Divided] using hf
    have hl : lastSuffix? (b :: bs) = numberedSuffix bs.length := hs
    have hn : nextSuffix (numberedSuffix bs.length) =
        String.ofList (numeral (bs.length + 1)) := by
      unfold numberedSuffix
      split
      · next h0 => rw [h0, nextSuffix_none]
      · next h0 => exact nextSuffix_numeral (Nat.pos_of_ne_zero h0)
    simp only [distinguish, hall, hl, hn, List.isEmpty_cons, Bool.false_eq_true, if_false, if_true]
    rfl

theorem distinguish_composed {rivals : List Assigned} {reference : Option Reference}
    (rendered : String) (hf : Divided rivals reference) :
    distinguish rivals reference rendered = (composedLabel rivals reference, none) := by
  obtain ⟨b, hb, hne⟩ := hf
  have hnil : rivals.isEmpty = false := by simpa using List.ne_nil_of_mem hb
  have hall : (rivals.all fun a => firstFamily? a.reference == firstFamily? reference)
      = false := by
    simpa using ⟨b, hb, hne⟩
  simp only [distinguish, hnil, hall, composedLabel, Bool.false_eq_true, if_false,
    List.all_eq_true, beq_iff_eq]
  split <;> rfl

/-- As long as all works with a rendered label share their first family name, the last of them has
    the numeral of its number. -/
theorem lastSuffix?_colliding {d : Disambiguator} (h : HandedOut d) {rendered : String}
    {family : Option String}
    (hf : ∀ b ∈ d.colliding rendered, firstFamily? b.reference = family) :
    lastSuffix? (d.colliding rendered) = numberedSuffix ((d.colliding rendered).length - 1) := by
  induction h with
  | nil => rfl
  | @call d c hd _ ih =>
    rw [colliding_append] at hf ⊢
    have hold : ∀ b ∈ d.colliding rendered, firstFamily? b.reference = family := fun b hb =>
      hf b (List.mem_append_left _ hb)
    by_cases hr : c.rendered = rendered
    · subst hr
      have hm : (d.made c).rendered = c.rendered := rfl
      rw [if_pos hm] at hf ⊢
      have hc : firstFamily? c.reference = family :=
        hf (d.made c) (List.mem_append_right _ (List.mem_singleton_self _))
      have hdiv : ¬ Divided (d.colliding c.rendered) c.reference := by
        rintro ⟨b, hb, hne⟩
        exact hne ((hold b hb).trans hc.symm)
      rw [lastSuffix?, List.getLast?_concat, Option.bind_some, List.length_append]
      show (distinguish (d.colliding c.rendered) c.reference c.rendered).2 = _
      rw [distinguish_numbered c.rendered hdiv (ih hold)]
      rfl
    · have hm : (d.made c).rendered ≠ rendered := hr
      rw [if_neg hm, List.append_nil] at *
      exact ih hold

theorem made_label {d : Disambiguator} (h : HandedOut d) (c : Call) :
    (d.made c).label = labelAmong (d.colliding c.rendered) c.reference c.rendered := by
  show (distinguish (d.colliding c.rendered) c.reference c.rendered).1 = _
  unfold labelAmong
  split
  · next hf => rw [distinguish_composed c.rendered hf]
  · next hf =>
    have hsame : ∀ b ∈ d.colliding c.rendered,
        firstFamily? b.reference = firstFamily? c.reference := by
      simpa [Divided] using hf
    rw [distinguish_numbered c.rendered hf (lastSuffix?_colliding h hsame)]

/-- **The label of every work of a run is the one that the works before it give.** -/
theorem label_eq_labelText {d : Disambiguator} (h : HandedOut d) :
    ∀ a ∈ d, a.label = d.labelText a := by
  induction h with
  | nil => intro a ha; cases ha
  | @call d c hd hc ih =>
    intro a ha
    rcases List.mem_append.1 ha with ha | ha
    · rw [ih a ha, labelText, labelText, rivals_append_of_mem ha]
    · obtain rfl := List.mem_singleton.1 ha
      rw [made_label hd, labelText, rivals_made hc]
      rfl

theorem labelText_of_numbered {d : Disambiguator} {a : Assigned} (h : ¬ d.Composed a) :
    d.labelText a = numberedLabel a.rendered (d.number a) := by
  have hd : ¬ Divided (d.rivals a) a.reference := h
  rw [labelText, labelAmong, if_neg hd, number]

/-! ## 3. Numbers are used once -/

theorem number_lt {d : Disambiguator} (h : HandedOut d) :
    ∀ a ∈ d, d.number a < (d.colliding a.rendered).length := by
  induction h with
  | nil => intro a ha; cases ha
  | @call d c _ hc ih =>
    intro a ha
    rw [colliding_append, List.length_append, number]
    rcases List.mem_append.1 ha with ha | ha
    · rw [rivals_append_of_mem ha]
      exact Nat.lt_of_lt_of_le (ih a ha) (Nat.le_add_right _ _)
    · obtain rfl := List.mem_singleton.1 ha
      have hr : (d.made c).rendered = c.rendered := rfl
      rw [rivals_made hc, hr, if_pos rfl, List.length_singleton]
      exact Nat.lt_succ_self _

/-- **Works with one rendered label have different numbers.** -/
theorem number_injective {d : Disambiguator} (h : HandedOut d) :
    ∀ a ∈ d, ∀ b ∈ d, a.rendered = b.rendered → d.number a = d.number b → a = b := by
  induction h with
  | nil => intro a ha; cases ha
  | @call d c hd hc ih =>
    -- a new work has as its number how many there were, and all numbers before it are smaller
    have hnew : ∀ a ∈ d, a.rendered = c.rendered →
        number (d ++ [d.made c]) a ≠ number (d ++ [d.made c]) (d.made c) := by
      intro a ha hr he
      have hlt := number_lt hd a ha
      rw [number, rivals_append_of_mem ha, number, rivals_made hc, ← hr] at he
      exact Nat.ne_of_lt hlt he
    intro a ha b hb hr he
    rcases List.mem_append.1 ha with ha | ha <;> rcases List.mem_append.1 hb with hb | hb
    · rw [number, number, rivals_append_of_mem ha, rivals_append_of_mem hb] at he
      exact ih a ha b hb hr he
    · obtain rfl := List.mem_singleton.1 hb
      exact absurd he (hnew a ha hr)
    · obtain rfl := List.mem_singleton.1 ha
      exact absurd he.symm (hnew b hb hr.symm)
    · rw [List.mem_singleton.1 ha, List.mem_singleton.1 hb]

/-! ## 4. Labels that are the same text -/

/-- Different keys have different labels. -/
def LabelsApart (d : Disambiguator) : Prop :=
  ∀ k₁ k₂ l₁ l₂, d.label? k₁ = some l₁ → d.label? k₂ = some l₂ → k₁ ≠ k₂ → l₁ ≠ l₂

/-- A label of author names is the same text as the label of another work. -/
def ComposedClash (d : Disambiguator) : Prop :=
  ∃ a ∈ d, ∃ b ∈ d, a.key ≠ b.key ∧ d.Composed a ∧ d.labelText a = d.labelText b

/-- The rendered label of `b` is that of `a` with letters behind its year, and the letters of `a`
    are these with the letters of `b` behind them. -/
def LettersClash (d : Disambiguator) : Prop :=
  ∃ a ∈ d, ∃ b ∈ d, ¬ d.Composed a ∧ ¬ d.Composed b ∧
    ∃ t, t ≠ [] ∧ b.rendered = withSuffix a.rendered (String.ofList t) ∧
      t ++ numeral (d.number b) = numeral (d.number a)

/-- Numbered labels of different works are the same text only when one rendered label is the other
    with letters. -/
theorem lettersClash_of_stem {d : Disambiguator} {a b : Assigned} (ha : a ∈ d) (hb : b ∈ d)
    (hca : ¬ d.Composed a) (hcb : ¬ d.Composed b) (hr : a.rendered ≠ b.rendered) {t : List Char}
    (hs : stem b.rendered.toList = stem a.rendered.toList ++ t)
    (hc : closing b.rendered.toList = closing a.rendered.toList)
    (hn : numeral (d.number a) = t ++ numeral (d.number b)) : LettersClash d := by
  have hren : b.rendered = withSuffix a.rendered (String.ofList t) := by
    rw [← String.toList_inj, toList_withSuffix, String.toList_ofList, ← hs, ← hc,
      stem_append_closing]
  refine ⟨a, ha, b, hb, hca, hcb, t, ?_, hren, hn.symm⟩
  intro ht
  exact hr (hren.trans (withSuffix_eq_self_iff.2 ht)).symm

theorem clash_of_labels_eq {d : Disambiguator} (h : HandedOut d) {a b : Assigned} (ha : a ∈ d)
    (hb : b ∈ d) (hk : a.key ≠ b.key) (he : d.labelText a = d.labelText b) :
    ComposedClash d ∨ LettersClash d := by
  by_cases hca : d.Composed a
  · exact Or.inl ⟨a, ha, b, hb, hk, hca, he⟩
  by_cases hcb : d.Composed b
  · exact Or.inl ⟨b, hb, a, ha, hk.symm, hcb, he.symm⟩
  right
  rw [labelText_of_numbered hca, labelText_of_numbered hcb] at he
  obtain ⟨hs, hc⟩ := (withSuffix_eq_iff (closing_not_mem_numeral _)
    (closing_not_mem_numeral _)).1 he
  have hr : a.rendered ≠ b.rendered := by
    intro hr
    rw [hr] at hs
    have hn := numeral_injective (List.append_cancel_left hs)
    exact hk (congrArg Assigned.key (number_injective h a ha b hb hr hn))
  rcases List.append_eq_append_iff.1 hs with ⟨t, hs, hn⟩ | ⟨t, hs, hn⟩
  · exact lettersClash_of_stem ha hb hca hcb hr hs hc.symm hn
  · exact lettersClash_of_stem hb ha hcb hca hr.symm hs hc hn

theorem labels_eq_of_lettersClash {d : Disambiguator} (h : LettersClash d) :
    ∃ a ∈ d, ∃ b ∈ d, a.rendered ≠ b.rendered ∧ d.labelText a = d.labelText b := by
  obtain ⟨a, ha, b, hb, hca, hcb, t, ht, hr, hn⟩ := h
  have hmem : ')' ∉ t := fun hm =>
    closing_not_mem_numeral (d.number a) (hn ▸ List.mem_append_left _ hm)
  refine ⟨a, ha, b, hb, ?_, ?_⟩
  · intro he
    exact ht (withSuffix_eq_self_iff.1 (hr.symm.trans he.symm))
  · rw [labelText_of_numbered hca, labelText_of_numbered hcb, numberedLabel, numberedLabel, hr,
      withSuffix_withSuffix hmem, hn]

/-- **When two keys have one label.** After any calls, from no labels on, different keys have
    different labels unless a label of author names is the same text as another label, or one
    rendered label is another one with letters and the numerals meet. -/
theorem labelsApart_run_iff (calls : List Call) :
    LabelsApart (run [] calls) ↔
      ¬ ComposedClash (run [] calls) ∧ ¬ LettersClash (run [] calls) := by
  have h := handedOut_run HandedOut.nil calls
  generalize run [] calls = d at h
  have hlab : ∀ a ∈ d, d.label? a.key = some (d.labelText a) := fun a ha => by
    rw [label?_of_mem (nodup_keys h) ha, label_eq_labelText h a ha]
  constructor
  · intro hapart
    constructor
    · rintro ⟨a, ha, b, hb, hk, -, he⟩
      exact hapart _ _ _ _ (hlab a ha) (hlab b hb) hk he
    · intro hl
      obtain ⟨a, ha, b, hb, hr, he⟩ := labels_eq_of_lettersClash hl
      have hk : a.key ≠ b.key := by
        intro hk
        exact hr (congrArg Assigned.rendered (eq_of_key_eq h ha hb hk))
      exact hapart _ _ _ _ (hlab a ha) (hlab b hb) hk he
  · rintro ⟨hc, hl⟩ k₁ k₂ l₁ l₂ h₁ h₂ hk he
    obtain ⟨a, ha, rfl, rfl⟩ := exists_of_label? h₁
    obtain ⟨b, hb, rfl, rfl⟩ := exists_of_label? h₂
    rw [label_eq_labelText h a ha, label_eq_labelText h b hb] at he
    exact (clash_of_labels_eq h ha hb hk he).elim hc hl

/-- A call for a work of one author, Jae Lee, in the author-date style. -/
def callForLee (key year : String) : Call where
  key := key
  reference := some { (default : Reference) with authors := [⟨"Lee", "Jae"⟩], year := some year }
  rendered := "(Lee, " ++ year ++ ")"

/-- A year that is written with a letter meets the letter that an earlier label was given. -/
theorem not_labelsApart_year_with_letter :
    ¬ LabelsApart
      (run [] [callForLee "a" "2021", callForLee "b" "2021", callForLee "c" "2021a"]) := by
  intro h
  have hb : label? (run [] [callForLee "a" "2021", callForLee "b" "2021",
      callForLee "c" "2021a"]) "b" = some "(Lee, 2021a)" := by decide +kernel
  have hc : label? (run [] [callForLee "a" "2021", callForLee "b" "2021",
      callForLee "c" "2021a"]) "c" = some "(Lee, 2021a)" := by decide +kernel
  exact h _ _ _ _ hb hc (by decide) rfl

end Galley.Label.Disambiguator
