import Galley.Proofs.Label.Apart

/-!
# Numbering without gaps

Which works a run has is told by the calls alone: there is one work for the first call of every
key, in the order of these calls. Where all of them that came with one rendered label share their
first family name, their labels are that label with the numerals 0, 1, 2, … as letters, whatever
was called for in between. Main statement: `labels_kept_and_numbered`.
-/

namespace Galley.Label

/-! ## 1. The first call for a key -/

/-- The call that a work was added by. -/
def Assigned.call (a : Assigned) : Call := ⟨a.key, a.reference, a.rendered⟩

/-- The calls for a key that no call before them was for. -/
def firstCalls (calls : List Call) : List Call :=
  calls.eraseDupsBy fun b c => b.key == c.key

/-- Those of the first calls that came with one rendered label. -/
def firstCallsFor (calls : List Call) (rendered : String) : List Call :=
  (firstCalls calls).filter fun c => c.rendered == rendered

theorem firstCalls_cons (c : Call) (calls : List Call) :
    firstCalls (c :: calls) = c :: firstCalls (calls.filter fun b => b.key != c.key) := by
  rw [firstCalls, List.eraseDupsBy_cons, firstCalls]
  congr 3
  funext b
  cases h : b.key == c.key <;> simp [bne, h]

namespace Disambiguator

/-- After a call for a new key, a key is new when it was new before and is not the one called. -/
theorem isNone_label?_append (d : Disambiguator) (a : Assigned) (key : String) :
    (label? (d ++ [a]) key).isNone = (key != a.key && (d.label? key).isNone) := by
  rw [Bool.eq_iff_iff]
  simp only [Bool.and_eq_true, bne_iff_ne, ne_eq, Option.isNone_iff_eq_none, label?_eq_none_iff,
    List.forall_mem_append, List.forall_mem_singleton]
  exact ⟨fun h => ⟨fun e => h.2 e.symm, h.1⟩, fun h => ⟨h.2, fun e => h.1 e.symm⟩⟩

/-- A run adds one work for the first call of every key that is new. -/
theorem map_call_run (d : Disambiguator) (calls : List Call) :
    (d.run calls).map Assigned.call =
      d.map Assigned.call ++ firstCalls (calls.filter fun c => (d.label? c.key).isNone) := by
  induction calls generalizing d with
  | nil => exact (List.append_nil _).symm
  | cons c calls ih =>
    rw [run_cons, ih]
    cases hc : d.label? c.key with
    | some label => rw [called_of_some hc, List.filter_cons_of_neg (by simp [hc])]
    | none =>
      have hnew : calls.filter (fun b => (label? (d ++ [d.made c]) b.key).isNone) =
          (calls.filter fun b => (d.label? b.key).isNone).filter fun b => b.key != c.key := by
        rw [List.filter_filter]
        exact List.filter_congr fun b _ => isNone_label?_append d (d.made c) b.key
      rw [called_of_none hc, List.filter_cons_of_pos (by simp [hc]), firstCalls_cons, hnew,
        List.map_append, List.append_assoc]
      rfl

/-- **The works of a run are the first calls of the keys**, in their order. -/
theorem map_call_run_nil (calls : List Call) :
    (run [] calls).map Assigned.call = firstCalls calls := by
  have hall : (calls.filter fun c => (label? [] c.key).isNone) = calls :=
    List.filter_eq_self.2 fun c _ => rfl
  rw [map_call_run, List.map_nil, List.nil_append, hall]

theorem map_call_colliding (calls : List Call) (rendered : String) :
    ((run [] calls).colliding rendered).map Assigned.call = firstCallsFor calls rendered := by
  rw [firstCallsFor, ← map_call_run_nil, List.filter_map]
  rfl

/-! ## 2. The number of a work -/

variable {d : Disambiguator} {rendered : String}

/-- The n-th work with a rendered label has the number n. -/
theorem number_of_getElem? (h : HandedOut d) {n : Nat} {a : Assigned}
    (ha : (d.colliding rendered)[n]? = some a) : d.number a = n := by
  induction h generalizing n with
  | nil => cases ha
  | @call d c _ hc ih =>
    rw [colliding_append] at ha
    by_cases hn : n < (d.colliding rendered).length
    · rw [List.getElem?_append_left hn] at ha
      have hmem : a ∈ d := List.mem_of_mem_filter (List.mem_of_getElem? ha)
      rw [number, rivals_append_of_mem hmem]
      exact ih ha
    · rw [List.getElem?_append_right (Nat.le_of_not_lt hn)] at ha
      split at ha
      · next hr =>
        have hr : c.rendered = rendered := hr
        obtain ⟨hzero, ha⟩ := List.getElem?_eq_some_iff.1 ha
        obtain rfl : d.made c = a := by simpa using ha
        rw [List.length_singleton] at hzero
        rw [number, rivals_made hc, hr]
        omega
      · cases ha

/-- Works that share their first family name with all that have their rendered label are
    numbered. -/
theorem not_composed_of_sameFamily {a : Assigned} (ha : a ∈ d.colliding rendered)
    (hf : ∀ b ∈ d.colliding rendered, firstFamily? b.reference = firstFamily? a.reference) :
    ¬ d.Composed a := by
  rintro ⟨b, hb, hne⟩
  have hr : a.rendered = rendered := by simpa using (List.mem_filter.1 ha).2
  rw [rivals, hr] at hb
  have hbefore : d.before a.key ⊆ d := (List.takeWhile_prefix _).subset
  exact hne (hf b (List.mem_filter.2 ⟨hbefore (List.mem_filter.1 hb).1, (List.mem_filter.1 hb).2⟩))

/-! ## 3. The labels of a run -/

/-- A label with the numeral of a number as letters, inside its closing parenthesis. -/
def lettered (rendered : String) (n : Nat) : String :=
  String.ofList (stem rendered.toList ++ numeral n ++ closing rendered.toList)

theorem numberedLabel_eq_lettered (rendered : String) (n : Nat) :
    numberedLabel rendered n = lettered rendered n := by
  rw [← String.toList_inj, numberedLabel, toList_withSuffix, lettered, String.toList_ofList,
    String.toList_ofList]

theorem lettered_zero (rendered : String) : lettered rendered 0 = rendered := by
  rw [lettered, numeral_zero, List.append_nil, stem_append_closing, String.ofList_toList]

theorem lettered_inj {m n : Nat} (h : lettered rendered m = lettered rendered n) : m = n := by
  rw [← numberedLabel_eq_lettered, ← numberedLabel_eq_lettered] at h
  have hs := ((withSuffix_eq_iff (closing_not_mem_numeral m) (closing_not_mem_numeral n)).1 h).1
  exact numeral_injective (List.append_cancel_left hs)

/-- The first calls that came with one rendered label share their first family name, or all have
    none. -/
def SameFamily (calls : List Call) : Prop :=
  ∀ b ∈ calls, ∀ c ∈ calls, firstFamily? b.reference = firstFamily? c.reference

instance (calls : List Call) : Decidable (SameFamily calls) :=
  inferInstanceAs (Decidable
    (∀ b ∈ calls, ∀ c ∈ calls, firstFamily? b.reference = firstFamily? c.reference))

/-- The n-th of the calls has the label with the n-th numeral, counted from zero. -/
theorem label?_of_sameFamily {calls : List Call} (hf : SameFamily (firstCallsFor calls rendered))
    {n : Nat} {c : Call} (hc : (firstCallsFor calls rendered)[n]? = some c) :
    (run [] calls).label? c.key = some (lettered rendered n) := by
  have h := handedOut_run HandedOut.nil calls
  rw [← map_call_colliding] at hf hc
  generalize run [] calls = d at h hf hc
  rw [List.getElem?_map] at hc
  obtain ⟨a, ha, rfl⟩ := Option.map_eq_some_iff.1 hc
  have hmem := List.mem_of_getElem? ha
  have had : a ∈ d := List.mem_of_mem_filter hmem
  have hr : a.rendered = rendered := by simpa using (List.mem_filter.1 hmem).2
  have hnot : ¬ d.Composed a := not_composed_of_sameFamily hmem fun b hb =>
    hf _ (List.mem_map_of_mem hb) _ (List.mem_map_of_mem hmem)
  show d.label? a.key = _
  rw [label?_of_mem (nodup_keys h) had, label_eq_labelText h a had, labelText_of_numbered hnot, hr,
    number_of_getElem? h ha, numberedLabel_eq_lettered]

/-- No two of these calls have the same label. -/
theorem nodup_labels_of_sameFamily {calls : List Call}
    (hf : SameFamily (firstCallsFor calls rendered)) :
    ((firstCallsFor calls rendered).map fun c => (run [] calls).label? c.key).Nodup := by
  refine List.nodup_iff_getElem?_ne_getElem?.2 fun m n hmn hn he => ?_
  rw [List.length_map] at hn
  have hm : m < (firstCallsFor calls rendered).length := Nat.lt_trans hmn hn
  rw [List.getElem?_map, List.getElem?_map, List.getElem?_eq_getElem hm,
    List.getElem?_eq_getElem hn, Option.map_some, Option.map_some,
    label?_of_sameFamily hf (List.getElem?_eq_getElem hm),
    label?_of_sameFamily hf (List.getElem?_eq_getElem hn)] at he
  exact Nat.ne_of_lt hmn (lettered_inj (Option.some.inj (Option.some.inj he)))

/-- **A key keeps its label, and works of one family name are numbered without gaps.** A call for
    a key that has a label gives that label and changes nothing, and no further calls change it.
    Where all first calls with one rendered label share their first family name, the first of them
    has that label, the one at place n behind it has the n-th numeral as letters, and no two of
    these labels are the same. -/
theorem labels_kept_and_numbered (calls : List Call) :
    (∀ key label, (run [] calls).label? key = some label →
      (∀ more, (run [] (calls ++ more)).label? key = some label) ∧
        ∀ reference rendered,
          (run [] calls).assign key reference rendered = (label, run [] calls)) ∧
      given [] calls = calls.map (fun c => (run [] calls).shown c.key) ∧
      ∀ rendered, SameFamily (firstCallsFor calls rendered) →
        (∀ n c, (firstCallsFor calls rendered)[n]? = some c →
          (run [] calls).label? c.key =
            some (if n = 0 then rendered else lettered rendered n)) ∧
        ((firstCallsFor calls rendered).map fun c => (run [] calls).label? c.key).Nodup := by
  refine ⟨fun key label h => ⟨fun more => ?_, fun reference rendered => ?_⟩,
    given_eq_map [] calls,
    fun rendered hf => ⟨fun n c hc => ?_, nodup_labels_of_sameFamily hf⟩⟩
  · rw [run, List.foldl_append]
    exact label?_run_of_some h more
  · exact assign_of_some h reference rendered
  · rw [label?_of_sameFamily hf hc]
    split
    · next hn => rw [hn, lettered_zero]
    · rfl

/-- Works of Jae Lee of one year, each called for twice, with a work of another year between them. -/
def callsForLee : List Call :=
  (List.range 28).flatMap fun i =>
    [callForLee (toString i) "2021", callForLee "early" "1999", callForLee (toString i) "2021"]

/-- Behind the letter "z" come two letters. -/
theorem labels_numbered_past_z :
    SameFamily (firstCallsFor callsForLee "(Lee, 2021)") ∧
      (run [] callsForLee).label? "26" = some "(Lee, 2021z)" ∧
      (run [] callsForLee).label? "27" = some "(Lee, 2021aa)" := by
  have hf : SameFamily (firstCallsFor callsForLee "(Lee, 2021)") := by decide +kernel
  have h26 : (firstCallsFor callsForLee "(Lee, 2021)")[26]? = some (callForLee "26" "2021") := by
    decide +kernel
  have h27 : (firstCallsFor callsForLee "(Lee, 2021)")[27]? = some (callForLee "27" "2021") := by
    decide +kernel
  have hz : numeral 26 = ['z'] := by
    rw [numeral_succ, show 25 / 26 = 0 from rfl, numeral_zero]
    rfl
  have haa : numeral 27 = ['a', 'a'] := by
    rw [numeral_succ, show 26 / 26 = 1 from rfl, numeral_one]
    rfl
  obtain ⟨hlabels, -⟩ := (labels_kept_and_numbered callsForLee).2.2 _ hf
  refine ⟨hf, ?_, ?_⟩
  · rw [show "26" = (callForLee "26" "2021").key from rfl, hlabels 26 _ h26, if_neg (by decide),
      lettered, hz]
    decide +kernel
  · rw [show "27" = (callForLee "27" "2021").key from rfl, hlabels 27 _ h27, if_neg (by decide),
      lettered, haa]
    decide +kernel

end Disambiguator

end Galley.Label
