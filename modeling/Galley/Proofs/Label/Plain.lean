import Galley.Label.Inline
import Galley.Proofs.Label.Apart
import Galley.Proofs.Label.Parts
import Galley.Proofs.Text.Plain

/-!
# Labels of plain text

A label that is kept apart from others is made of the rendered label, of letters, and of the family
names and the year of its own work; what an occurrence shows is made of its label and its notes. So
where these are plain, nothing that is shown holds a backslash or a brace. Main statements:
`plain_label_of_run` and `plain_inline`.
-/

namespace Galley

open Galley.Text

/-- The names and the year of a work are plain text. Of given names only letters are shown, so
    nothing is asked of them. -/
structure Reference.IsPlain (r : Reference) : Prop where
  names : ∀ n ∈ r.names, Plain n.family.toList
  year : ∀ year ∈ r.year, Plain year.toList

namespace Label

/-! ## 1. Labels that are kept apart -/

theorem plain_numeral (n : Nat) : Plain (numeral n) := by
  intro c hc
  obtain ⟨i, hi, rfl⟩ := mem_numeral hc
  exact (by decide : ∀ i < 26, isControl (letterAt i) = false) i hi

theorem plain_withSuffix {r s : String} (hr : Plain r.toList) (hs : Plain s.toList) :
    Plain (withSuffix r s).toList := by
  rw [← stem_append_closing r.toList, plain_append] at hr
  rw [toList_withSuffix, plain_append, plain_append]
  exact ⟨⟨hr.1, hs⟩, hr.2⟩

theorem not_isControl_of_isLetter {c : Char} (h : isLetter c = true) : isControl c = false := by
  have hno : isLetter '\\' = false ∧ isLetter '\x7b' = false ∧ isLetter '\x7d' = false := by
    decide +kernel
  cases hc : isControl c with
  | false => rfl
  | true =>
    simp only [isControl, Bool.or_eq_true, decide_eq_true_eq] at hc
    grind

theorem plain_labelOf {author year : String} :
    Plain (labelOf author year).toList ↔ Plain author.toList ∧ Plain year.toList := by
  rw [toList_labelOf]
  simp [isControl]

section Names

variable {names : List Name} {year : String} (hnames : ∀ n ∈ names, Plain n.family.toList)
  (hyear : Plain year.toList)

include hnames hyear

theorem plain_expandedInitials : Plain (expandedInitials names year).toList := by
  cases names with
  | nil =>
    show Plain ("(" ++ year ++ ")").toList
    rw [String.toList_append, String.toList_append, plain_append, plain_append]
    exact ⟨⟨by decide, hyear⟩, by decide⟩
  | cons first rest =>
    rw [expandedInitials_cons, plain_labelOf]
    refine ⟨fun c hc => ?_, hyear⟩
    rcases mem_initialsPart hc with hletter | hmark | ⟨n, hn, hc⟩
    · exact not_isControl_of_isLetter hletter
    · exact (by decide : Plain ". ,".toList) c hmark
    · exact hnames n hn c hc

theorem plain_differingAuthors (rivals : List Assigned) :
    Plain (differingAuthors names rivals year).toList := by
  rw [differingAuthors_eq, plain_labelOf]
  refine ⟨fun c hc => ?_, hyear⟩
  rcases mem_differingPart hc with hmark | ⟨n, hn, hc⟩
  · exact (by decide : Plain ", et al.".toList) c hmark
  · exact hnames n hn c hc

end Names

theorem plain_labelAmong (rivals : List Assigned) {reference : Option Reference}
    {rendered : String} (hreference : ∀ r ∈ reference, r.IsPlain)
    (hrendered : Plain rendered.toList) :
    Plain (Disambiguator.labelAmong rivals reference rendered).toList := by
  have hnames : ∀ n ∈ namesOf reference, Plain n.family.toList := by
    cases reference with
    | none => simp [namesOf]
    | some r => exact (hreference r rfl).names
  have hyear : Plain ((reference.bind Reference.year).getD AuthorDate.noDate).toList := by
    cases hy : reference.bind Reference.year with
    | none => decide
    | some year =>
      obtain ⟨r, hr, hyear⟩ := Option.bind_eq_some_iff.1 hy
      exact (hreference r hr).year year hyear
  unfold Disambiguator.labelAmong
  split
  · unfold Disambiguator.composedLabel
    extract_lets names year
    split
    · exact plain_expandedInitials hnames hyear
    · exact plain_differingAuthors hnames hyear rivals
  · exact plain_withSuffix hrendered (by rw [String.toList_ofList]; exact plain_numeral _)

/-! ## 2. The labels of a run -/

/-- A call whose label is made of plain text. -/
structure Call.IsPlain (c : Call) : Prop where
  reference : ∀ r ∈ c.reference, r.IsPlain
  rendered : Plain c.rendered.toList

namespace Disambiguator

/-- Every work of a run comes from a call. -/
theorem exists_call_of_mem_run {d : Disambiguator} {calls : List Call} {a : Assigned}
    (h : a ∈ d.run calls) :
    a ∈ d ∨ ∃ c ∈ calls, a.key = c.key ∧ a.reference = c.reference ∧ a.rendered = c.rendered := by
  induction calls generalizing d with
  | nil => exact Or.inl h
  | cons c calls ih =>
    rcases ih h with hd | ⟨c', hc', ha⟩
    · cases hc : d.label? c.key with
      | some label => exact Or.inl (called_of_some hc ▸ hd)
      | none =>
        rw [called_of_none hc, List.mem_append, List.mem_singleton] at hd
        rcases hd with hd | rfl
        · exact Or.inl hd
        · exact Or.inr ⟨c, List.mem_cons_self, rfl, rfl, rfl⟩
    · exact Or.inr ⟨c', List.mem_cons_of_mem _ hc', ha⟩

/-- **The label of a key is plain** when the calls for this key are, whatever other calls there
    are. -/
theorem plain_label_of_run {calls : List Call} {key label : String}
    (h : (run [] calls).label? key = some label) (hcalls : ∀ c ∈ calls, c.key = key → c.IsPlain) :
    Plain label.toList := by
  obtain ⟨a, ha, rfl, rfl⟩ := exists_of_label? h
  rcases exists_call_of_mem_run ha with hnil | ⟨c, hc, hkey, hreference, hrendered⟩
  · cases hnil
  · obtain ⟨hr, hl⟩ := hcalls c hc hkey.symm
    rw [label_eq_labelText (handedOut_run .nil calls) a ha, labelText, hreference, hrendered]
    exact plain_labelAmong _ hr hl

end Disambiguator

/-! ## 3. The text of an occurrence -/

section Inline

variable {o : Occurrence} {label : String} (hlabel : Plain label.toList)
  (hbefore : ∀ note ∈ o.before, Plain note.toList) (hafter : ∀ note ∈ o.after, Plain note.toList)

include hlabel in
/-- The parts of a plain label are plain. -/
theorem plain_of_find? {p : AuthorYear} (hp : AuthorYear.find? label.toList = some p) :
    Plain p.front ∧ Plain p.author ∧ Plain p.year ∧ Plain p.back := by
  rw [← AuthorYear.label_of_find? hp] at hlabel
  simp only [AuthorYear.label, plain_append, plain_cons] at hlabel
  obtain ⟨⟨⟨⟨hfront, -, hauthor⟩, -⟩, hyear⟩, -, hback⟩ := hlabel
  exact ⟨hfront, hauthor, hyear, hback⟩

include hbefore in
theorem plain_leadIn : Plain (leadIn o).toList := by
  unfold leadIn
  split
  · next note hn =>
    rw [String.toList_append, plain_append]
    exact ⟨hbefore note hn, by decide⟩
  · exact plain_nil

include hafter in
theorem plain_noteBehind {lead : String} (hlead : Plain lead.toList) :
    Plain (match o.after with
      | some note => lead ++ note
      | none => "").toList := by
  split
  · next note hn =>
    rw [String.toList_append, plain_append]
    exact ⟨hlead, hafter note hn⟩
  · exact plain_nil

include hlabel hbefore hafter

theorem plain_formatted : Plain (formatted o label).toList := by
  have hbare : Plain (dropFirst ')' (dropFirst '(' label.toList)) :=
    (hlabel.of_subset List.erase_subset).of_subset List.erase_subset
  have hnote := @plain_noteBehind _ hafter ", " (by decide)
  simp only [formatted, String.toList_append, plain_append, String.toList_ofList]
  exact ⟨⟨plain_leadIn hbefore, hbare⟩, hnote⟩

/-- **What an occurrence shows is plain** when its label and its notes are. -/
theorem plain_inline : Plain (inline o label).toList := by
  have hformatted := plain_formatted hlabel hbefore hafter
  unfold inline
  split
  · unfold parenthetical
    split
    all_goals simp only [String.toList_append, plain_append, hformatted]
    all_goals decide
  · next p _ hp =>
    obtain ⟨hfront, hauthor, hyear, hback⟩ := plain_of_find? hlabel hp
    have hnote := @plain_noteBehind _ hafter " " (by decide)
    simp only [String.toList_append, plain_append, String.toList_ofList]
    exact ⟨⟨⟨plain_leadIn hbefore, ⟨⟨⟨hfront, hauthor⟩, by decide⟩, hyear⟩, hback⟩, hnote⟩,
      by decide⟩
  · exact hformatted
  · next p _ hp =>
    obtain ⟨hfront, -, hyear, hback⟩ := plain_of_find? hlabel hp
    simp only [String.toList_ofList, plain_append]
    exact ⟨⟨hfront, hyear⟩, hback⟩
  · next p _ hp =>
    obtain ⟨hfront, hauthor, -, hback⟩ := plain_of_find? hlabel hp
    simp only [String.toList_ofList, plain_append]
    exact ⟨⟨hfront, hauthor⟩, hback⟩
  · exact hlabel
  · exact hlabel

end Inline

end Label

end Galley
