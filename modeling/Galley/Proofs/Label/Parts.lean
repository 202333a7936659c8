import Galley.Label.Inline
import Galley.Proofs.Label.Apart
import Galley.Proofs.Render.Leaves
import Galley.Proofs.Text.Lines
import Galley.Proofs.Text.Plain
import Galley.Style.AuthorDate
import Mathlib.Data.List.Infix

/-!
# Author and year of a label

A label of the form "(Author, Year)" is taken apart at its last comma and blank, so it gives back
its author part whatever that holds, parentheses and commas included, as long as the label is in
one line and its year can end nowhere but at the end. Labels of the author-date style are of this
form, and so are those that are made from them to keep works apart: letters stand behind the year,
and a label of author names has the year of its own work. Main statement: `labels_split`.
-/

namespace Galley.Label

open Galley.Text

/-! ## 1. Two characters in a row -/

section Pair

variable {x y : Char} {a b : List Char}

theorem pair_infix_cons {c : Char} :
    [x, y] <:+: c :: a ↔ (c = x ∧ a.head? = some y) ∨ [x, y] <:+: a := by
  rw [List.infix_cons_iff, List.cons_prefix_cons, List.singleton_prefix_iff_head?_eq_some]
  exact or_congr_left (and_congr_left' eq_comm)

/-- Text that does not hold the first of two characters begins no such pair. -/
theorem pair_infix_of_append_left (hx : x ∉ a) (h : [x, y] <:+: a ++ b) : [x, y] <:+: b := by
  rcases List.infix_append_iff.1 h with ha | hb | ⟨front, rest, hpair, hfront, hrest⟩
  · exact absurd (ha.subset List.mem_cons_self) hx
  · exact hb
  · cases front with
    | nil =>
      rw [List.nil_append] at hpair
      exact hpair ▸ hrest.isInfix
    | cons z front =>
      -- the pair begins with what stands in the first text
      have hz : x = z := (List.cons.inj hpair).1
      exact absurd (hfront.subset (hz ▸ List.mem_cons_self)) hx

/-- Text that does not hold the second of two characters ends no such pair. -/
theorem pair_infix_of_append_right (hy : y ∉ b) (h : [x, y] <:+: a ++ b) : [x, y] <:+: a := by
  rcases List.infix_append_iff.1 h with ha | hb | ⟨front, rest, hpair, hfront, hrest⟩
  · exact ha
  · exact absurd (hb.subset (by simp)) hy
  · rcases List.eq_nil_or_concat rest with rfl | ⟨rest, z, rfl⟩
    · rw [List.append_nil] at hpair
      exact hpair ▸ hfront.isInfix
    · -- the pair ends with what stands in the second text
      have hz : z = y := by
        have hlast := congrArg List.getLast? hpair
        simpa using hlast.symm
      exact absurd (hrest.subset (by simp [hz])) hy

end Pair

/-! ## 2. Taking a label apart -/

/-- A label of an author part and a year. -/
def labelOf (author year : String) : String := "(" ++ author ++ ", " ++ year ++ ")"

/-- A year that ends where its label does: it is in one line, no closing parenthesis is in it, and
    no comma with a blank behind it. -/
structure IsYear (year : String) : Prop where
  line : '\n' ∉ year.toList
  closing : ')' ∉ year.toList
  separator : ¬ [',', ' '] <:+: year.toList

instance (year : String) : Decidable (IsYear year) :=
  decidable_of_iff
    ('\n' ∉ year.toList ∧ ')' ∉ year.toList ∧ ¬ [',', ' '] <:+: year.toList)
    ⟨fun ⟨h₁, h₂, h₃⟩ => ⟨h₁, h₂, h₃⟩, fun ⟨h₁, h₂, h₃⟩ => ⟨h₁, h₂, h₃⟩⟩

/-- What occurrences show of a label with an author part and a year. -/
structure SplitsInto (label author year : String) : Prop where
  authorAlone : ∀ o : Occurrence, o.kind = .author → inline o label = author
  yearAlone : ∀ o : Occurrence, o.kind = .year → inline o label = year
  narrative : ∀ o : Occurrence, o.kind = .text →
    inline o label = (o.before.elim "" fun note => note ++ " ") ++ author ++ " (" ++ year ++
      (o.after.elim "" fun note => " " ++ note) ++ ")"

theorem toList_labelOf (author year : String) :
    (labelOf author year).toList =
      '(' :: (author.toList ++ [',', ' '] ++ year.toList ++ [')']) := by
  simp [labelOf]

/-- With one year, different author parts make different labels. -/
theorem labelOf_left_inj {a b year : String} : labelOf a year = labelOf b year ↔ a = b := by
  rw [← String.toList_inj, toList_labelOf, toList_labelOf, ← String.toList_inj]
  simp

/-- Where no comma has a blank behind it, there is no year. -/
theorem authorYearAhead?_eq_none {cs : List Char} (h : ¬ [',', ' '] <:+: cs) :
    authorYearAhead? cs = none := by
  refine Option.eq_none_iff_forall_ne_some.2 fun p hp => h ?_
  obtain ⟨author, year, back⟩ := p
  refine ⟨author, year ++ ')' :: back, ?_⟩
  rw [authorYearAhead?_eq_some hp]
  simp

/-- **The last comma and blank divide author and year.** -/
theorem authorYearAhead?_append {author year : List Char} (hauthor : '\n' ∉ author)
    (hline : '\n' ∉ year) (hclosing : ')' ∉ year) (hseparator : ¬ [',', ' '] <:+: year) :
    authorYearAhead? (author ++ [',', ' '] ++ year ++ [')']) = some (author, year, []) := by
  induction author with
  | nil =>
    -- behind this comma nothing gives a year, so it counts
    have hbehind : authorYearAhead? (' ' :: (year ++ [')'])) = none := by
      refine authorYearAhead?_eq_none fun h => hseparator ?_
      have hyear : [',', ' '] <:+: year ++ [')'] := by
        rcases pair_infix_cons.1 h with ⟨hcomma, -⟩ | h
        · exact absurd hcomma (by decide)
        · exact h
      exact pair_infix_of_append_right (by decide) hyear
    have hcut : lineCut? ')' (year ++ [')']) = some (year, []) :=
      lineCut?_append hclosing hline []
    have hafter : after? [',', ' '] (',' :: ' ' :: (year ++ [')'])) = some (year ++ [')']) :=
      after?_append [',', ' '] (year ++ [')'])
    show authorYearAhead? (',' :: ' ' :: (year ++ [')'])) = _
    rw [authorYearAhead?, if_neg (by decide), hbehind, hafter]
    simp only [hcut, Option.map_some]
  | cons c author ih =>
    obtain ⟨hc, hauthor⟩ := not_or.1 (mt List.mem_cons.2 hauthor)
    rw [List.cons_append, List.cons_append, List.cons_append, authorYearAhead?,
      if_neg (Ne.symm hc), ih hauthor]

theorem find?_labelOf {author year : String} (hauthor : '\n' ∉ author.toList)
    (hyear : IsYear year) :
    AuthorYear.find? (labelOf author year).toList =
      some ⟨[], author.toList, year.toList, []⟩ := by
  rw [toList_labelOf, AuthorYear.find?, if_pos rfl,
    authorYearAhead?_append hauthor hyear.line hyear.closing hyear.separator]

/-- **A label gives back its author part and its year.** -/
theorem splitsInto_labelOf {author year : String} (hauthor : '\n' ∉ author.toList)
    (hyear : IsYear year) : SplitsInto (labelOf author year) author year := by
  have hfind := find?_labelOf hauthor hyear
  constructor
  · intro o ho
    unfold inline
    rw [ho, hfind]
    simp
  · intro o ho
    unfold inline
    rw [ho, hfind]
    simp
  · intro o ho
    unfold inline leadIn
    rw [ho, hfind]
    cases o.before <;> cases o.after <;> simp [← String.toList_inj]

/-! ## 3. Labels of the author-date style -/

section Style

open Galley.Rich AuthorDate

theorem head?_escaped_blank {cs : List Char}
    (h : (cs.flatMap escapedTextChar).head? = some ' ') : cs.head? = some ' ' := by
  cases cs with
  | nil => cases h
  | cons c cs =>
    rw [List.flatMap_cons] at h
    rcases escapedTextChar_cases c with ⟨-, he⟩ | ⟨-, he⟩ | ⟨-, he⟩ | ⟨-, he⟩ <;> rw [he] at h
    · cases h
    · cases h
    · cases h
    · exact h

/-- Text in HTML holds a comma with a blank behind it only where the text does. -/
theorem separator_infix_of_escaped {cs : List Char}
    (h : [',', ' '] <:+: cs.flatMap escapedTextChar) : [',', ' '] <:+: cs := by
  induction cs with
  | nil => exact absurd h (by decide)
  | cons c cs ih =>
    rw [List.flatMap_cons] at h
    refine pair_infix_cons.2 ?_
    rcases escapedTextChar_cases c with ⟨-, he⟩ | ⟨-, he⟩ | ⟨-, he⟩ | ⟨-, he⟩ <;> rw [he] at h
    · exact Or.inr (ih (pair_infix_of_append_left (by decide) h))
    · exact Or.inr (ih (pair_infix_of_append_left (by decide) h))
    · exact Or.inr (ih (pair_infix_of_append_left (by decide) h))
    · exact (pair_infix_cons.1 h).imp (And.imp_right head?_escaped_blank) ih

theorem closing_mem_escapedTextChar {c : Char} : ')' ∈ escapedTextChar c ↔ c = ')' := by
  rcases escapedTextChar_cases c with ⟨hc, he⟩ | ⟨hc, he⟩ | ⟨hc, he⟩ | ⟨-, he⟩ <;> rw [he]
  · rw [hc]; decide
  · rw [hc]; decide
  · rw [hc]; decide
  · rw [List.mem_singleton, eq_comm]

theorem lineFeed_mem_render (output : Output) (s : String) :
    '\n' ∈ (render output (.text s)).toList ↔ '\n' ∈ s.toList := by
  cases output with
  | text => exact Iff.rfl
  | html =>
    show '\n' ∈ (escapeText s).toList ↔ _
    rw [toList_escapeText, List.mem_flatMap]
    simp only [lineFeed_mem_escapedTextChar, exists_eq_right]

/-- A year stays one in either markup. -/
theorem IsYear.render {year : String} (h : IsYear year) (output : Output) :
    IsYear (render output (.text year)) := by
  cases output with
  | text => exact h
  | html =>
    constructor
    · exact mt (lineFeed_mem_render .html year).1 h.line
    · show ')' ∉ (escapeText year).toList
      rw [toList_escapeText, List.mem_flatMap]
      simp only [closing_mem_escapedTextChar, exists_eq_right]
      exact h.closing
    · show ¬ [',', ' '] <:+: (escapeText year).toList
      rw [toList_escapeText]
      exact mt separator_infix_of_escaped h.separator

/-- The authors of a work, or its title, in the markup of a label. -/
def authorsIn (output : Output) (r : Reference) : String := render output (.text (labelAuthors r))

/-- The year of a work in the markup of a label. -/
def yearIn (output : Output) (r : Reference) : String := render output (.text (yearText r))

/-- **The label of a work has its authors, or its title, as the author part, and its year.** -/
theorem render_label (output : Output) (r : Reference) :
    render output (label r) = labelOf (authorsIn output r) (yearIn output r) := by
  cases output with
  | text =>
    show "(" ++ (labelAuthors r ++ ", " ++ yearText r) ++ ")" =
      labelOf (labelAuthors r) (yearText r)
    simp only [labelOf, String.append_assoc]
  | html =>
    show "(" ++ escapeText (labelAuthors r ++ ", " ++ yearText r) ++ ")" =
      labelOf (escapeText (labelAuthors r)) (escapeText (yearText r))
    have hseparator : ", ".toList.flatMap escapedTextChar = ", ".toList := by decide
    rw [← String.toList_inj]
    simp only [labelOf, String.toList_append, toList_escapeText, List.flatMap_append, hseparator,
      List.append_assoc]

/-- The label of a work can be taken apart: its authors, or its title, are in one line, and its
    year ends where the label does. -/
structure Splittable (r : Reference) : Prop where
  authors : '\n' ∉ (labelAuthors r).toList
  year : ∀ year ∈ r.year, IsYear year

theorem Splittable.isYear_yearText {r : Reference} (h : Splittable r) : IsYear (yearText r) := by
  unfold yearText
  cases hy : r.year with
  | none => decide
  | some year => exact h.year year hy

theorem Splittable.lineFeed_not_mem {r : Reference} (h : Splittable r) (output : Output) :
    '\n' ∉ (authorsIn output r).toList :=
  mt (lineFeed_mem_render output _).1 h.authors

theorem Splittable.isYear {r : Reference} (h : Splittable r) (output : Output) :
    IsYear (yearIn output r) :=
  h.isYear_yearText.render output

end Style

/-! ## 4. Letters behind the year -/

theorem withSuffix_labelOf (author year suffix : String) :
    withSuffix (labelOf author year) suffix = labelOf author (year ++ suffix) := by
  have hlabel : (labelOf author year).toList =
      '(' :: (author.toList ++ [',', ' '] ++ year.toList) ++ [')'] := toList_labelOf author year
  have hlast : (labelOf author year).toList.getLast? = some ')' := by
    rw [hlabel, List.getLast?_concat]
  rw [← String.toList_inj, toList_withSuffix, stem, closing, if_pos hlast, if_pos hlast, hlabel,
    List.dropLast_concat, toList_labelOf, String.toList_append]
  simp only [List.cons_append, List.append_assoc]

/-- A year with letters is a year. -/
theorem IsYear.append_numeral {year : String} (h : IsYear year) (n : Nat) :
    IsYear (year ++ String.ofList (numeral n)) := by
  have hline : '\n' ∉ numeral n := not_mem_numeral (by decide) n
  have hblank : ' ' ∉ numeral n := not_mem_numeral (by decide) n
  constructor
  · rw [String.toList_append, String.toList_ofList, List.mem_append]
    exact not_or.2 ⟨h.line, hline⟩
  · rw [String.toList_append, String.toList_ofList, List.mem_append]
    exact not_or.2 ⟨h.closing, closing_not_mem_numeral n⟩
  · rw [String.toList_append, String.toList_ofList]
    exact fun hpair => h.separator (pair_infix_of_append_right hblank hpair)

/-! ## 5. Labels of author names -/

/-- The first author with more of the given name, and the co-authors. -/
def initialsPart (first : Name) (rest : List Name) : String :=
  let shown := (first.given.toList.filter isLetter).take 2
  (if shown.isEmpty then first.family else String.ofList shown ++ ". " ++ first.family) ++
    String.join (rest.map fun n => ", " ++ n.family)

theorem expandedInitials_cons (first : Name) (rest : List Name) (year : String) :
    expandedInitials (first :: rest) year = labelOf (initialsPart first rest) year := by
  simp only [expandedInitials, labelOf, initialsPart, String.append_assoc]

/-- The names that an author part shows to set a work apart from others. -/
def differingPart (names : List Name) (rivals : List Assigned) : String :=
  let differing := names.filter fun n => !rivals.any fun a => (namesOf a.reference).contains n
  let shown := if differing.isEmpty then names.take 1 else differing
  ", ".intercalate (shown.map Name.family ++ ["et al."])

theorem differingAuthors_eq (names : List Name) (rivals : List Assigned) (year : String) :
    differingAuthors names rivals year = labelOf (differingPart names rivals) year := rfl

/-- **Every character of an author part of names** comes from a family name, is a letter of a given
    name or is one of those that stand between names. -/
theorem mem_initialsPart {first : Name} {rest : List Name} {c : Char}
    (h : c ∈ (initialsPart first rest).toList) :
    isLetter c = true ∨ c ∈ ". ,".toList ∨ ∃ n ∈ first :: rest, c ∈ n.family.toList := by
  unfold initialsPart at h
  extract_lets shown at h
  rw [String.toList_append, List.mem_append] at h
  rcases h with h | h
  · split at h
    · exact Or.inr (Or.inr ⟨first, List.mem_cons_self, h⟩)
    · rw [String.toList_append, String.toList_append, String.toList_ofList, List.mem_append,
        List.mem_append] at h
      rcases h with (h | h) | h
      · exact Or.inl (List.of_mem_filter (List.mem_of_mem_take h))
      · exact Or.inr (Or.inl (List.mem_append_left [','] h))
      · exact Or.inr (Or.inr ⟨first, List.mem_cons_self, h⟩)
  · rw [String.toList_join, List.mem_flatMap] at h
    obtain ⟨s, hs, hc⟩ := h
    obtain ⟨n, hn, rfl⟩ := List.mem_map.1 hs
    rw [String.toList_append, List.mem_append] at hc
    rcases hc with hc | hc
    · refine Or.inr (Or.inl ?_)
      exact (by decide : ", ".toList ⊆ ". ,".toList) hc
    · exact Or.inr (Or.inr ⟨n, List.mem_cons_of_mem first hn, hc⟩)

theorem mem_differingPart {names : List Name} {rivals : List Assigned} {c : Char}
    (h : c ∈ (differingPart names rivals).toList) :
    c ∈ ", et al.".toList ∨ ∃ n ∈ names, c ∈ n.family.toList := by
  unfold differingPart at h
  extract_lets differing shown at h
  have hshown : ∀ n ∈ shown, n ∈ names := by
    intro n hn
    simp only [shown] at hn
    split at hn
    · exact List.mem_of_mem_take hn
    · exact List.mem_of_mem_filter hn
  rw [String.toList_intercalate] at h
  rcases mem_of_mem_intercalate h with h | ⟨x, hx, hc⟩
  · exact Or.inl ((by decide : ", ".toList ⊆ ", et al.".toList) h)
  · rw [List.map_append, List.map_map, List.mem_append] at hx
    rcases hx with hx | hx
    · obtain ⟨n, hn, rfl⟩ := List.mem_map.1 hx
      exact Or.inr ⟨n, hshown n hn, hc⟩
    · rw [List.mem_singleton.1 hx] at hc
      exact Or.inl ((by decide : "et al.".toList ⊆ ", et al.".toList) hc)

theorem lineFeed_not_mem_initialsPart {first : Name} {rest : List Name}
    (h : ∀ n ∈ first :: rest, '\n' ∉ n.family.toList) :
    '\n' ∉ (initialsPart first rest).toList := by
  intro hmem
  rcases mem_initialsPart hmem with hletter | hmark | ⟨n, hn, hc⟩
  · exact absurd hletter (by decide +kernel)
  · exact absurd hmark (by decide)
  · exact h n hn hc

theorem lineFeed_not_mem_differingPart {names : List Name} (rivals : List Assigned)
    (h : ∀ n ∈ names, '\n' ∉ n.family.toList) :
    '\n' ∉ (differingPart names rivals).toList := by
  intro hmem
  rcases mem_differingPart hmem with hmark | ⟨n, hn, hc⟩
  · exact absurd hmark (by decide)
  · exact h n hn hc

/-- **A label of author names has an author part and the year of its own work.** -/
theorem exists_author_composedLabel (rivals : List Assigned) {r : Reference} (hne : r.names ≠ [])
    (hline : ∀ n ∈ r.names, '\n' ∉ n.family.toList) :
    ∃ author, '\n' ∉ author.toList ∧
      Disambiguator.composedLabel rivals (some r) = labelOf author (AuthorDate.yearText r) := by
  obtain ⟨first, rest, hnames⟩ := List.exists_cons_of_ne_nil hne
  have hlabel : Disambiguator.composedLabel rivals (some r) =
      if ∀ b ∈ rivals, firstInitial? b.reference = firstInitial? (some r) then
        expandedInitials r.names (AuthorDate.yearText r)
      else differingAuthors r.names rivals (AuthorDate.yearText r) := rfl
  rw [hlabel]
  split
  · refine ⟨initialsPart first rest, lineFeed_not_mem_initialsPart (hnames ▸ hline), ?_⟩
    rw [hnames, expandedInitials_cons]
  · exact ⟨differingPart r.names rivals, lineFeed_not_mem_differingPart rivals hline,
      differingAuthors_eq _ _ _⟩

/-! ## 6. Labels of a run -/

open Disambiguator

/-- What a call gives is the label of a work of the run. -/
theorem exists_assigned_of_call (calls : List Call) (c : Call) :
    ∃ a ∈ run [] (calls ++ [c]), a.key = c.key ∧
      a.label = ((run [] calls).assign c.key c.reference c.rendered).1 := by
  have hrun : run [] (calls ++ [c]) = (run [] calls).called c := by
    rw [run, List.foldl_append]
    rfl
  rw [hrun]
  exact exists_of_label? (label?_called_self (run [] calls) c)

/-- A work that keeps its rendered label, or has letters in it, splits as the rendered label does,
    with the letters behind the year. -/
theorem splitsInto_of_numbered {calls : List Call} {a : Assigned} (ha : a ∈ run [] calls)
    (hnumbered : ¬ Composed (run [] calls) a) {author year : String}
    (hrendered : a.rendered = labelOf author year) (hauthor : '\n' ∉ author.toList)
    (hyear : IsYear year) :
    SplitsInto a.label author
      (year ++ String.ofList (numeral (number (run [] calls) a))) := by
  rw [label_eq_labelText (handedOut_run .nil calls) a ha, labelText_of_numbered hnumbered,
    numberedLabel, hrendered, withSuffix_labelOf]
  exact splitsInto_labelOf hauthor (hyear.append_numeral _)

/-- A work whose label is composed of its author names has its own year in it. -/
theorem splitsInto_of_composed {calls : List Call} {a : Assigned} (ha : a ∈ run [] calls)
    (hcomposed : Composed (run [] calls) a) {r : Reference} (hr : a.reference = some r)
    (hne : r.names ≠ []) (hline : ∀ n ∈ r.names, '\n' ∉ n.family.toList)
    (hyear : IsYear (AuthorDate.yearText r)) :
    ∃ author, a.label = labelOf author (AuthorDate.yearText r) ∧
      SplitsInto a.label author (AuthorDate.yearText r) := by
  obtain ⟨author, hauthor, hlabel⟩ :=
    exists_author_composedLabel (rivals (run [] calls) a) hne hline
  have hdivided : Divided (rivals (run [] calls) a) a.reference := hcomposed
  have hcompose : a.label = labelOf author (AuthorDate.yearText r) := by
    rw [label_eq_labelText (handedOut_run .nil calls) a ha, labelText, labelAmong,
      if_pos hdivided, hr, hlabel]
  refine ⟨author, hcompose, ?_⟩
  rw [hcompose]
  exact splitsInto_labelOf hauthor hyear

/-- **Labels give back their author part and their year.** That holds of every label "(Author,
    Year)" in one line whose year ends where the label does, and so of every label that the
    author-date style makes of such fields, in either markup. It holds of every label that is made
    to keep works apart: one that is kept or has letters has the letters behind its year, and one
    that is composed of author names has the year of its work. -/
theorem labels_split :
    (∀ author year : String, '\n' ∉ author.toList → IsYear year →
      SplitsInto (labelOf author year) author year) ∧
    (∀ (b : Bibliography) (request : CitationRequest) (r : Reference),
      b.get? request.key = some r → Splittable r →
        AuthorDate.formatter.citation b request =
            .ok (labelOf (authorsIn request.output r) (yearIn request.output r)) ∧
          '\n' ∉ (authorsIn request.output r).toList ∧ IsYear (yearIn request.output r)) ∧
    (∀ (calls : List Call) (c : Call), ∃ a ∈ run [] (calls ++ [c]), a.key = c.key ∧
      a.label = ((run [] calls).assign c.key c.reference c.rendered).1) ∧
    ∀ (calls : List Call), ∀ a ∈ run [] calls,
      (¬ Composed (run [] calls) a → ∀ author year : String,
        a.rendered = labelOf author year → '\n' ∉ author.toList → IsYear year →
          SplitsInto a.label author
            (year ++ String.ofList (numeral (number (run [] calls) a)))) ∧
      (Composed (run [] calls) a → ∀ r : Reference, a.reference = some r → r.names ≠ [] →
        (∀ n ∈ r.names, '\n' ∉ n.family.toList) → IsYear (AuthorDate.yearText r) →
          ∃ author, a.label = labelOf author (AuthorDate.yearText r) ∧
            SplitsInto a.label author (AuthorDate.yearText r)) := by
  refine ⟨fun author year => splitsInto_labelOf, ?_, exists_assigned_of_call, ?_⟩
  · intro b request r hget hr
    refine ⟨?_, hr.lineFeed_not_mem request.output, hr.isYear request.output⟩
    rw [← render_label]
    simp only [AuthorDate.formatter, hget]
  · intro calls a ha
    constructor
    · intro hnumbered author year hrendered hauthor hyear
      exact splitsInto_of_numbered ha hnumbered hrendered hauthor hyear
    · intro hcomposed r hr hne hline hyear
      exact splitsInto_of_composed ha hcomposed hr hne hline hyear

/-- A work of 2021 by authors of which only the first has a given name. -/
def workOf (key : String) (authors : List Name) : Reference :=
  { (default : Reference) with id := key, authors := authors, year := some "2021" }

/-- A call for such a work in the author-date style. -/
def callForWork (key : String) (authors : List Name) : Call where
  key := key
  reference := some (workOf key authors)
  rendered := AuthorDate.render .text (AuthorDate.label (workOf key authors))

/-- Two works of a body whose name is that of two authors, and then a work of those two. -/
def companyCalls : List Call :=
  [callForWork "a" [⟨"Lee & Kim (Co, Ltd)", ""⟩], callForWork "b" [⟨"Lee & Kim (Co, Ltd)", ""⟩],
    callForWork "c" [⟨"Lee", "Jae"⟩, ⟨"Kim (Co, Ltd)", ""⟩]]

/-- What became of the second call. -/
def companyAgain : Assigned where
  key := "b"
  reference := some (workOf "b" [⟨"Lee & Kim (Co, Ltd)", ""⟩])
  rendered := labelOf "Lee & Kim (Co, Ltd)" "2021"
  label := "(Lee & Kim (Co, Ltd), 2021a)"
  suffix := some "a"

/-- What became of the third call. -/
def companyAuthors : Assigned where
  key := "c"
  reference := some (workOf "c" [⟨"Lee", "Jae"⟩, ⟨"Kim (Co, Ltd)", ""⟩])
  rendered := labelOf "Lee & Kim (Co, Ltd)" "2021"
  label := "(Lee, Kim (Co, Ltd), et al., 2021)"
  suffix := none

/-- The second work has a letter behind its year and the third shows its own authors, and both
    labels give back their parts. -/
theorem labels_split_companyCalls :
    companyAgain ∈ run [] companyCalls ∧ companyAuthors ∈ run [] companyCalls ∧
      inline ⟨"b", .author, .alone, none, none⟩ companyAgain.label = "Lee & Kim (Co, Ltd)" ∧
      inline ⟨"b", .year, .alone, none, none⟩ companyAgain.label = "2021a" ∧
      inline ⟨"c", .text, .alone, some "see", some "p. 4"⟩ companyAuthors.label =
        "see Lee, Kim (Co, Ltd), et al. (2021 p. 4)" := by
  have hagain : companyAgain ∈ run [] companyCalls := by decide +kernel
  have hauthors : companyAuthors ∈ run [] companyCalls := by decide +kernel
  have hnumbered : ¬ Divided (rivals (run [] companyCalls) companyAgain)
      companyAgain.reference := by decide +kernel
  have hcomposed : Divided (rivals (run [] companyCalls) companyAuthors)
      companyAuthors.reference := by decide +kernel
  obtain ⟨-, -, -, hrun⟩ := labels_split
  have hsecond := (hrun _ _ hagain).1 hnumbered "Lee & Kim (Co, Ltd)" "2021" rfl (by decide)
    (by decide)
  obtain ⟨author, hlabel, hthird⟩ :=
    (hrun _ _ hauthors).2 hcomposed _ rfl (by decide) (by decide) (by decide)
  have hletter : numeral (number (run [] companyCalls) companyAgain) = ['a'] := by
    have hnumber : number (run [] companyCalls) companyAgain = 1 := by decide +kernel
    rw [hnumber, numeral_one]
  rw [hletter] at hsecond
  have hauthor : author = "Lee, Kim (Co, Ltd), et al." :=
    labelOf_left_inj.1 (hlabel.symm.trans (by decide))
  rw [hauthor] at hthird
  exact ⟨hagain, hauthors, hsecond.authorAlone _ rfl, hsecond.yearAlone _ rfl,
    hthird.narrative ⟨"c", .text, .alone, some "see", some "p. 4"⟩ rfl⟩

end Galley.Label
