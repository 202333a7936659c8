import Galley.Proofs.Label.Parentheses
import Galley.Proofs.Label.Parts
import Galley.Proofs.Markup.Notes
import Galley.Proofs.Text.Words

/-!
# Gaps between the entries of a group

What stands for the entries of a citation command is put together without anything in between, so
a gap between two entries has to come from the text of one of them. In a parenthetical group every
entry but the last one ends with a semicolon and a space. The texts of all other groups neither
begin nor end with a blank, so two entries of such a group run together. Main statement:
`spaceBetween_iff`.
-/

namespace Galley.Label

open Galley.Markup Galley.Text

/-! ## 1. Texts without blanks at their ends -/

/-- A space stands between two texts that follow one another. -/
def SpaceBetween (a b : String) : Prop :=
  a.toList.getLast? = some ' ' ∨ b.toList.head? = some ' '

instance (a b : String) : Decidable (SpaceBetween a b) :=
  inferInstanceAs (Decidable (_ ∨ _))

/-- Text that begins and ends with something that can be seen. -/
structure Solid (cs : List Char) : Prop where
  nonempty : cs ≠ []
  trimmed : Trimmed cs

instance (cs : List Char) : Decidable (Solid cs) :=
  decidable_of_iff (cs ≠ [] ∧ Trimmed cs) ⟨fun h => ⟨h.1, h.2⟩, fun h => ⟨h.nonempty, h.trimmed⟩⟩

theorem not_spaceBetween_of_solid {a b : String} (ha : Solid a.toList) (hb : Solid b.toList) :
    ¬ SpaceBetween a b := by
  intro h
  rcases h with h | h
  · exact absurd (ha.trimmed.right ' ' h) (by decide)
  · exact absurd (hb.trimmed.left ' ' h) (by decide)

/-- Whatever stands between them, the ends are those of the first and of the last text. -/
theorem Solid.around {front back : List Char} (hfront : Solid front) (hback : Solid back)
    (inside : List Char) : Solid (front ++ inside ++ back) where
  nonempty := by
    rw [List.append_assoc]
    exact List.append_ne_nil_of_left_ne_nil hfront.nonempty _
  trimmed :=
    { left := by
        intro c hc
        rw [List.append_assoc, List.head?_append_of_ne_nil _ hfront.nonempty] at hc
        exact hfront.trimmed.left c hc
      right := by
        intro c hc
        rw [List.getLast?_append_of_ne_nil _ hback.nonempty] at hc
        exact hback.trimmed.right c hc }

/-- A note that is kept is trimmed, and something is left of it. -/
theorem solid_of_cleanNote? {note : List Char} {s : String} (h : cleanNote? note = some s) :
    Solid s.toList := by
  unfold cleanNote? at h
  extract_lets cleaned at h
  split at h
  · cases h
  · next hne =>
    rw [← Option.some.inj h, String.toList_ofList]
    exact ⟨fun he => hne (by rw [he]; rfl), trimmed_trimChars _⟩

theorem solid_before {e : Entry} {kind : CitationKind} {position : Position} {note : String}
    (h : (e.occurrence kind position).before = some note) : Solid note.toList := by
  unfold Entry.occurrence at h
  rw [e.notes_eq] at h
  obtain ⟨written, _, hclean⟩ := Option.bind_eq_some_iff.1 h
  exact solid_of_cleanNote? hclean

/-! ## 2. What stands for an entry -/

/-- An author part and a year that can be told apart in a label and have no blanks around them. -/
structure SolidParts (author year : String) : Prop where
  solidAuthor : Solid author.toList
  line : '\n' ∉ author.toList
  solidYear : Solid year.toList
  isYear : IsYear year

instance (author year : String) : Decidable (SolidParts author year) :=
  decidable_of_iff
    (Solid author.toList ∧ '\n' ∉ author.toList ∧ Solid year.toList ∧ IsYear year)
    ⟨fun ⟨h₁, h₂, h₃, h₄⟩ => ⟨h₁, h₂, h₃, h₄⟩, fun ⟨h₁, h₂, h₃, h₄⟩ => ⟨h₁, h₂, h₃, h₄⟩⟩

/-- **Outside of parentheses nothing blank stands at the ends of an entry.** -/
theorem solid_inline {o : Occurrence} (hkind : o.kind ≠ .paren)
    (hbefore : ∀ note, o.before = some note → Solid note.toList) {author year : String}
    (h : SolidParts author year) : Solid (inline o (labelOf author year)).toList := by
  have hsplits := splitsInto_labelOf h.line h.isYear
  cases hk : o.kind with
  | paren => exact absurd hk hkind
  | author =>
    rw [hsplits.authorAlone o hk]
    exact h.solidAuthor
  | year =>
    rw [hsplits.yearAlone o hk]
    exact h.solidYear
  | text =>
    have hend : Solid [')'] := by decide
    rw [hsplits.narrative o hk]
    cases hnote : o.before with
    | none =>
      have hsolid := h.solidAuthor.around hend
        ((" (" ++ year ++ o.after.elim "" fun note => " " ++ note).toList)
      simpa using hsolid
    | some note =>
      have hsolid := (hbefore note hnote).around hend
        ((" " ++ author ++ " (" ++ year ++ o.after.elim "" fun note => " " ++ note).toList)
      simpa using hsolid

/-- **In parentheses an entry that is not the last one ends with a space.** -/
theorem getLast?_inline_of_paren {o : Occurrence} (hkind : o.kind = .paren)
    (hposition : o.position = .first ∨ o.position = .middle) (label : String) :
    (inline o label).toList.getLast? = some ' ' := by
  have hend : (inline o label).toList =
      (if o.position = .first then ['('] else []) ++ (formatted o label).toList ++ [';', ' '] := by
    rw [inline_of_paren hkind]
    rcases hposition with hp | hp
    · simp [hp, parenthetical]
    · simp [hp, parenthetical]
  rw [hend, List.getLast?_append_of_ne_nil _ (List.cons_ne_nil _ _)]
  rfl

/-! ## 3. Two entries in a row -/

/-- What stands for the entries of a command when their labels have the given author parts and
    years. -/
def entryTexts (c : Command) (parts : List (String × String)) : List String :=
  List.zipWith (fun o p => inline o (labelOf p.1 p.2)) c.occurrences parts

theorem exists_of_entryTexts {c : Command} {parts : List (String × String)} {i : Nat}
    {text : String} (h : (entryTexts c parts)[i]? = some text) :
    ∃ e ∈ c.entries, ∃ p ∈ parts, i < c.entries.length ∧
      text = inline (e.occurrence c.kind (Position.inGroup i c.entries.length))
        (labelOf p.1 p.2) := by
  unfold entryTexts Command.occurrences at h
  obtain ⟨o, p, ho, hp, htext⟩ := List.getElem?_zipWith_eq_some.1 h
  rw [List.getElem?_mapIdx] at ho
  obtain ⟨e, he, heo⟩ := Option.map_eq_some_iff.1 ho
  refine ⟨e, List.mem_of_getElem? he, p, List.mem_of_getElem? hp, ?_, ?_⟩
  · obtain ⟨hlt, _⟩ := List.getElem?_eq_some_iff.1 he
    exact hlt
  · rw [← htext, ← heo]

theorem position_of_not_last {i size : Nat} (h : i + 1 < size) :
    Position.inGroup i size = .first ∨ Position.inGroup i size = .middle := by
  by_cases hi : i = 0
  · rw [hi]
    exact Or.inl (Position.inGroup_zero (by omega))
  · exact Or.inr (Position.inGroup_between (by omega) h)

/-- **Two entries in a row have a space between them exactly when their command is
    parenthetical.** In every other group neither text has a blank where they meet. -/
theorem spaceBetween_iff (c : Command) {parts : List (String × String)}
    (hparts : ∀ p ∈ parts, SolidParts p.1 p.2) {i : Nat} {first second : String}
    (hfirst : (entryTexts c parts)[i]? = some first)
    (hsecond : (entryTexts c parts)[i + 1]? = some second) :
    (SpaceBetween first second ↔ c.kind = .paren) ∧
      (c.kind ≠ .paren → Solid first.toList ∧ Solid second.toList) := by
  obtain ⟨e, _, p, hp, _, hfirst⟩ := exists_of_entryTexts hfirst
  obtain ⟨e', _, p', hp', hlt, hsecond⟩ := exists_of_entryTexts hsecond
  have hsolid : c.kind ≠ .paren → Solid first.toList ∧ Solid second.toList := by
    intro hkind
    rw [hfirst, hsecond]
    exact ⟨solid_inline hkind (fun _ hnote => solid_before hnote) (hparts p hp),
      solid_inline hkind (fun _ hnote => solid_before hnote) (hparts p' hp')⟩
  refine ⟨⟨fun hspace => ?_, fun hkind => Or.inl ?_⟩, hsolid⟩
  · by_contra hkind
    obtain ⟨hsolid₁, hsolid₂⟩ := hsolid hkind
    exact not_spaceBetween_of_solid hsolid₁ hsolid₂ hspace
  · rw [hfirst]
    exact getLast?_inline_of_paren hkind (position_of_not_last hlt) _

/-- The parts of three labels. -/
def threeParts : List (String × String) :=
  [("Lee", "2021"), ("Kim & Oh (Seoul)", "2020"), ("Park et al.", "n.d.")]

/-- The second and the third entry of a parenthetical group. -/
theorem spaceBetween_threeCited :
    (∀ p ∈ threeParts, SolidParts p.1 p.2) ∧
      (entryTexts threeCited.command threeParts)[1]? = some "Kim & Oh (Seoul, 2020); " ∧
      (entryTexts threeCited.command threeParts)[2]? = some "Park et al., n.d.)" ∧
      SpaceBetween "Kim & Oh (Seoul, 2020); " "Park et al., n.d.)" := by
  have hparts : ∀ p ∈ threeParts, SolidParts p.1 p.2 := by decide +kernel
  have hsecond : (entryTexts threeCited.command threeParts)[1]? =
      some "Kim & Oh (Seoul, 2020); " := by decide +kernel
  have hthird : (entryTexts threeCited.command threeParts)[2]? =
      some "Park et al., n.d.)" := by decide +kernel
  have hspace := (spaceBetween_iff threeCited.command hparts hsecond hthird).1.2 rfl
  exact ⟨hparts, hsecond, hthird, hspace⟩

/-- A narrative citation of two works. -/
def narrativePair : List Char := "\\textcites\x7ba\x7d\x7bb\x7d".toList

/-- The command of that text. -/
def pairCited : Command where
  name := "textcites".toList
  kind := .text
  entries := [⟨none, none, ['a']⟩, ⟨none, none, ['b']⟩]

/-- The two works run together. -/
theorem not_spaceBetween_pairCited :
    citationCommands narrativePair = [⟨0, pairCited⟩] ∧
      (∀ p ∈ [("Lee", "2021"), ("Kim", "2020")], SolidParts p.1 p.2) ∧
      entryTexts pairCited [("Lee", "2021"), ("Kim", "2020")] = ["Lee (2021)", "Kim (2020)"] ∧
      String.join ["Lee (2021)", "Kim (2020)"] = "Lee (2021)Kim (2020)" ∧
      ¬ SpaceBetween "Lee (2021)" "Kim (2020)" := by
  decide +kernel

end Galley.Label
