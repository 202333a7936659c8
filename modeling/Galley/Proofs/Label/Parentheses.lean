import Galley.Label.Inline
import Galley.Proofs.Markup.Citations
import Galley.Proofs.Markup.Printed
import Galley.Style.AuthorDate
import Mathlib.Data.List.Infix

/-!
# Parentheses of citations

A parenthetical group stands in one pair of parentheses: its first entry opens it, its last one
closes it, and those in the middle leave it open. Each entry shows its label without the label's
own pair. What is taken away is the first opening and the first closing parenthesis, so where a
closing one stands inside the label, that one is lost and the outer one is kept. Main statements:
`join_inline_of_parencite` and `formatted_parenthesized_iff`, which says exactly when the label's
own pair is what is taken away.
-/

namespace Galley.Label

open Galley.Markup

/-! ## 1. A group in one pair of parentheses -/

/-- Behind the first entry of a group the pair is open, and the last entry closes it. -/
theorem join_parenthetical_behind {texts : List String} (h : texts ≠ []) :
    String.join (List.zipWith parenthetical
        (List.replicate (texts.length - 1) .middle ++ [.last]) texts) =
      "; ".intercalate texts ++ ")" := by
  induction texts with
  | nil => exact absurd rfl h
  | cons text texts ih =>
    cases texts with
    | nil =>
      rw [String.intercalate_singleton]
      show String.join [text ++ ")"] = _
      rw [String.join_cons, String.join_nil, String.append_empty]
    | cons next texts =>
      have hbehind := ih (List.cons_ne_nil _ _)
      have hlength : (text :: next :: texts).length - 1 = ((next :: texts).length - 1) + 1 := by
        simp
      rw [hlength, List.replicate_succ, List.cons_append, List.zipWith_cons_cons,
        String.join_cons, hbehind, String.intercalate_cons_cons, parenthetical,
        String.append_assoc, String.append_assoc, String.append_assoc]

/-- **Texts in the places of a group are shown in one pair of parentheses**, with a semicolon
    between them. -/
theorem join_parenthetical {texts : List String} (h : texts ≠ []) :
    String.join (List.zipWith parenthetical (places texts.length) texts) =
      "(" ++ "; ".intercalate texts ++ ")" := by
  cases texts with
  | nil => exact absurd rfl h
  | cons first texts =>
    cases texts with
    | nil =>
      rw [String.intercalate_singleton]
      show String.join ["(" ++ first ++ ")"] = _
      rw [String.join_cons, String.join_nil, String.append_empty]
    | cons next texts =>
      have hbehind := join_parenthetical_behind (List.cons_ne_nil next texts)
      rw [List.length_cons, Nat.add_sub_cancel] at hbehind
      rw [List.length_cons, List.length_cons, places, List.zipWith_cons_cons, String.join_cons,
        hbehind, String.intercalate_cons_cons, parenthetical]
      simp only [String.append_assoc]

theorem inline_of_paren {o : Occurrence} (h : o.kind = .paren) (label : String) :
    inline o label = parenthetical o.position (formatted o label) := by
  unfold inline
  rw [h]

/-- Parenthetical occurrences show their formatted labels, each as its place asks. -/
theorem zipWith_inline {os : List Occurrence} (h : ∀ o ∈ os, o.kind = .paren)
    (labels : List String) :
    List.zipWith inline os labels =
      List.zipWith parenthetical (os.map Occurrence.position)
        (List.zipWith formatted os labels) := by
  induction os generalizing labels with
  | nil => rfl
  | cons o os ih =>
    cases labels with
    | nil => simp
    | cons label labels =>
      obtain ⟨ho, hos⟩ := List.forall_mem_cons.1 h
      rw [List.zipWith_cons_cons, List.map_cons, List.zipWith_cons_cons, List.zipWith_cons_cons,
        ih hos, inline_of_paren ho]

theorem kind_of_mem_occurrences {c : Command} {o : Occurrence} (h : o ∈ c.occurrences) :
    o.kind = c.kind := by
  obtain ⟨i, hi, rfl⟩ := List.mem_mapIdx.1 h
  rfl

/-- The family of a command with one of the two parenthetical names. -/
theorem kind_of_parencite {c : Command} (hc : c.Proper)
    (h : c.name = "parencite".toList ∨ c.name = "parencites".toList) : c.kind = .paren := by
  have hkind := hc.kind
  rcases h with h | h
  · rw [h] at hkind
    exact (Option.some.inj hkind).symm
  · rw [h] at hkind
    exact (Option.some.inj hkind).symm

/-- **A parenthetical group shares one pair of parentheses.** Whatever labels the entries of a
    command of a text have, what is shown for them stands in one pair, with a semicolon between
    two entries. -/
theorem join_inline_of_parencite {cs : List Char} {l : Located} (hl : l ∈ citationCommands cs)
    (hname : l.command.name = "parencite".toList ∨ l.command.name = "parencites".toList)
    {labels : List String} (hlabels : labels.length = l.command.occurrences.length) :
    String.join (List.zipWith inline l.command.occurrences labels) =
      "(" ++ "; ".intercalate (List.zipWith formatted l.command.occurrences labels) ++ ")" := by
  have hproper : l.command.Proper := ((commandsOf_citationCommands cs).slice l hl).1
  have hkind : ∀ o ∈ l.command.occurrences, o.kind = .paren := by
    intro o ho
    rw [kind_of_mem_occurrences ho, kind_of_parencite hproper hname]
  have hlength : (List.zipWith formatted l.command.occurrences labels).length =
      l.command.occurrences.length := by
    rw [List.length_zipWith, hlabels, Nat.min_self]
  have htexts : List.zipWith formatted l.command.occurrences labels ≠ [] := by
    intro hnil
    rw [hnil, Command.occurrences, List.length_mapIdx] at hlength
    exact hproper.nonempty (List.length_eq_zero_iff.1 hlength.symm)
  rw [zipWith_inline hkind, l.command.map_position_occurrences, ← hlength]
  exact join_parenthetical htexts

/-- A group of three entries, of which the first has both notes. -/
def threeInGroup : List Char := "Cf. \\parencites[see][p. 4]\x7ba\x7d\x7bb\x7d\x7bc\x7d.".toList

/-- The command of that text. -/
def threeCited : Located where
  start := 4
  command :=
    { name := "parencites".toList
      kind := .paren
      entries := [⟨some "see".toList, some "p. 4".toList, ['a']⟩, ⟨none, none, ['b']⟩,
        ⟨none, none, ['c']⟩] }

/-- Three labels in one pair of parentheses, with the notes of the first. -/
theorem join_inline_threeInGroup :
    threeCited ∈ citationCommands threeInGroup ∧
      String.join (List.zipWith inline threeCited.command.occurrences
          ["(Lee, 2021)", "(Kim & Oh, 2020)", "(Park et al., n.d.)"]) =
        "(see Lee, 2021, p. 4; Kim & Oh, 2020; Park et al., n.d.)" := by
  have hmem : threeCited ∈ citationCommands threeInGroup := by decide +kernel
  have hjoin := join_inline_of_parencite hmem (Or.inr rfl)
    (rfl : ["(Lee, 2021)", "(Kim & Oh, 2020)", "(Park et al., n.d.)"].length = _)
  refine ⟨hmem, hjoin.trans ?_⟩
  decide +kernel

/-! ## 2. The pair of a label -/

/-- Parentheses pair up: there are as many closing as opening ones, and no prefix has more closing
    ones. -/
structure PairsParentheses (cs : List Char) : Prop where
  front : ∀ front, front <+: cs → front.count ')' ≤ front.count '('
  total : cs.count ')' = cs.count '('

instance (cs : List Char) : Decidable (PairsParentheses cs) :=
  decidable_of_iff
    ((∀ front ∈ cs.inits, front.count ')' ≤ front.count '(') ∧ cs.count ')' = cs.count '(')
    ⟨fun h => ⟨fun front hf => h.1 front ((List.mem_inits _ _).2 hf), h.2⟩,
      fun h => ⟨fun front hf => h.front front ((List.mem_inits _ _).1 hf), h.total⟩⟩

/-- From its first closing parenthesis on, a text holds nothing else. -/
def ClosesAtEnd (cs : List Char) : Prop := ∀ c ∈ cs.dropWhile (· != ')'), c = ')'

instance (cs : List Char) : Decidable (ClosesAtEnd cs) :=
  inferInstanceAs (Decidable (∀ c ∈ cs.dropWhile (· != ')'), c = ')'))

theorem closesAtEnd_of_not_mem {cs : List Char} (h : ')' ∉ cs) : ClosesAtEnd cs := by
  have hdrop : cs.dropWhile (· != ')') = [] := by
    rw [List.dropWhile_eq_nil_iff]
    intro c hc
    have hne : c ≠ ')' := fun he => h (he ▸ hc)
    simpa using hne
  unfold ClosesAtEnd
  rw [hdrop]
  exact List.forall_mem_nil _

/-- A text without closing parentheses in front changes nothing. -/
theorem closesAtEnd_append {front : List Char} (h : ')' ∉ front) (cs : List Char) :
    ClosesAtEnd (front ++ cs) ↔ ClosesAtEnd cs := by
  have hfront : ∀ c ∈ front, (c != ')') = true := by
    intro c hc
    have hne : c ≠ ')' := fun he => h (he ▸ hc)
    simpa using hne
  unfold ClosesAtEnd
  rw [List.dropWhile_append_of_pos hfront]

theorem closesAtEnd_cons (cs : List Char) : ClosesAtEnd (')' :: cs) ↔ ∀ c ∈ cs, c = ')' := by
  unfold ClosesAtEnd
  rw [List.dropWhile_cons_of_neg (by decide)]
  simp

/-- A character can be moved from the front of a text to its end when nothing else is in it. -/
theorem concat_eq_cons_iff {c : Char} {cs : List Char} :
    cs ++ [c] = c :: cs ↔ ∀ d ∈ cs, d = c := by
  induction cs with
  | nil => simp
  | cons d cs ih =>
    rw [List.forall_mem_cons, ← ih, List.cons_append, List.cons.injEq]
    constructor
    · rintro ⟨rfl, htail⟩
      exact ⟨rfl, htail⟩
    · rintro ⟨rfl, htail⟩
      exact ⟨rfl, htail⟩

/-- The first opening and the first closing parenthesis are taken from a label in parentheses: the
    opening one is the label's own, and so is the closing one if there is none inside. -/
theorem dropFirst_parenthesized (cs : List Char) :
    dropFirst ')' (dropFirst '(' ('(' :: (cs ++ [')']))) =
      if ')' ∈ cs then cs.erase ')' ++ [')'] else cs := by
  unfold dropFirst
  rw [List.erase_cons_head, List.erase_append]
  split
  · rfl
  · rw [List.erase_cons_head, List.append_nil]

/-- **The label's own pair is what is taken away** exactly when closing parentheses stand only at
    the end of what is inside. -/
theorem dropFirst_parenthesized_iff (cs : List Char) :
    dropFirst ')' (dropFirst '(' ('(' :: (cs ++ [')']))) = cs ↔ ClosesAtEnd cs := by
  rw [dropFirst_parenthesized]
  split
  · next hmem =>
    obtain ⟨front, rest, hfront, hcs, herase⟩ := List.exists_erase_eq hmem
    rw [herase, hcs, closesAtEnd_append hfront, closesAtEnd_cons, List.append_assoc,
      List.append_cancel_left_eq]
    exact concat_eq_cons_iff
  · next hmem => exact iff_of_true rfl (closesAtEnd_of_not_mem hmem)

/-- A text with the notes of an occurrence around it. -/
def noted (o : Occurrence) (text : String) : String :=
  (o.before.elim "" fun note => note ++ " ") ++ text ++ (o.after.elim "" fun note => ", " ++ note)

theorem formatted_eq_noted (o : Occurrence) (label : String) :
    formatted o label = noted o (String.ofList (dropFirst ')' (dropFirst '(' label.toList))) := by
  unfold formatted noted leadIn
  cases o.before <;> cases o.after <;> rfl

theorem noted_inj {o : Occurrence} {a b : String} : noted o a = noted o b ↔ a = b := by
  unfold noted
  simp [← String.toList_inj]

theorem formatted_parenthesized (o : Occurrence) (s : String) :
    formatted o ("(" ++ s ++ ")") = noted o s ↔ ClosesAtEnd s.toList := by
  have hlabel : ("(" ++ s ++ ")").toList = '(' :: (s.toList ++ [')']) := by simp
  rw [formatted_eq_noted, noted_inj, ← dropFirst_parenthesized_iff, ← String.toList_inj, hlabel,
    String.toList_ofList]

/-- Authors, or a title, with a closing parenthesis have the year behind it. -/
theorem closesAtEnd_authorYear (author year : String) :
    ClosesAtEnd (author ++ ", " ++ year).toList ↔
      ')' ∉ author.toList ∧ ClosesAtEnd year.toList := by
  rw [String.toList_append, String.toList_append]
  by_cases h : ')' ∈ author.toList
  · refine iff_of_false (fun hends => ?_) (fun hno => hno.1 h)
    obtain ⟨front, rest, hfront, hcs, -⟩ := List.exists_erase_eq h
    rw [hcs, List.append_assoc, List.append_assoc, closesAtEnd_append hfront, List.cons_append,
      closesAtEnd_cons] at hends
    exact absurd (hends ',' (by simp)) (by decide)
  · rw [List.append_assoc, closesAtEnd_append h, closesAtEnd_append (by decide)]
    exact (and_iff_right h).symm

/-- **When the label's own parentheses are what is taken away.** The text inside the parentheses
    of a label is shown unchanged, with the notes around it, exactly when its closing parentheses
    stand only at its end, and so a lone parenthetical citation shows its label as it is. In the
    labels of the author-date style that excludes every closing parenthesis among the authors or
    in the title. -/
theorem formatted_parenthesized_iff (s : String) (o : Occurrence) :
    (formatted o ("(" ++ s ++ ")") = noted o s ↔ ClosesAtEnd s.toList) ∧
    (∀ key : String,
      inline (.simple key) ("(" ++ s ++ ")") = "(" ++ s ++ ")" ↔ ClosesAtEnd s.toList) ∧
    ∀ r : Reference,
      formatted o (AuthorDate.render .text (AuthorDate.label r)) =
          noted o (AuthorDate.labelAuthors r ++ ", " ++ AuthorDate.yearText r) ↔
        ')' ∉ (AuthorDate.labelAuthors r).toList ∧ ClosesAtEnd (AuthorDate.yearText r).toList := by
  refine ⟨formatted_parenthesized o s, fun key => ?_, fun r => ?_⟩
  · have hnoted : ∀ text, noted (.simple key) text = text := by
      intro text
      simp [noted, Occurrence.simple]
    have hformatted := formatted_parenthesized (.simple key) s
    rw [hnoted] at hformatted
    rw [← hformatted, inline_of_paren rfl]
    show "(" ++ formatted (.simple key) ("(" ++ s ++ ")") ++ ")" = _ ↔ _
    simp [← String.toList_inj]
  · rw [← closesAtEnd_authorYear, ← formatted_parenthesized o]
    rfl

/-- What is inside the label of a body with a place in parentheses in its name. -/
def agencyLabel : String := "WHO (Geneva), 2020"

/-- The parentheses around the place pair up, but the closing one is lost and the label's own is
    kept. -/
theorem not_shown_agencyLabel :
    PairsParentheses agencyLabel.toList ∧
      formatted (.simple "who") ("(" ++ agencyLabel ++ ")") = "WHO (Geneva, 2020)" ∧
      formatted (.simple "who") ("(" ++ agencyLabel ++ ")") ≠ noted (.simple "who") agencyLabel ∧
      inline (.simple "who") ("(" ++ agencyLabel ++ ")") ≠ "(" ++ agencyLabel ++ ")" := by
  decide +kernel

end Galley.Label
