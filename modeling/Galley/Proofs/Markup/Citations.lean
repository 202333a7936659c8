import Galley.Proofs.Markup.Grammar
import Galley.Proofs.Markup.Replacement
import Galley.Proofs.Text.Edits

/-!
# The citations of a text

The spans that are reported as citation commands hold proper commands, each the longest that begins
there, and no command begins outside them. Replacing citations asks for the texts of all
occurrences in order and edits just these spans. Main statement: `citationCommands_exact`.
-/

namespace Galley.Markup

open Galley.Text

/-! ## 1. Spans -/

theorem start_le_of_mem_locatedFrom {ss : List Segment} {offset : Nat} :
    ∀ l ∈ locatedFrom offset ss, offset ≤ l.start := by
  induction ss generalizing offset with
  | nil => simp [locatedFrom]
  | cons s ss ih =>
    intro l hl
    cases s with
    | char c =>
      have := ih l hl
      omega
    | command c =>
      rcases List.mem_cons.1 hl with rfl | hl
      · exact Nat.le_refl _
      · have := ih l hl
        omega

/-- Commands follow one another without overlap. -/
theorem pairwise_locatedFrom (ss : List Segment) (offset : Nat) :
    (locatedFrom offset ss).Pairwise fun l m => l.stop ≤ m.start := by
  induction ss generalizing offset with
  | nil => exact List.Pairwise.nil
  | cons s ss ih =>
    cases s with
    | char c => exact ih _
    | command c => exact List.Pairwise.cons (start_le_of_mem_locatedFrom) (ih _)

/-- What holds of a reported command that stands in a text that begins at a byte: it is what the
    text has at its span, it is proper, and no longer one begins there. -/
structure Located.StandsIn (l : Located) (offset : Nat) (cs : List Char) : Prop where
  slice : ∃ before behind, cs = before ++ l.command.source ++ behind ∧
    offset + byteLength before = l.start ∧
    ∀ c : Command, c.Proper → c.source <+: l.command.source ++ behind →
      c.source.length ≤ l.command.source.length
  proper : l.command.Proper

theorem Located.StandsIn.append_left {l : Located} {offset : Nat} {cs : List Char}
    (front : List Char) (h : l.StandsIn (offset + byteLength front) cs) :
    l.StandsIn offset (front ++ cs) := by
  obtain ⟨⟨before, behind, hcs, hstart, hlongest⟩, hproper⟩ := h
  refine ⟨⟨front ++ before, behind, by simp [hcs], ?_, hlongest⟩, hproper⟩
  rw [byteLength_append, ← hstart, Nat.add_assoc]

theorem standsIn_locatedFrom (cs : List Char) (offset : Nat) :
    ∀ l ∈ locatedFrom offset (segments cs), l.StandsIn offset cs := by
  induction cs using segments.induct generalizing offset with
  | case1 => simp [segments_nil, locatedFrom]
  | case2 c cs command rest h ih =>
    have hcs := readCommand?_eq_some h
    rw [segments_cons_some h]
    intro l hl
    rcases List.mem_cons.1 hl with rfl | hl
    · refine ⟨⟨[], rest, hcs, rfl, fun d hd hpre => ?_⟩, proper_readCommand? h⟩
      rw [← hcs] at hpre
      exact (prefix_source_of_readCommand? h hd hpre).length_le
    · rw [hcs]
      exact (ih _ l hl).append_left command.source
  | case3 c cs h ih =>
    rw [segments_cons_none h]
    intro l hl
    exact (ih (offset + c.utf8Size) l hl).append_left [c]

/-- **No command begins outside the spans.** -/
theorem not_prefix_of_outside (cs : List Char) {offset : Nat} {before rest : List Char}
    (hcs : cs = before ++ rest)
    (hout : ∀ l ∈ locatedFrom offset (segments cs),
      ¬ (l.start ≤ offset + byteLength before ∧ offset + byteLength before < l.stop))
    {d : Command} (hd : d.Proper) : ¬ d.source <+: rest := by
  induction cs using segments.induct generalizing offset before with
  | case1 =>
    obtain ⟨rfl, rfl⟩ := List.append_eq_nil_iff.1 hcs.symm
    intro hpre
    have := hpre.length_le
    simp [Command.source] at this
  | case2 c cs command after h ih =>
    rw [segments_cons_some h] at hout
    have hspan := hout _ List.mem_cons_self
    simp only [Located.stop] at hspan
    -- the place is behind the command, since it is not in its span
    have hbehind : byteLength command.source ≤ byteLength before := by omega
    rw [readCommand?_eq_some h] at hcs
    obtain ⟨between, rfl, hafter⟩ := exists_append_of_byteLength_le hcs hbehind
    rw [byteLength_append, ← Nat.add_assoc] at hout
    exact ih hafter fun l hl => hout l (List.mem_cons_of_mem _ hl)
  | case3 c cs h ih =>
    rw [segments_cons_none h] at hout
    cases before with
    | nil =>
      rw [List.nil_append] at hcs
      rw [← hcs]
      exact readCommand?_eq_none_iff.1 h d hd
    | cons b before =>
      obtain ⟨rfl, htail⟩ := List.cons.inj hcs
      rw [byteLength_cons, ← Nat.add_assoc] at hout
      exact ih htail hout

/-! ## 2. Occurrences and edits -/

theorem flatMap_locatedFrom (ss : List Segment) (offset : Nat) :
    ((locatedFrom offset ss).flatMap fun l => l.command.occurrences) =
      ss.flatMap Segment.occurrences := by
  induction ss generalizing offset with
  | nil => rfl
  | cons s ss ih =>
    rw [List.flatMap_cons]
    cases s with
    | char c => exact ih _
    | command c => rw [locatedFrom, List.flatMap_cons, ih]; rfl

/-- The edits that put texts, one for every occurrence in order, in the places of commands. -/
def commandEdits : List Located → List String → List Edit
  | [], _ => []
  | l :: ls, texts =>
    ⟨l.start, l.stop, (String.join (texts.take l.command.occurrences.length)).toList⟩ ::
      commandEdits ls (texts.drop l.command.occurrences.length)

theorem edited_refill (ss : List Segment) (offset : Nat) (texts : List String) :
    Edited offset (ss.flatMap Segment.source) (commandEdits (locatedFrom offset ss) texts)
      (refill ss texts) := by
  induction ss generalizing offset texts with
  | nil => exact .kept offset []
  | cons s ss ih =>
    rw [List.flatMap_cons]
    cases s with
    | char c => exact Edited.append_left [c] (ih _ texts)
    | command c =>
      have h := ih (offset + byteLength c.source) (texts.drop c.occurrences.length)
      exact .edit [] c.source _ h

/-- What it means that spans are the citation commands of a text. -/
structure CommandsOf (ls : List Located) (cs : List Char) : Prop where
  /-- The spans follow one another without overlap. -/
  disjoint : ls.Pairwise fun l m => l.stop ≤ m.start
  /-- Each span cuts out of the text a proper command, the longest that begins there. -/
  slice : ∀ l ∈ ls, l.command.Proper ∧ ∃ before behind,
    cs = before ++ l.command.source ++ behind ∧ byteLength before = l.start ∧
      byteLength (before ++ l.command.source) = l.stop ∧
      ∀ c : Command, c.Proper → c.source <+: l.command.source ++ behind →
        c.source.length ≤ l.command.source.length
  /-- A command cites once for every entry. -/
  occurrences : ∀ l ∈ ls, l.command.occurrences.length = l.command.entries.length
  /-- Where a proper command begins, there is a span. -/
  complete : ∀ (c : Command) (before behind : List Char), c.Proper →
    cs = before ++ c.source ++ behind →
      ∃ l ∈ ls, l.start ≤ byteLength before ∧ byteLength before < l.stop

theorem commandsOf_citationCommands (cs : List Char) : CommandsOf (citationCommands cs) cs where
  disjoint := pairwise_locatedFrom _ _
  slice l hl := by
    obtain ⟨⟨before, behind, hcs, hstart, hlongest⟩, hproper⟩ := standsIn_locatedFrom cs 0 l hl
    rw [Nat.zero_add] at hstart
    exact ⟨hproper, before, behind, hcs, hstart, by rw [byteLength_append, hstart, Located.stop],
      hlongest⟩
  occurrences l _ := by rw [Command.occurrences, List.length_mapIdx]
  complete c before behind hc hcs := by
    rw [List.append_assoc] at hcs
    refine Classical.byContradiction fun hno => ?_
    refine not_prefix_of_outside cs hcs (fun l hl hin => hno ⟨l, hl, ?_⟩) hc
      (List.prefix_append _ _)
    rwa [Nat.zero_add] at hin

/-- **The scanner finds the citation commands of a text and no others**, each as long as it goes,
    and replacing them runs once over all that they cite, in order, and edits just their spans. -/
theorem citationCommands_exact (cs : List Char) :
    CommandsOf (citationCommands cs) cs ∧
      (citations cs = (citationCommands cs).flatMap fun l => l.command.occurrences) ∧
      ∀ (m : Type → Type) [Monad m] [LawfulMonad m] (render : Occurrence → m String),
        ∃ out : List String → List Char,
          replaceCitations render cs = out <$> (citations cs).mapM render ∧
            ∀ texts result,
              Edited 0 cs (commandEdits (citationCommands cs) texts) result ↔
                result = out texts := by
  refine ⟨commandsOf_citationCommands cs, (flatMap_locatedFrom (segments cs) 0).symm, ?_⟩
  intro m _ _ render
  refine ⟨refill (segments cs), replaceCitations_eq render cs, fun texts => ?_⟩
  have h := edited_refill (segments cs) 0 texts
  rw [source_segments] at h
  exact h.iff_eq

/-- A rendering that counts what it is asked for. -/
def numbered (o : Occurrence) : StateM Nat String := fun n =>
  ("<" ++ toString n ++ ":" ++ o.key ++ ">", n + 1)

/-- A group behind a control word, a note that holds a command name, and a name without entries. -/
def groupMarkup : List Char :=
  ("\\par\\parencites[see \\citeyear][p. 4]\x7ba\x7d\x7bb\x7d]\x7bc\x7d " ++
    "\\citeauthor \x7bd\x7d").toList

/-- Only the group is a command, and its two entries are counted in order. -/
theorem citationCommands_exact_group :
    ∃ out : List String → List Char,
      ((replaceCitations numbered groupMarkup).run 1).run.1 = out ["<1:a>", "<2:b>"] ∧
        Edited 0 groupMarkup [⟨4, 42, "<1:a><2:b>".toList⟩] (out ["<1:a>", "<2:b>"]) := by
  obtain ⟨-, -, hreplace⟩ := citationCommands_exact groupMarkup
  obtain ⟨out, hrun, hedited⟩ := hreplace (StateM Nat) numbered
  have htexts : (((citations groupMarkup).mapM numbered).run 1).run = (["<1:a>", "<2:b>"], 3) := by
    decide +kernel
  have hspans : commandEdits (citationCommands groupMarkup) ["<1:a>", "<2:b>"] =
      [⟨4, 42, "<1:a><2:b>".toList⟩] := by decide +kernel
  refine ⟨out, ?_, hspans ▸ (hedited _ _).2 rfl⟩
  rw [hrun]
  exact congrArg (fun run => out run.1) htexts

end Galley.Markup
