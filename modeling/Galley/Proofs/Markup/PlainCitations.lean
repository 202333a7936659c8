import Mathlib.Data.List.Infix
import Galley.Proofs.Label.Plain
import Galley.Proofs.Markup.Cleaning
import Galley.Proofs.Markup.RegionSegments

/-!
# Markup that is plainly cited

Markup is *plainly cited* when its citation commands are finished, have plain notes and keys and
stand directly behind no beginning of a control word. With a formatter and a bibliography that give
plain text, cleaning then writes plain text for the citation commands of regions and keeps all other
characters. Main statement: `exists_clean_shown`.
-/

namespace Galley

open Galley.Text

/-- A formatter whose labels hold no backslash and no brace. -/
def Formatter.IsPlain (f : Formatter) : Prop :=
  ∀ b r label, f.citation b r = .ok label → Plain label.toList

/-- Every work of a bibliography has plain names and a plain year. -/
def Bibliography.IsPlain (b : Bibliography) : Prop := ∀ key, ∀ r ∈ b.get? key, r.IsPlain

namespace Markup

open Galley.Label (Disambiguator)

/-! ## 1. What occurrences show -/

/-- A plain note has no commands to take out. -/
theorem plain_cleanNote? {note : List Char} (h : Plain note) :
    ∀ cleaned ∈ cleanNote? note, Plain cleaned.toList := by
  have hsame := replaceAll_unwrapCommand_of_not_mem (Or.inl (h.not_mem (c := '\\') rfl))
  intro cleaned hcleaned
  rw [cleanNote?, hsame] at hcleaned
  split at hcleaned
  · cases hcleaned
  · cases hcleaned
    rw [String.toList_ofList]
    exact h.trimChars

/-- A plain entry cites a plain key, with plain notes. -/
theorem Entry.IsPlain.occurrence {e : Entry} (h : e.IsPlain) (kind : CitationKind)
    (position : Position) :
    Plain (e.occurrence kind position).key.toList ∧
      (∀ note ∈ (e.occurrence kind position).before, Plain note.toList) ∧
        ∀ note ∈ (e.occurrence kind position).after, Plain note.toList := by
  refine ⟨?_, ?_⟩
  · rw [Entry.occurrence, String.toList_ofList]
    exact h.key.trimChars
  · obtain ⟨first, second, key⟩ := e
    have hnone : ∀ note ∈ (none : Option String), Plain note.toList := fun note hn => by cases hn
    cases first with
    | none =>
      cases second with
      | none => exact ⟨hnone, hnone⟩
      | some note => exact ⟨hnone, plain_cleanNote? (h.second note rfl)⟩
    | some note =>
      have hfirst := plain_cleanNote? (h.first note rfl)
      cases second with
      | none => exact ⟨hnone, hfirst⟩
      | some note => exact ⟨hfirst, plain_cleanNote? (h.second note rfl)⟩

section Labels

variable {f : Formatter} (style : String) {b : Bibliography} (hf : f.IsPlain) (hb : b.IsPlain)

include hf hb

/-- The call for a plain key has a plain label, also where the formatter gives none. -/
theorem plain_callFor {key : String} (hkey : Plain key.toList) :
    (callFor f style b key).IsPlain where
  reference := hb key
  rendered := by
    rw [callFor, renderLabel, Logged.value_bind]
    cases hlabel : f.citation b ⟨key, style, .text, [], b.keys⟩ with
    | ok label => exact hf _ _ _ hlabel
    | error cause =>
      show Plain ("(" ++ key ++ ")").toList
      rw [String.toList_append, String.toList_append, plain_append, plain_append]
      exact ⟨⟨by decide, hkey⟩, by decide⟩

/-- A plain key shows plain text, after any calls. -/
theorem plain_shown (os : List Occurrence) {key : String} (hkey : Plain key.toList) :
    Plain ((Disambiguator.run [] (callsFor f style b os)).shown key).toList := by
  rw [Disambiguator.shown]
  cases hlabel : (Disambiguator.run [] (callsFor f style b os)).label? key with
  | none => exact plain_nil
  | some label =>
    refine Disambiguator.plain_label_of_run hlabel fun c hc hck => ?_
    obtain ⟨k, -, rfl⟩ := List.mem_map.1 hc
    obtain rfl : k = key := hck
    exact plain_callFor style hf hb hkey

/-- **Plain text is written for plain commands**, with its special characters escaped. -/
theorem replacement_eq_escapeSpecials {c : Command} (hc : c.IsPlain) (os : List Occurrence) :
    ∃ cs, Plain cs ∧ replacement (fun o => escapedText o
      ((Disambiguator.run [] (callsFor f style b os)).shown o.key)) c = escapeSpecials cs := by
  refine ⟨_, ?_, replacement_escapedText _ c⟩
  rw [replacement_eq, plain_flatMap]
  intro o ho
  obtain ⟨i, hi, rfl⟩ := List.mem_mapIdx.1 ho
  obtain ⟨hkey, hbefore, hafter⟩ := (hc _ (List.getElem_mem hi)).occurrence c.kind
    (Position.inGroup i c.entries.length)
  exact Label.plain_inline (plain_shown style hf hb os hkey) hbefore hafter

end Labels

/-! ## 2. Finished commands that stand apart -/

/-- Markup whose citation commands are finished and plain, and stand apart from control words. -/
structure PlainlyCited (cs : List Char) : Prop where
  /-- Where the name of a command stands before a bracket or a brace, a command is read, and its
      notes and keys are plain. -/
  finished : ∀ name ∈ commandNames, ∀ rest, '\\' :: (name ++ rest) <:+ cs →
    (rest.head? = some '[' ∨ rest.head? = some '\x7b') →
      ∃ p ∈ readCommand? ('\\' :: (name ++ rest)), p.1.IsPlain
  /-- No command stands directly behind the beginning of a control word. -/
  apart : ∀ u rest, BeginsWord u → u ++ rest <:+ cs → readCommand? rest = none

/-- What being plainly cited asks of a text from one place on. -/
def CitedHere (t : List Char) : Prop :=
  (∀ name ∈ commandNames, ∀ rest ∈ after? ('\\' :: name) t,
    (rest.head? = some '[' ∨ rest.head? = some '\x7b') → ∃ p ∈ readCommand? t, p.1.IsPlain) ∧
  ∀ word ∈ controlWords, ∀ u ∈ word.inits, u ≠ [] → ∀ rest ∈ after? u t, readCommand? rest = none

instance (t : List Char) : Decidable (CitedHere t) :=
  inferInstanceAs (Decidable (_ ∧ _))

/-- Markup is plainly cited when it is from every place on. -/
theorem plainlyCited_iff {cs : List Char} : PlainlyCited cs ↔ ∀ t ∈ cs.tails, CitedHere t := by
  simp only [List.mem_tails]
  constructor
  · intro h t ht
    refine ⟨fun name hname rest hrest hhead => ?_, fun word hword u hu hne rest hrest => ?_⟩
    · obtain rfl := after?_eq_some_iff.1 hrest
      exact h.finished name hname rest ht hhead
    · obtain rfl := after?_eq_some_iff.1 hrest
      exact h.apart u rest ⟨hne, word, hword, (List.mem_inits _ _).1 hu⟩ ht
  · intro h
    constructor
    case finished =>
      intro name hname rest hs hhead
      exact (h _ hs).1 name hname rest (after?_append ('\\' :: name) rest) hhead
    case apart =>
      rintro u rest ⟨hne, word, hword, hpre⟩ hs
      exact (h _ hs).2 word hword u ((List.mem_inits _ _).2 hpre) hne rest (after?_append u rest)

instance (cs : List Char) : Decidable (PlainlyCited cs) :=
  decidable_of_iff _ plainlyCited_iff.symm

/-- A proper command of plainly cited markup is plain. -/
theorem PlainlyCited.isPlain {cs : List Char} (h : PlainlyCited cs) {c : Command} (hc : c.Proper)
    {rest : List Char} (hs : c.source ++ rest <:+ cs) : c.IsPlain := by
  have hsource : c.source ++ rest = '\\' :: (c.name ++ (c.entries.flatMap Entry.source ++ rest)) := by
    simp [Command.source]
  have hhead : (c.entries.flatMap Entry.source ++ rest).head? = some '[' ∨
      (c.entries.flatMap Entry.source ++ rest).head? = some '\x7b' := by
    obtain ⟨e, es, he⟩ := List.exists_cons_of_ne_nil hc.nonempty
    rw [he, List.flatMap_cons, List.append_assoc, List.head?_append]
    rcases e.head?_source with hb | hb <;> simp [hb]
  obtain ⟨p, hread, hp⟩ := h.finished c.name hc.name _ (hsource ▸ hs) hhead
  -- the command that is read has these entries and maybe more
  rw [← hsource, readCommand?_source hc] at hread
  cases hread
  exact fun e he => hp e (List.mem_append_left _ he)

theorem exists_of_mem_segmentsOf {ps : List Piece} {c : Command} (h : .command c ∈ segmentsOf ps) :
    ∃ cs, .command c ∈ segments cs := by
  obtain ⟨p, -, hc⟩ := List.mem_flatMap.1 h
  cases p with
  | body cs => exact absurd hc (command_not_mem_chars c cs)
  | region a =>
    rw [Piece.segments, List.mem_append, List.mem_append] at hc
    rcases hc with hc | hc | hc
    · exact absurd hc (command_not_mem_chars c _)
    · exact ⟨a.text, hc⟩
    · exact absurd hc (command_not_mem_chars c _)

/-- **Plainly cited markup is plainly shown**, when plain text is written for plain commands. -/
theorem PlainlyCited.plainlyShown {cs : List Char} (h : PlainlyCited cs) (hg : BracesGroup cs)
    {text : Command → List Char}
    (htext : ∀ c, c.IsPlain → ∃ ds, Plain ds ∧ text c = escapeSpecials ds) :
    PlainlyShown text (segmentsOf (pieces cs)) := by
  have hwritten := writtenOf_pieces cs
  have hproper : ∀ c, .command c ∈ segmentsOf (pieces cs) → c.Proper := fun c hc => by
    obtain ⟨ds, hds⟩ := exists_of_mem_segmentsOf hc
    exact proper_of_mem_segments hds
  have hsuffix : ∀ {before behind}, segmentsOf (pieces cs) = before ++ behind →
      writtenOf behind <:+ cs := fun {before behind} he => by
    rw [← hwritten, he, writtenOf_append]
    exact List.suffix_append _ _
  have hplain : ∀ c, .command c ∈ segmentsOf (pieces cs) → c.IsPlain := fun c hc => by
    obtain ⟨before, behind, he⟩ := List.append_of_mem hc
    exact h.isPlain (hproper c hc) (hsuffix he)
  exact
    { proper := hproper
      plain := hplain
      shown := fun c hc => htext c (hplain c hc)
      apart := fun front u c rest he hu => by
        have hc := hproper c (by simp [he])
        have hs : u ++ (c.source ++ writtenOf rest) <:+ cs := by
          rw [List.append_assoc] at he
          have hs := hsuffix he
          rwa [writtenOf_append, writtenOf_chars] at hs
        have hnone := h.apart u _ hu hs
        rw [readCommand?_source hc] at hnone
        cases hnone
      groups := by rwa [hwritten] }

/-! ## 3. Cleaning -/

/-- What is written for the citation commands of regions: the labels of their keys, when those of
    the body are handed out first. -/
def regionReplacement (f : Formatter) (style : String) (b : Bibliography) (cs : List Char) :
    Command → List Char :=
  replacement fun o => escapedText o
    ((Disambiguator.run [] (callsFor f style b (citations (body cs) ++ regionOccurrences cs))).shown
      o.key)

theorem withRegionLabels_eq_shown (f : Formatter) (style : String) (b : Bibliography)
    (cs : List Char) :
    withRegionLabels cs (labelsInRegions f style b cs) =
      shownOf (regionReplacement f style b cs) (segmentsOf (pieces cs)) := by
  have hoccurrences : regionOccurrences cs = (pieces cs).flatMap Piece.occurrences :=
    flatMap_regionsFrom 0 (pieces cs)
  rw [withRegionLabels, labelsInRegions_eq_map, List.zipWith_map_right, List.zipWith_self,
    regionReplacement, ← refillRegions_map, ← hoccurrences]

/-- **Plainly cited markup is cleaned by writing plain text for the commands of its regions.** -/
theorem exists_clean_shown (config : Config) {f : Formatter} {b : Bibliography} {tex : String}
    (hconfig : config.preclean = ⟨[], [], []⟩) (hf : f.IsPlain) (hb : b.IsPlain)
    (hg : BracesGroup tex.toList) (hcited : PlainlyCited tex.toList) :
    ∃ (run : Logged String) (text : Command → List Char),
      clean config f (some b) tex = .ok run ∧
        PlainlyShown text (segmentsOf (pieces tex.toList)) ∧
          run.value.toList = shownOf text (segmentsOf (pieces tex.toList)) := by
  obtain ⟨run, hrun, hvalue⟩ := clean_eq_ok config f b tex hconfig
  refine ⟨run, regionReplacement f config.style b tex.toList, hrun, ?_, ?_⟩
  · exact hcited.plainlyShown hg fun c hc => replacement_eq_escapeSpecials config.style hf hb hc _
  · rw [hvalue, withRegionLabels_eq_shown]

end Markup

end Galley
