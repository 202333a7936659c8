import Galley.Proofs.Markup.Grammar
import Galley.Proofs.Text.Lines
import Galley.Proofs.Text.Plain

/-!
# Printed citations

A group of citations is printed as a command name and its entries: of each work the key in braces,
and before it the notes in brackets. Since a single note stands behind the label, a note in front
alone is printed with an empty one after it. Between printed groups stands text without
backslashes, and behind a group none that would go on as an entry. Whatever is read from such a
script is what was printed: the same works with the same notes, of the kind of their command and
in the places of their group. Main statement: `citations_printed`.
-/

namespace Galley.Markup

open Galley.Text

/-! ## 1. Places in a group -/

/-- The places in a group of `size` entries: one alone, or else a first one, those in the middle
    and a last one. -/
def places (size : Nat) : List Position :=
  match size with
  | 0 => []
  | 1 => [.alone]
  | n + 2 => .first :: (List.replicate n .middle ++ [.last])

theorem places_eq_map (size : Nat) :
    places size = (List.range size).map fun i => Position.inGroup i size := by
  match size with
  | 0 => rfl
  | 1 => rfl
  | n + 2 =>
    have hmiddle : (List.range n).map (fun i => Position.inGroup (i + 1) (n + 2)) =
        List.replicate n .middle := by
      rw [List.eq_replicate_iff]
      constructor
      · rw [List.length_map, List.length_range]
      · intro place hplace
        obtain ⟨i, hi, rfl⟩ := List.mem_map.1 hplace
        have hlt : i < n := List.mem_range.1 hi
        exact Position.inGroup_between (by omega) (by omega)
    have hlast : Position.inGroup (n + 1) (n + 2) = .last := Position.inGroup_pred (by omega)
    rw [List.range_succ_eq_map, List.map_cons, List.map_map, List.range_succ, List.map_append,
      Position.inGroup_zero (by omega)]
    show _ = Position.first :: ((List.range n).map (fun i => Position.inGroup (i + 1) (n + 2)) ++
      [Position.inGroup (n + 1) (n + 2)])
    rw [hmiddle, hlast]
    rfl

/-- **A command cites the works of its entries, each at its place in the group.** -/
theorem Command.occurrences_eq (c : Command) :
    c.occurrences =
      List.zipWith (fun e place => e.occurrence c.kind place) c.entries
        (places c.entries.length) := by
  rw [places_eq_map]
  refine List.ext_getElem (by simp [Command.occurrences]) fun i hi hi' => ?_
  simp [Command.occurrences]

/-- The places of what a command cites. -/
theorem Command.map_position_occurrences (c : Command) :
    c.occurrences.map Occurrence.position = places c.occurrences.length := by
  have hlength : c.occurrences.length = c.entries.length := by
    rw [Command.occurrences, List.length_mapIdx]
  rw [hlength, places_eq_map]
  refine List.ext_getElem (by simp [hlength]) fun i hi hi' => ?_
  simp [Command.occurrences, Entry.occurrence]

/-! ## 2. What is printed -/

/-- The names of citation commands. -/
inductive CommandName where
  | parencite
  | parencites
  | textcite
  | textcites
  | citeauthor
  | citeyear
  deriving DecidableEq, Repr

namespace CommandName

/-- The letters of a name. -/
def spelling : CommandName → List Char
  | parencite => "parencite".toList
  | parencites => "parencites".toList
  | textcite => "textcite".toList
  | textcites => "textcites".toList
  | citeauthor => "citeauthor".toList
  | citeyear => "citeyear".toList

/-- What the citations of a command are: in parentheses, part of the sentence, the author alone
    or the year alone. -/
def kind : CommandName → CitationKind
  | parencite | parencites => .paren
  | textcite | textcites => .text
  | citeauthor => .author
  | citeyear => .year

theorem spelling_mem (name : CommandName) : name.spelling ∈ commandNames := by
  cases name <;> decide

theorem ofCommand?_spelling (name : CommandName) :
    CitationKind.ofCommand? (String.ofList name.spelling) = some name.kind := by
  cases name <;> rfl

end CommandName

/-- A note that is kept as it is written: there is something in it, with no blanks at its ends,
    and nothing that would end it or begin a command. -/
structure IsNote (note : List Char) : Prop where
  nonempty : note ≠ []
  trimmed : Trimmed note
  bracket : ']' ∉ note
  plain : Plain note

instance (note : List Char) : Decidable (IsNote note) :=
  decidable_of_iff (note ≠ [] ∧ Trimmed note ∧ ']' ∉ note ∧ Plain note)
    ⟨fun ⟨h₁, h₂, h₃, h₄⟩ => ⟨h₁, h₂, h₃, h₄⟩, fun ⟨h₁, h₂, h₃, h₄⟩ => ⟨h₁, h₂, h₃, h₄⟩⟩

/-- One work that a group cites: its key, a note in front of its label and one behind it. -/
structure Cited where
  key : String
  before : Option String
  after : Option String
  key_brace : '\x7d' ∉ key.toList := by decide
  key_trimmed : Trimmed key.toList := by decide
  before_note : ∀ note ∈ before, IsNote note.toList := by decide
  after_note : ∀ note ∈ after, IsNote note.toList := by decide

/-- A group of citations under one command. -/
structure CitationGroup where
  name : CommandName
  cited : List Cited
  nonempty : cited ≠ []

/-- No entry begins a text. -/
def BeginsNoEntry (cs : List Char) : Prop := ∀ c ∈ cs.head?, c ≠ '\x7b' ∧ c ≠ '['

instance (cs : List Char) : Decidable (BeginsNoEntry cs) := Option.decidableForallMem cs.head?

/-- A group and the text behind it. -/
structure Passage where
  group : CitationGroup
  behind : List Char
  behind_plain : '\\' ∉ behind := by decide
  behind_apart : BeginsNoEntry behind := by decide

/-- Text with groups of citations in it. -/
structure Script where
  front : List Char
  passages : List Passage
  front_plain : '\\' ∉ front := by decide

/-- A note in its brackets. -/
def bracketed (note : List Char) : List Char := '[' :: note ++ [']']

/-- A key in its braces. -/
def braced (key : List Char) : List Char := '\x7b' :: key ++ ['\x7d']

/-- The text of an entry. -/
def Cited.printed (c : Cited) : List Char :=
  match c.before, c.after with
  | none, none => braced c.key.toList
  | none, some after => bracketed after.toList ++ braced c.key.toList
  | some before, none => bracketed before.toList ++ bracketed [] ++ braced c.key.toList
  | some before, some after =>
    bracketed before.toList ++ bracketed after.toList ++ braced c.key.toList

/-- The text of a group. -/
def CitationGroup.printed (g : CitationGroup) : List Char :=
  '\\' :: g.name.spelling ++ g.cited.flatMap Cited.printed

/-- The text of a group with what stands behind it. -/
def Passage.printed (p : Passage) : List Char := p.group.printed ++ p.behind

/-- The text of a script. -/
def Script.printed (s : Script) : List Char := s.front ++ s.passages.flatMap Passage.printed

/-- What a work is cited as in a group of the given kind at the given place. -/
def Cited.occurrence (c : Cited) (kind : CitationKind) (place : Position) : Occurrence :=
  ⟨c.key, kind, place, c.before, c.after⟩

/-- What a group cites, in order. -/
def CitationGroup.occurrences (g : CitationGroup) : List Occurrence :=
  List.zipWith (fun c place => c.occurrence g.name.kind place) g.cited (places g.cited.length)

/-- What a script cites, in order. -/
def Script.occurrences (s : Script) : List Occurrence :=
  s.passages.flatMap fun p => p.group.occurrences

/-! ## 3. Entries -/

/-- The entry that is written for a work. -/
def Cited.entry (c : Cited) : Entry :=
  match c.before, c.after with
  | none, none => ⟨none, none, c.key.toList⟩
  | none, some after => ⟨some after.toList, none, c.key.toList⟩
  | some before, none => ⟨some before.toList, some [], c.key.toList⟩
  | some before, some after => ⟨some before.toList, some after.toList, c.key.toList⟩

theorem Cited.printed_eq (c : Cited) : c.printed = c.entry.source := by
  unfold Cited.printed Cited.entry
  split
  all_goals simp [Entry.source, noteSource, bracketed, braced]

theorem Cited.proper_entry (c : Cited) : c.entry.Proper := by
  have hbefore : ∀ note ∈ c.before, ']' ∉ note.toList := by
    intro note h
    exact (c.before_note note h).bracket
  have hafter : ∀ note ∈ c.after, ']' ∉ note.toList := by
    intro note h
    exact (c.after_note note h).bracket
  unfold Cited.entry
  split
  all_goals constructor
  all_goals simp_all [c.key_brace]

/-- A note without backslashes that is trimmed is kept as it is. -/
theorem cleanNote?_of_isNote {note : List Char} (h : IsNote note) :
    cleanNote? note = some (String.ofList note) := by
  have hsame := replaceAll_unwrapCommand_of_not_mem (Or.inl (h.plain.not_mem (c := '\\') rfl))
  have hempty : note.isEmpty = false := by simpa using h.nonempty
  unfold cleanNote?
  simp only [hsame, h.trimmed.trimChars, hempty, Bool.false_eq_true, if_false]

theorem cleanNote?_nil : cleanNote? [] = none := by
  unfold cleanNote?
  rw [replaceAll_nil]
  rfl

/-- **What is read from an entry is the work it was printed for.** -/
theorem Cited.occurrence_entry (c : Cited) (kind : CitationKind) (place : Position) :
    c.entry.occurrence kind place = c.occurrence kind place := by
  have hbefore : ∀ note ∈ c.before, cleanNote? note.toList = some note := by
    intro note h
    rw [cleanNote?_of_isNote (c.before_note note h), String.ofList_toList]
  have hafter : ∀ note ∈ c.after, cleanNote? note.toList = some note := by
    intro note h
    rw [cleanNote?_of_isNote (c.after_note note h), String.ofList_toList]
  have hkey : String.ofList (trimChars c.key.toList) = c.key := by
    rw [c.key_trimmed.trimChars, String.ofList_toList]
  unfold Entry.occurrence Cited.occurrence Cited.entry Entry.notes
  split
  all_goals simp_all [cleanNote?_nil]

/-! ## 4. Groups -/

/-- The command that is written for a group. -/
def CitationGroup.command (g : CitationGroup) : Command :=
  ⟨g.name.spelling, g.name.kind, g.cited.map Cited.entry⟩

theorem CitationGroup.printed_eq (g : CitationGroup) : g.printed = g.command.source := by
  have hentries : g.cited.flatMap Cited.printed = g.command.entries.flatMap Entry.source := by
    rw [CitationGroup.command, List.flatMap_map]
    exact congrArg g.cited.flatMap (funext Cited.printed_eq)
  rw [CitationGroup.printed, hentries]
  rfl

theorem CitationGroup.proper_command (g : CitationGroup) : g.command.Proper where
  name := g.name.spelling_mem
  kind := g.name.ofCommand?_spelling
  entries := by
    intro e he
    obtain ⟨c, -, rfl⟩ := List.mem_map.1 he
    exact c.proper_entry
  nonempty := by
    intro h
    exact g.nonempty (List.map_eq_nil_iff.1 h)

theorem CitationGroup.occurrences_command (g : CitationGroup) :
    g.command.occurrences = g.occurrences := by
  rw [Command.occurrences_eq, CitationGroup.occurrences, CitationGroup.command, List.length_map,
    List.zipWith_map_left]
  exact congrArg (fun f => List.zipWith f g.cited (places g.cited.length))
    (funext fun c => funext fun place => c.occurrence_entry g.name.kind place)

theorem readEntries_of_beginsNoEntry {rest : List Char} (h : BeginsNoEntry rest) :
    readEntries rest = ([], rest) := by
  refine readEntries_none (Option.eq_none_iff_forall_ne_some.2 fun p hp => ?_)
  obtain ⟨e, more⟩ := p
  have hrest : rest = e.source ++ more := readEntry?_eq_some hp
  rcases e.head?_source with he | he
  · obtain ⟨t, ht⟩ := List.head?_eq_some_iff.1 he
    exact (h '[' (by rw [hrest, ht]; rfl)).2 rfl
  · obtain ⟨t, ht⟩ := List.head?_eq_some_iff.1 he
    exact (h '\x7b' (by rw [hrest, ht]; rfl)).1 rfl

/-- **A printed group is read as a whole**, when nothing behind it goes on as an entry. -/
theorem CitationGroup.readCommand?_printed (g : CitationGroup) {rest : List Char}
    (h : BeginsNoEntry rest) :
    readCommand? (g.printed ++ rest) = some (g.command, rest) := by
  rw [g.printed_eq, readCommand?_source g.proper_command, readEntries_of_beginsNoEntry h,
    List.append_nil]

/-! ## 5. Scripts -/

theorem readCommand?_of_ne {c : Char} (h : c ≠ '\\') (cs : List Char) :
    readCommand? (c :: cs) = none := if_neg h

/-- Text without backslashes cites nothing. -/
theorem citations_append_of_not_mem {text : List Char} (h : '\\' ∉ text) (rest : List Char) :
    citations (text ++ rest) = citations rest := by
  induction text with
  | nil => rfl
  | cons c text ih =>
    have hc : c ≠ '\\' := by
      rintro rfl
      exact h List.mem_cons_self
    have htext : '\\' ∉ text := fun hmem => h (List.mem_cons_of_mem c hmem)
    rw [List.cons_append, citations, segments_cons_none (readCommand?_of_ne hc _),
      List.flatMap_cons]
    exact ih htext

/-- A printed group cites what it was printed for, and then what follows is read. -/
theorem CitationGroup.citations_printed_append (g : CitationGroup) {rest : List Char}
    (h : BeginsNoEntry rest) :
    citations (g.printed ++ rest) = g.occurrences ++ citations rest := by
  have hread := g.readCommand?_printed h
  have hcons : g.printed ++ rest =
      '\\' :: (g.name.spelling ++ g.cited.flatMap Cited.printed ++ rest) := rfl
  rw [hcons] at hread ⊢
  rw [citations, segments_cons_some hread, List.flatMap_cons]
  show g.command.occurrences ++ citations rest = _
  rw [g.occurrences_command]

/-- What stands behind a group begins no entry, whatever groups follow. -/
theorem beginsNoEntry_append {text : List Char} (h : BeginsNoEntry text) (ps : List Passage) :
    BeginsNoEntry (text ++ ps.flatMap Passage.printed) := by
  cases text with
  | cons c text => exact h
  | nil =>
    cases ps with
    | nil => exact h
    | cons p ps =>
      -- without text between them the next group follows, which begins with a backslash
      intro c hc
      cases hc
      decide

/-- **What is read from a script is what was printed.** -/
theorem citations_printed (s : Script) : citations s.printed = s.occurrences := by
  rw [Script.printed, citations_append_of_not_mem s.front_plain, Script.occurrences]
  induction s.passages with
  | nil => rw [List.flatMap_nil, citations, segments_nil]; rfl
  | cons p ps ih =>
    rw [List.flatMap_cons, List.flatMap_cons, Passage.printed, List.append_assoc,
      p.group.citations_printed_append (beginsNoEntry_append p.behind_apart ps),
      citations_append_of_not_mem p.behind_plain, ih]

/-- A group with every mix of notes. -/
def mixedGroup : CitationGroup where
  name := .parencites
  cited :=
    [{ key := "a", before := some "see", after := some "p. 4" },
      { key := "b", before := none, after := none },
      { key := "c d", before := some "cf. [1", after := none },
      { key := "\x7be\\f", before := none, after := some "ch. 2" }]
  nonempty := List.cons_ne_nil _ _

/-- A group for an empty key. -/
def keylessGroup : CitationGroup where
  name := .citeyear
  cited := [{ key := "", before := none, after := none }]
  nonempty := List.cons_ne_nil _ _

/-- Two groups with no text between them. -/
def mixedScript : Script where
  front := "\x7bAs".toList
  passages :=
    [{ group := mixedGroup, behind := [] },
      { group := keylessGroup, behind := " \x7bshow\x7d".toList }]

/-- Each work is read with the notes it was printed with, and the groups stay apart. -/
theorem citations_printed_mixedScript :
    citations ("\x7bAs\\parencites[see][p. 4]\x7ba\x7d\x7bb\x7d[cf. [1][]\x7bc d\x7d" ++
        "[ch. 2]\x7b\x7be\\f\x7d\\citeyear\x7b\x7d \x7bshow\x7d").toList =
      [⟨"a", .paren, .first, some "see", some "p. 4"⟩, ⟨"b", .paren, .middle, none, none⟩,
        ⟨"c d", .paren, .middle, some "cf. [1", none⟩,
        ⟨"\x7be\\f", .paren, .last, none, some "ch. 2"⟩, ⟨"", .year, .alone, none, none⟩] :=
  citations_printed mixedScript

end Galley.Markup
