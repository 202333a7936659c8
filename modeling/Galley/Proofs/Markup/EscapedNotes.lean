import Galley.Proofs.Markup.Escapes
import Galley.Proofs.Markup.Notes
import Galley.Proofs.Markup.PlainCitations

/-!
# Escaped notes

A note of a citation command is markup, so its percent signs and ampersands are written with a
backslash. A label is no markup, so in it they have none. What stands for the command in a region is
made of both, and all of it is escaped: the special characters of the label once, and those of the
notes for a second time. Main statement: `escapedOnce_clean_iff`.
-/

namespace Galley

open Galley.Text

/-- Whether citations of a kind show their notes. -/
def CitationKind.showsNotes : CitationKind → Bool
  | .paren | .text => true
  | .author | .year => false

namespace Markup

open Galley.Label (AuthorYear Disambiguator)

variable {cs : List Char}

/-! ## 1. Notes -/

/-- A note without braces is kept as it is, but for the blanks at its ends. -/
theorem cleanNote?_of_not_mem {note : List Char} (h : '\x7b' ∉ note) :
    cleanNote? note = keptNote note := by
  rw [cleanNote?, replaceAll_unwrapCommand_of_not_mem (Or.inr h)]
  rfl

theorem mem_keptNote_iff {x : Char} (hx : isBlank x = false) {cs : List Char} :
    (∃ note ∈ keptNote cs, x ∈ note.toList) ↔ x ∈ cs := by
  have hmem : x ∈ trimChars cs ↔ x ∈ cs := by
    rw [← List.count_pos_iff, count_trimChars hx, List.count_pos_iff]
  rw [← hmem, keptNote]
  split
  · next h => simp [List.isEmpty_iff.1 h]
  · simp

namespace OnlyEscapes

theorem of_append_blanks {blanks : List Char} (hblanks : ∀ c ∈ blanks, isBlank c = true)
    (h : OnlyEscapes (cs ++ blanks)) : OnlyEscapes cs := by
  rintro front rest rfl
  have hhead := h front (rest ++ blanks) (by simp)
  cases rest with
  | cons c rest => exact hhead
  | nil =>
    cases blanks with
    | nil => exact hhead
    | cons c blanks =>
      -- no special character is a blank
      have hspecial : c = '%' ∨ c = '&' := by simpa [needsEscape] using hhead
      have hblank := hblanks c List.mem_cons_self
      rcases hspecial with rfl | rfl <;> exact absurd hblank (by decide)

protected theorem keptNote (h : OnlyEscapes cs) :
    ∀ note ∈ keptNote cs, OnlyEscapes note.toList := by
  obtain ⟨left, right, hcs, -, hright⟩ := exists_trimChars cs
  intro note hnote
  rw [keptNote] at hnote
  split at hnote
  · cases hnote
  · cases hnote
    rw [String.toList_ofList]
    exact of_append_blanks hright (h.of_suffix ⟨left, hcs.symm⟩)

theorem of_mem_bind {note? : Option (List Char)} (h : ∀ note ∈ note?, OnlyEscapes note) :
    ∀ kept ∈ note?.bind Markup.keptNote, OnlyEscapes kept.toList := by
  intro kept hkept
  obtain ⟨note, hnote, hkept⟩ := Option.bind_eq_some_iff.1 hkept
  exact (h note hnote).keptNote kept hkept

end OnlyEscapes

/-! ## 2. What an occurrence shows -/

/-- A frame around two notes. -/
def framed (front between lead back : List Char) (before after : Option String) : List Char :=
  front ++ (before.elim [] fun note => note.toList ++ [' ']) ++ between ++
    (after.elim [] fun note => lead ++ note.toList) ++ back

/-- A citation that does not show its notes is the same with any notes. -/
theorem inline_eq_of_not_showsNotes {o o' : Occurrence} (hkind : o'.kind = o.kind)
    (h : o.kind.showsNotes = false) (label : String) :
    Label.inline o' label = Label.inline o label := by
  unfold Label.inline
  rw [hkind]
  cases hk : o.kind
  all_goals
    rw [hk] at h
    cases h
  · cases AuthorYear.find? label.toList <;> rfl
  · cases AuthorYear.find? label.toList <;> rfl

section Frame

variable {o : Occurrence} {label : String} (hlabel : '\\' ∉ label.toList)

include hlabel

/-- The parts of a label without backslashes have none. -/
theorem backslash_not_mem_of_find? {p : AuthorYear}
    (hp : AuthorYear.find? label.toList = some p) :
    '\\' ∉ p.front ∧ '\\' ∉ p.author ∧ '\\' ∉ p.year ∧ '\\' ∉ p.back := by
  rw [← AuthorYear.label_of_find? hp] at hlabel
  simpa [AuthorYear.label, and_assoc] using hlabel

/-- **A citation is a frame around the notes it shows**, and the frame comes from the label. -/
theorem exists_frame : ∃ front between lead back : List Char,
    ('\\' ∉ front ∧ '\\' ∉ between ∧ '\\' ∉ lead ∧ '\\' ∉ back) ∧
      (Label.inline o label).toList = framed front between lead back
        (if o.kind.showsNotes then o.before else none)
        (if o.kind.showsNotes then o.after else none) := by
  have hbare : '\\' ∉ Label.dropFirst ')' (Label.dropFirst '(' label.toList) :=
    fun hm => hlabel (List.erase_subset (List.erase_subset hm))
  have hformatted : (Label.formatted o label).toList =
      framed [] (Label.dropFirst ')' (Label.dropFirst '(' label.toList)) [',', ' '] []
        o.before o.after := by
    rw [Label.formatted, Label.leadIn, framed]
    cases o.before <;> cases o.after <;> simp
  have hgroup : ∃ front back : List Char, '\\' ∉ front ∧ '\\' ∉ back ∧
      ∀ text, (Label.parenthetical o.position text).toList = front ++ text.toList ++ back := by
    cases o.position
    case alone => exact ⟨['('], [')'], by decide, by decide, fun _ => by simp [Label.parenthetical]⟩
    case first =>
      exact ⟨['('], [';', ' '], by decide, by decide, fun _ => by simp [Label.parenthetical]⟩
    case middle =>
      exact ⟨[], [';', ' '], by decide, by decide, fun _ => by simp [Label.parenthetical]⟩
    case last => exact ⟨[], [')'], by decide, by decide, fun _ => by simp [Label.parenthetical]⟩
  have hno : '\\' ∉ ([] : List Char) := List.not_mem_nil
  unfold Label.inline
  split
  · next hkind =>
    obtain ⟨front, back, hfront, hback, hgroup⟩ := hgroup
    refine ⟨front, _, [',', ' '], back, ⟨hfront, hbare, by decide, hback⟩, ?_⟩
    rw [hgroup, hformatted, hkind]
    simp [framed, CitationKind.showsNotes]
  · next p hkind hp =>
    obtain ⟨hfront, hauthor, hyear, hback⟩ := backslash_not_mem_of_find? hlabel hp
    refine ⟨[], p.front ++ p.author ++ [' ', '('] ++ p.year ++ p.back, [' '], [')'],
      ⟨hno, by simp [*], by decide, by decide⟩, ?_⟩
    rw [hkind, Label.leadIn, framed]
    cases o.before <;> cases o.after <;> simp [CitationKind.showsNotes]
  · next hkind _ =>
    refine ⟨[], _, [',', ' '], [], ⟨hno, hbare, by decide, hno⟩, ?_⟩
    rw [hformatted, hkind]
    rfl
  · next p hkind hp =>
    obtain ⟨hfront, -, hyear, hback⟩ := backslash_not_mem_of_find? hlabel hp
    refine ⟨[], p.front ++ p.year ++ p.back, [], [], ⟨hno, by simp [*], hno, hno⟩, ?_⟩
    simp [hkind, CitationKind.showsNotes, framed]
  · next p hkind hp =>
    obtain ⟨hfront, hauthor, -, hback⟩ := backslash_not_mem_of_find? hlabel hp
    refine ⟨[], p.front ++ p.author ++ p.back, [], [], ⟨hno, by simp [*], hno, hno⟩, ?_⟩
    simp [hkind, CitationKind.showsNotes, framed]
  · next hkind _ =>
    exact ⟨[], label.toList, [], [], ⟨hno, hlabel, hno, hno⟩,
      by simp [hkind, CitationKind.showsNotes, framed]⟩
  · next hkind _ =>
    exact ⟨[], label.toList, [], [], ⟨hno, hlabel, hno, hno⟩,
      by simp [hkind, CitationKind.showsNotes, framed]⟩

/-- **The backslashes of a citation are those of the notes it shows.** -/
theorem backslash_mem_inline_iff : '\\' ∈ (Label.inline o label).toList ↔
    o.kind.showsNotes = true ∧
      ((∃ note ∈ o.before, '\\' ∈ note.toList) ∨ ∃ note ∈ o.after, '\\' ∈ note.toList) := by
  obtain ⟨front, between, lead, back, ⟨hfront, hbetween, hlead, hback⟩, he⟩ :=
    @exists_frame o label hlabel
  rw [he, framed]
  cases o.kind.showsNotes
  · simp [hfront, hbetween, hback]
  · cases o.before <;> cases o.after <;> simp [hfront, hbetween, hlead, hback]

theorem onlyEscapes_inline (hbefore : ∀ note ∈ o.before, OnlyEscapes note.toList)
    (hafter : ∀ note ∈ o.after, OnlyEscapes note.toList) :
    OnlyEscapes (Label.inline o label).toList := by
  obtain ⟨front, between, lead, back, ⟨hfront, hbetween, hlead, hback⟩, he⟩ :=
    @exists_frame o label hlabel
  have hin : ∀ shown : Option String, (∀ note ∈ shown, OnlyEscapes note.toList) →
      OnlyEscapes (shown.elim [] fun note => note.toList ++ [' ']) := by
    rintro (_ | note) hnote
    · exact .of_not_mem List.not_mem_nil
    · exact (hnote note rfl).append (.of_not_mem (by decide))
  have hbehind : ∀ shown : Option String, (∀ note ∈ shown, OnlyEscapes note.toList) →
      OnlyEscapes (shown.elim [] fun note => lead ++ note.toList) := by
    rintro (_ | note) hnote
    · exact .of_not_mem List.not_mem_nil
    · exact (OnlyEscapes.of_not_mem hlead).append (hnote note rfl)
  rw [he, framed]
  refine ((((OnlyEscapes.of_not_mem hfront).append (hin _ ?_)).append
    (.of_not_mem hbetween)).append (hbehind _ ?_)).append (.of_not_mem hback)
  · cases o.kind.showsNotes
    · simp
    · exact hbefore
  · cases o.kind.showsNotes
    · simp
    · exact hafter

end Frame

/-! ## 3. What a command shows -/

/-- The notes of an entry, as they are written. -/
def Entry.writtenNotes (e : Entry) : List (List Char) :=
  e.firstNote.toList ++ e.secondNote.toList

/-- The notes of a command, as they are written. -/
def Command.writtenNotes (c : Command) : List (List Char) := c.entries.flatMap Entry.writtenNotes

/-- The notes hold no braces, and escaped special characters. -/
def Command.NotesEscaped (c : Command) : Prop :=
  ∀ note ∈ c.writtenNotes, '\x7b' ∉ note ∧ EscapedOnce note ∧ OnlyEscapes note

/-- No note that is shown holds a special character. -/
def Command.ShowsNoSpecial (c : Command) : Prop :=
  c.kind.showsNotes = true → ∀ note ∈ c.writtenNotes, ∀ x ∈ note, needsEscape x = false

/-- An entry with the plain notes in place of those that are written. -/
def Entry.bare (e : Entry) : Entry where
  firstNote := e.firstNote.map withoutEscapes
  secondNote := e.secondNote.map withoutEscapes
  key := e.key

/-- A command with the plain notes in place of those that are written. -/
def Command.bare (c : Command) : Command := { c with entries := c.entries.map Entry.bare }

theorem Entry.mem_writtenNotes {e : Entry} {note : List Char} :
    note ∈ e.writtenNotes ↔ e.noteBefore? = some note ∨ e.noteAfter? = some note := by
  obtain ⟨_ | first, _ | second, key⟩ := e
  all_goals simp [Entry.writtenNotes, Entry.noteBefore?, Entry.noteAfter?, eq_comm]

/-- What an entry cites has what is kept of its notes. -/
theorem Entry.notes_occurrence {e : Entry} (h : ∀ note ∈ e.writtenNotes, '\x7b' ∉ note)
    (kind : CitationKind) (position : Position) :
    (e.occurrence kind position).before = e.noteBefore?.bind keptNote ∧
      (e.occurrence kind position).after = e.noteAfter?.bind keptNote := by
  rw [Entry.occurrence, e.notes_eq]
  constructor
  · cases hnote : e.noteBefore? with
    | none => rfl
    | some note => exact cleanNote?_of_not_mem (h note (mem_writtenNotes.2 (Or.inl hnote)))
  · cases hnote : e.noteAfter? with
    | none => rfl
    | some note => exact cleanNote?_of_not_mem (h note (mem_writtenNotes.2 (Or.inr hnote)))

/-- What is kept of a note has the backslashes of the note. -/
theorem backslash_mem_bind_keptNote_iff {note? : Option (List Char)} :
    (∃ kept ∈ note?.bind keptNote, '\\' ∈ kept.toList) ↔ ∃ note ∈ note?, '\\' ∈ note := by
  cases note? with
  | none => simp
  | some note => simpa using mem_keptNote_iff (by decide : isBlank '\\' = false)

/-- What an entry cites has the backslashes of its notes. -/
theorem Entry.backslash_mem_notes_iff {e : Entry} (h : ∀ note ∈ e.writtenNotes, '\x7b' ∉ note)
    (kind : CitationKind) (position : Position) :
    ((∃ note ∈ (e.occurrence kind position).before, '\\' ∈ note.toList) ∨
        ∃ note ∈ (e.occurrence kind position).after, '\\' ∈ note.toList) ↔
      ∃ note ∈ e.writtenNotes, '\\' ∈ note := by
  obtain ⟨hbefore, hafter⟩ := e.notes_occurrence h kind position
  rw [hbefore, hafter, backslash_mem_bind_keptNote_iff, backslash_mem_bind_keptNote_iff,
    ← exists_or]
  refine exists_congr fun note => ?_
  rw [← or_and_right, mem_writtenNotes]
  rfl

section Shown

variable {c : Command} {label : String → String}

/-- The text that stands for a command, with the labels of its keys. -/
def inlineText (label : String → String) (c : Command) : List Char :=
  replacement (fun o => Label.inline o (label o.key)) c

/-- What a command cites it cites by an entry. -/
theorem exists_entry_of_occurrence {o : Occurrence} (h : o ∈ c.occurrences) :
    ∃ e ∈ c.entries, ∃ position, o = e.occurrence c.kind position := by
  obtain ⟨i, hi, rfl⟩ := List.mem_mapIdx.1 h
  exact ⟨_, List.getElem_mem hi, _, rfl⟩

/-- An entry of a command is cited. -/
theorem exists_occurrence_of_entry {e : Entry} (h : e ∈ c.entries) :
    ∃ position, e.occurrence c.kind position ∈ c.occurrences := by
  obtain ⟨i, hi, rfl⟩ := List.getElem_of_mem h
  exact ⟨_, List.mem_mapIdx.2 ⟨i, hi, rfl⟩⟩

theorem mem_inlineText {x : Char} : x ∈ inlineText label c ↔
    ∃ o ∈ c.occurrences, x ∈ (Label.inline o (label o.key)).toList := by
  rw [inlineText, replacement_eq, List.mem_flatMap]

/-- **The backslashes in the text of a command are those of the notes it shows.** -/
theorem backslash_mem_inlineText_iff (hbrace : ∀ note ∈ c.writtenNotes, '\x7b' ∉ note)
    (hlabel : ∀ o ∈ c.occurrences, '\\' ∉ (label o.key).toList) :
    '\\' ∈ inlineText label c ↔
      c.kind.showsNotes = true ∧ ∃ note ∈ c.writtenNotes, '\\' ∈ note := by
  have hentry : ∀ e ∈ c.entries, ∀ note ∈ e.writtenNotes, '\x7b' ∉ note := fun e he note hnote =>
    hbrace note (List.mem_flatMap.2 ⟨e, he, hnote⟩)
  rw [mem_inlineText]
  constructor
  · rintro ⟨o, ho, hmem⟩
    have hno := hlabel o ho
    obtain ⟨e, he, position, rfl⟩ := exists_entry_of_occurrence ho
    obtain ⟨hshows, hnotes⟩ := (backslash_mem_inline_iff hno).1 hmem
    obtain ⟨note, hnote, hslash⟩ := (e.backslash_mem_notes_iff (hentry e he) _ _).1 hnotes
    exact ⟨hshows, note, List.mem_flatMap.2 ⟨e, he, hnote⟩, hslash⟩
  · rintro ⟨hshows, note, hnote, hslash⟩
    obtain ⟨e, he, hnote⟩ := List.mem_flatMap.1 hnote
    obtain ⟨position, ho⟩ := exists_occurrence_of_entry he
    exact ⟨_, ho, (backslash_mem_inline_iff (hlabel _ ho)).2
      ⟨hshows, (e.backslash_mem_notes_iff (hentry e he) _ _).2 ⟨note, hnote, hslash⟩⟩⟩

theorem onlyEscapes_inlineText (h : c.NotesEscaped)
    (hlabel : ∀ o ∈ c.occurrences, '\\' ∉ (label o.key).toList) :
    OnlyEscapes (inlineText label c) := by
  rw [inlineText, replacement_eq]
  refine .flatMap fun o ho => ?_
  have hno := hlabel o ho
  obtain ⟨e, he, position, rfl⟩ := exists_entry_of_occurrence ho
  have hnotes : ∀ note ∈ e.writtenNotes, '\x7b' ∉ note ∧ OnlyEscapes note := fun note hnote =>
    have hescaped := h note (List.mem_flatMap.2 ⟨e, he, hnote⟩)
    ⟨hescaped.1, hescaped.2.2⟩
  obtain ⟨hbefore, hafter⟩ :=
    e.notes_occurrence (fun note hnote => (hnotes note hnote).1) c.kind position
  refine onlyEscapes_inline hno ?_ ?_
  · rw [hbefore]
    exact .of_mem_bind fun note hnote => (hnotes note (Entry.mem_writtenNotes.2 (Or.inl hnote))).2
  · rw [hafter]
    exact .of_mem_bind fun note hnote => (hnotes note (Entry.mem_writtenNotes.2 (Or.inr hnote))).2

/-- The notes of a command without escapes. -/
theorem Command.writtenNotes_bare (c : Command) :
    c.bare.writtenNotes = c.writtenNotes.map withoutEscapes := by
  rw [writtenNotes, writtenNotes, bare, List.flatMap_map, List.map_flatMap]
  refine List.flatMap_congr fun e _ => ?_
  obtain ⟨_ | first, _ | second, key⟩ := e
  all_goals rfl

/-- Without escapes the same keys are cited. -/
theorem Command.map_key_bare (c : Command) :
    c.bare.occurrences.map Occurrence.key = c.occurrences.map Occurrence.key := by
  refine List.ext_getElem (by simp [occurrences, bare]) fun i hi hi' => ?_
  simp [occurrences, bare, Entry.occurrence, Entry.bare]

/-- The text with the plain notes has no backslashes. -/
theorem backslash_not_mem_inlineText_bare (h : c.NotesEscaped)
    (hlabel : ∀ o ∈ c.occurrences, '\\' ∉ (label o.key).toList) :
    '\\' ∉ inlineText label c.bare := by
  have hnotes : ∀ note ∈ c.bare.writtenNotes, '\x7b' ∉ note ∧ '\\' ∉ note := by
    intro note hnote
    rw [c.writtenNotes_bare] at hnote
    obtain ⟨written, hwritten, rfl⟩ := List.mem_map.1 hnote
    obtain ⟨hbrace, -, honly⟩ := h written hwritten
    exact ⟨fun hm => hbrace (withoutEscapes_subset _ hm), honly.not_mem_withoutEscapes⟩
  have hbare : ∀ o ∈ c.bare.occurrences, '\\' ∉ (label o.key).toList := by
    intro o ho
    have hkey := List.mem_map_of_mem (f := Occurrence.key) ho
    rw [c.map_key_bare] at hkey
    obtain ⟨o', ho', hkey⟩ := List.mem_map.1 hkey
    exact hkey ▸ hlabel o' ho'
  rw [backslash_mem_inlineText_iff (fun note hnote => (hnotes note hnote).1) hbare]
  rintro ⟨-, note, hnote, hslash⟩
  exact (hnotes note hnote).2 hslash

/-- Where no special character is shown, it is the same text with the plain notes. -/
theorem inlineText_bare (h : c.NotesEscaped) (hno : c.ShowsNoSpecial) :
    inlineText label c.bare = inlineText label c := by
  cases hshows : c.kind.showsNotes with
  | true =>
    have hsame : ∀ note ∈ c.writtenNotes, withoutEscapes note = note := by
      intro note hnote
      obtain ⟨-, honce, honly⟩ := h note hnote
      refine withoutEscapes_of_not_mem ?_
      rw [backslash_mem_iff honce honly]
      rintro ⟨x, hx, hspecial⟩
      exact Bool.noConfusion ((hno hshows note hnote x hx).symm.trans hspecial)
    have hentries : c.entries.map Entry.bare = c.entries := by
      refine (List.map_congr_left fun e he => ?_).trans (List.map_id _)
      have hin : ∀ note ∈ e.writtenNotes, withoutEscapes note = note := fun note hnote =>
        hsame note (List.mem_flatMap.2 ⟨e, he, hnote⟩)
      obtain ⟨first, second, key⟩ := e
      cases first <;> cases second <;> simp_all [Entry.bare, Entry.writtenNotes]
    rw [Command.bare, hentries]
  | false =>
    rw [inlineText, inlineText, replacement, replacement]
    congr 2
    refine List.ext_getElem (by simp [Command.occurrences, Command.bare]) fun i hi hi' => ?_
    simp only [List.getElem_map, Command.occurrences, List.getElem_mapIdx, Command.bare]
    exact inline_eq_of_not_showsNotes (by rfl) (by exact hshows) _

/-- **Escaping the text of a command escapes all its special characters once exactly when no note
    that is shown has one**, and only then it is the text with the plain notes that is escaped. -/
theorem escapedOnce_inlineText_iff (h : c.NotesEscaped)
    (hlabel : ∀ o ∈ c.occurrences, '\\' ∉ (label o.key).toList) :
    (EscapedOnce (escapeSpecials (inlineText label c)) ↔ c.ShowsNoSpecial) ∧
      (withoutEscapes (escapeSpecials (inlineText label c)) = inlineText label c.bare ↔
        c.ShowsNoSpecial) := by
  have hslash : '\\' ∉ inlineText label c ↔ c.ShowsNoSpecial := by
    rw [backslash_mem_inlineText_iff (fun note hnote => (h note hnote).1) hlabel, not_and]
    refine imp_congr_right fun _ => ?_
    rw [not_exists]
    refine forall_congr' fun note => ?_
    rw [not_and]
    refine imp_congr_right fun hnote => ?_
    rw [backslash_mem_iff (h note hnote).2.1 (h note hnote).2.2]
    simp
  refine ⟨(onlyEscapes_inlineText h hlabel).escapedOnce_iff.trans hslash, ?_⟩
  rw [withoutEscapes_escapeSpecials]
  constructor
  · intro hsame
    exact hslash.1 (hsame ▸ backslash_not_mem_inlineText_bare h hlabel)
  · exact fun hno => (inlineText_bare h hno).symm

end Shown

/-! ## 4. Cleaning -/

/-- The label that a key of markup has in its regions, when the citations of the body are labelled
    first. -/
def regionLabel (f : Formatter) (style : String) (b : Bibliography) (cs : List Char)
    (key : String) : String :=
  (Disambiguator.run []
    (callsFor f style b (citations (body cs) ++ regionOccurrences cs))).shown key

theorem regionReplacement_eq (f : Formatter) (style : String) (b : Bibliography) (cs : List Char)
    (c : Command) : regionReplacement f style b cs c =
      escapeSpecials (inlineText (regionLabel f style b cs) c) :=
  replacement_escapedText (fun o => regionLabel f style b cs o.key) c

/-- With a bibliography at hand, cleaning writes the texts of the citation commands of regions into
    the rearranged markup. -/
theorem clean_eq_shown (config : Config) (f : Formatter) {given : Option Bibliography}
    {tex : String} {found : Logged Bibliography}
    (hfound : bibliographyFor given tex.toList = .ok found) :
    ∃ run : Logged String, clean config f given tex = .ok run ∧
      run.value.toList =
        shownOf (regionReplacement f config.style found.value
            (restructure config.preclean tex.toList))
          (segmentsOf (pieces (restructure config.preclean tex.toList))) := by
  rw [← withRegionLabels_eq_shown]
  exact clean_eq_withRegionLabels config f hfound

/-- **Notes are escaped a second time.** With a bibliography at hand, cleaning succeeds, and for
    every citation command in a region, with escaped notes and with labels without backslashes,
    what is written has all special characters escaped once exactly when no note that is shown
    holds one; and only then it is, without its escapes, the text of the command with the plain
    notes. -/
theorem escapedOnce_clean_iff (config : Config) (f : Formatter) {given : Option Bibliography}
    {tex : String} {found : Logged Bibliography}
    (hfound : bibliographyFor given tex.toList = .ok found) :
    let cs := restructure config.preclean tex.toList
    let label := regionLabel f config.style found.value cs
    let written := regionReplacement f config.style found.value cs
    ∃ run : Logged String, clean config f given tex = .ok run ∧
      run.value.toList = shownOf written (segmentsOf (pieces cs)) ∧
      ∀ c, .command c ∈ segmentsOf (pieces cs) → c.NotesEscaped →
        (∀ o ∈ c.occurrences, '\\' ∉ (label o.key).toList) →
          (EscapedOnce (written c) ↔ c.ShowsNoSpecial) ∧
            (withoutEscapes (written c) = inlineText label c.bare ↔ c.ShowsNoSpecial) := by
  intro cs label written
  obtain ⟨run, hrun, hvalue⟩ := clean_eq_shown config f hfound
  refine ⟨run, hrun, hvalue, fun c _ hnotes hlabel => ?_⟩
  have hwritten : written c = escapeSpecials (inlineText label c) :=
    regionReplacement_eq f config.style found.value cs c
  rw [hwritten]
  exact escapedOnce_inlineText_iff hnotes hlabel

/-- A command with a per cent sign in its note. -/
def halfCited (name : String) (kind : CitationKind) : Command :=
  ⟨name.toList, kind, [⟨some (escapeSpecials ['5', '0', '%']), none, ['k']⟩]⟩

theorem notesEscaped_halfCited (name : String) (kind : CitationKind) :
    (halfCited name kind).NotesEscaped := by
  intro note hnote
  obtain rfl := List.mem_singleton.1 hnote
  exact ⟨by decide, escaped_escapeSpecials (by decide)⟩

/-- A formatter that gives every key the same label, with an ampersand in it. -/
def ampersandFormatter : Formatter where
  citation _ _ := .ok "(R&D, 1999)"
  bibliography _ _ _ := .ok ""

/-- A footnote with the command in it. -/
def halfFootnote (name : String) : String :=
  "\\footnote\x7b\\" ++ name ++ "[50\\%]\x7bk\x7d\x7d"

/-- Where the note is not shown, the ampersand of the label is escaped once. -/
theorem escapedOnce_clean_author :
    ∃ run : Logged String,
      bibliographyFor (some kayBibliography) (halfFootnote "citeauthor").toList =
        .ok (pure kayBibliography) ∧
      clean plainConfig ampersandFormatter (some kayBibliography) (halfFootnote "citeauthor") =
        .ok run ∧
      run.value.toList = "\\footnote\x7bR\\&D\x7d".toList ∧ EscapedOnce "R\\&D".toList := by
  have hfound : bibliographyFor (some kayBibliography) (halfFootnote "citeauthor").toList =
      .ok (pure kayBibliography) := rfl
  obtain ⟨run, hrun, hvalue, hcommands⟩ :=
    escapedOnce_clean_iff plainConfig ampersandFormatter hfound
  have honce := (hcommands (halfCited "citeauthor" .author) (by decide +kernel)
    (notesEscaped_halfCited _ _) (by decide +kernel)).1.2 fun h => Bool.noConfusion h
  have hwritten : regionReplacement ampersandFormatter plainConfig.style
      (pure kayBibliography : Logged Bibliography).value
      (restructure plainConfig.preclean (halfFootnote "citeauthor").toList)
      (halfCited "citeauthor" .author) = "R\\&D".toList := by decide +kernel
  exact ⟨run, hfound, hrun, hvalue.trans (by decide +kernel), hwritten ▸ honce⟩

/-- **The per cent sign of a note has two backslashes.** -/
theorem not_escapedOnce_clean_half :
    ¬ ∀ (config : Config) (f : Formatter) (given : Option Bibliography) (tex : String)
      (found : Logged Bibliography) (c : Command),
      bibliographyFor given tex.toList = .ok found →
      .command c ∈ segmentsOf (pieces (restructure config.preclean tex.toList)) →
      c.NotesEscaped →
      (∀ o ∈ c.occurrences, '\\' ∉ (regionLabel f config.style found.value
        (restructure config.preclean tex.toList) o.key).toList) →
        EscapedOnce (regionReplacement f config.style found.value
          (restructure config.preclean tex.toList) c) := by
  intro h
  have honce := h plainConfig ampersandFormatter (some kayBibliography) (halfFootnote "parencite")
    (pure kayBibliography) (halfCited "parencite" .paren) rfl (by decide +kernel)
    (notesEscaped_halfCited _ _) (by decide +kernel)
  have hwritten : regionReplacement ampersandFormatter plainConfig.style
      (pure kayBibliography : Logged Bibliography).value
      (restructure plainConfig.preclean (halfFootnote "parencite").toList)
      (halfCited "parencite" .paren) = "(R\\&D, 1999, 50\\\\%)".toList := by decide +kernel
  rw [hwritten] at honce
  have htwo := honce "(R\\&D, 1999, 50\\\\".toList '%' [')'] (by decide) (by decide)
  exact absurd htwo (by decide)

end Markup

end Galley
