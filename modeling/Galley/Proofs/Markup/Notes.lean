import Galley.Markup.TableCaption
import Galley.Proofs.Markup.Printed

/-!
# Notes with a formatting command

A note can hold a formatting command, of which only the argument is to be kept. What is taken for
the command begins at a backslash and goes on to the first brace in the line, so an escaped sign
before the command, in the same line, is taken into it, and all from its backslash on is lost. And
an argument that goes over a line feed is not found at all, so its command stays. Main statement:
`notes_unwrapped_iff`.
-/

namespace Galley.Markup

open Galley.Text

/-- A note with one formatting command in it. In front of the command there can be backslashes, as
    they escape a sign. -/
structure FormattedNote where
  front : List Char
  name : List Char
  argument : List Char
  behind : List Char
  front_brace : '\x7b' ∉ front := by decide
  name_plain : Plain name := by decide
  name_line : '\n' ∉ name := by decide
  argument_plain : Plain argument := by decide
  behind_plain : Plain behind := by decide

/-- What stands before the first backslash of the last line; all of the text, if there is none. -/
def beforeEscape : List Char → List Char
  | [] => []
  | c :: cs => if c = '\\' ∧ '\n' ∉ cs then [] else c :: beforeEscape cs

namespace FormattedNote

/-- The note as it is written. -/
def written (n : FormattedNote) : List Char :=
  n.front ++ '\\' :: (n.name ++ '\x7b' :: (n.argument ++ '\x7d' :: n.behind))

/-- The note with its command taken away. -/
def bare (n : FormattedNote) : List Char := n.front ++ (n.argument ++ n.behind)

/-- The note as it is read. -/
def read (n : FormattedNote) : List Char :=
  if '\n' ∈ n.argument then n.written else beforeEscape n.front ++ (n.argument ++ n.behind)

/-- The argument is in one line, and no backslash stands before the command in its line. -/
def StandsAlone (n : FormattedNote) : Prop :=
  '\n' ∉ n.argument ∧ ∀ before behind, n.front = before ++ '\\' :: behind → '\n' ∈ behind

end FormattedNote

/-! ## 1. Text before the command -/

theorem exists_beforeEscape (cs : List Char) :
    ∃ cut, cs = beforeEscape cs ++ cut ∧ (cut = [] ∨ ∃ rest, cut = '\\' :: rest ∧ '\n' ∉ rest) := by
  induction cs with
  | nil => exact ⟨[], rfl, Or.inl rfl⟩
  | cons c cs ih =>
    rw [beforeEscape]
    split
    · next h => exact ⟨c :: cs, rfl, Or.inr ⟨cs, by rw [h.1], h.2⟩⟩
    · obtain ⟨cut, he, hcut⟩ := ih
      exact ⟨cut, congrArg (c :: ·) he, hcut⟩

/-- All of a text is kept when every backslash of it has a line feed behind it. -/
theorem beforeEscape_eq_self {cs : List Char}
    (h : ∀ before behind, cs = before ++ '\\' :: behind → '\n' ∈ behind) :
    beforeEscape cs = cs := by
  obtain ⟨cut, he, rfl | ⟨rest, rfl, hrest⟩⟩ := exists_beforeEscape cs
  · rwa [List.append_nil, eq_comm] at he
  · exact absurd (h _ _ he) hrest

/-- No backslash is kept that has no line feed behind it. -/
theorem mem_of_beforeEscape_eq_self {cs : List Char} (h : beforeEscape cs = cs)
    {before behind : List Char} (he : cs = before ++ '\\' :: behind) : '\n' ∈ behind := by
  induction cs generalizing before with
  | nil => simp at he
  | cons c cs ih =>
    rw [beforeEscape] at h
    split at h
    · cases h
    · next hno =>
      cases before with
      | nil =>
        obtain ⟨hc, rfl⟩ := List.cons.inj he
        exact Classical.byContradiction fun hline => hno ⟨hc, hline⟩
      | cons d before => exact ih (List.cons.inj h).2 (List.cons.inj he).2

/-! ## 2. Taking the command away -/

/-- A backslash with a brace behind it in its line begins a command, of which the argument is
    kept. -/
theorem unwrapCommand_backslash {between argument : List Char} (hbrace : '\x7b' ∉ between)
    (hline : '\n' ∉ between) (hclose : '\x7d' ∉ argument) (hargument : '\n' ∉ argument)
    (behind : List Char) :
    unwrapCommand ('\\' :: (between ++ '\x7b' :: (argument ++ '\x7d' :: behind))) =
      some (argument, behind) := by
  rw [unwrapCommand, if_pos rfl, lineCut?_append hbrace hline, Option.bind_some,
    lineCut?_append hclose hargument]

namespace FormattedNote

variable (n : FormattedNote)

theorem opening_not_mem_name : '\x7b' ∉ n.name := n.name_plain.not_mem rfl

/-- Where the argument is in one line, the note is cut from the first backslash of the line on. -/
theorem replaceAll_written_of_line (h : '\n' ∉ n.argument) :
    replaceAll unwrapCommand n.written = beforeEscape n.front ++ (n.argument ++ n.behind) := by
  have hclose : '\x7d' ∉ n.argument := n.argument_plain.not_mem rfl
  have hbehind : replaceAll unwrapCommand n.behind = n.behind :=
    replaceAll_unwrapCommand_of_not_mem (Or.inl (n.behind_plain.not_mem rfl))
  -- a command that begins at a backslash of the line reaches up to the brace of the command
  have hcut : ∀ between, '\x7b' ∉ between → '\n' ∉ between →
      replaceAll unwrapCommand
        ('\\' :: (between ++ '\x7b' :: (n.argument ++ '\x7d' :: n.behind))) =
          n.argument ++ n.behind := by
    intro between hbrace hline
    have hunwrap := unwrapCommand_backslash hbrace hline hclose h n.behind
    rw [replaceAll_cons_some hunwrap (by simp; omega), hbehind]
  have hbraces := n.front_brace
  rw [written]
  generalize n.front = front at hbraces
  induction front with
  | nil => exact hcut n.name n.opening_not_mem_name n.name_line
  | cons c front ih =>
    obtain ⟨hc, hfront⟩ := not_or.1 (mt List.mem_cons.2 hbraces)
    rw [List.cons_append, beforeEscape]
    split
    · next hescape =>
      obtain ⟨rfl, hline⟩ := hescape
      have hall := hcut (front ++ '\\' :: n.name)
        (by simp [hfront, n.opening_not_mem_name]) (by simp [hline, n.name_line])
      simpa using hall
    · next hescape =>
      have hnone : unwrapCommand (c :: (front ++ '\\' :: (n.name ++
          '\x7b' :: (n.argument ++ '\x7d' :: n.behind)))) = none := by
        by_cases hb : c = '\\'
        · have hline : '\n' ∈ front := Classical.byContradiction fun hline => hescape ⟨hb, hline⟩
          rw [unwrapCommand, if_pos hb, lineCut?_eq_none hfront hline]
          rfl
        · exact unwrapCommand_of_ne hb _
      rw [replaceAll_cons_none hnone, ih hfront]
      rfl

theorem opening_not_mem_bare : '\x7b' ∉ n.bare := by
  rw [bare, List.mem_append, List.mem_append, not_or, not_or]
  exact ⟨n.front_brace, n.argument_plain.not_mem rfl, n.behind_plain.not_mem rfl⟩

/-- There is only one opening brace, and behind it the argument. -/
theorem eq_of_written {before behind : List Char} (h : n.written = before ++ '\x7b' :: behind) :
    behind = n.argument ++ '\x7d' :: n.behind := by
  have hsplit : (n.front ++ '\\' :: n.name) ++ '\x7b' :: (n.argument ++ '\x7d' :: n.behind) =
      before ++ '\x7b' :: behind := by
    rw [← h, written]
    simp
  have hbefore : '\x7b' ∉ n.front ++ '\\' :: n.name := by
    simp [n.front_brace, n.opening_not_mem_name]
  have hbehind : '\x7b' ∉ n.argument ++ '\x7d' :: n.behind := by
    simp [n.argument_plain.not_mem (c := '\x7b') rfl, n.behind_plain.not_mem (c := '\x7b') rfl]
  obtain ⟨between, -, hrest⟩ := exists_append_of_not_mem hbefore hsplit
  cases between with
  | nil => exact ((List.cons.inj hrest).2).symm
  | cons x between => exact absurd (by rw [(List.cons.inj hrest).2]; simp) hbehind

/-- Where the argument goes over a line feed, the note stays as it is. -/
theorem replaceAll_written_of_lines (h : '\n' ∈ n.argument) :
    replaceAll unwrapCommand n.written = n.written := by
  refine replaceAll_eq_self fun t ht => ?_
  cases t with
  | nil => rfl
  | cons c t =>
    by_cases hc : c = '\\'
    · rw [unwrapCommand, if_pos hc]
      cases hcut : lineCut? '\x7b' t with
      | none => rfl
      | some p =>
        have hbehind : p.2 = n.argument ++ '\x7d' :: n.behind := by
          obtain ⟨before, he⟩ := ht
          have hsplit : before ++ c :: (p.1 ++ '\x7b' :: p.2) =
              (before ++ c :: p.1) ++ '\x7b' :: p.2 := by simp
          rw [lineCut?_eq_some (a := p.1) (b := p.2) hcut, hsplit] at he
          exact n.eq_of_written he.symm
        rw [Option.bind_some, hbehind,
          lineCut?_eq_none (n.argument_plain.not_mem rfl) h]
    · exact unwrapCommand_of_ne hc t

/-- **What becomes of the note** when formatting commands are taken away. -/
theorem replaceAll_written : replaceAll unwrapCommand n.written = n.read := by
  rw [read]
  split
  · next h => exact n.replaceAll_written_of_lines h
  · next h => exact n.replaceAll_written_of_line h

end FormattedNote

/-! ## 3. What is kept -/

/-- What is kept of a text as a note: all of it but the blanks at its ends, and nothing where only
    blanks are. -/
def keptNote (cs : List Char) : Option String :=
  if (trimChars cs).isEmpty then none else some (String.ofList (trimChars cs))

theorem keptNote_eq_iff {cs ds : List Char} :
    keptNote cs = keptNote ds ↔ trimChars cs = trimChars ds := by
  constructor
  · intro h
    unfold keptNote at h
    split at h
    · next hc =>
      split at h
      · next hd => rw [List.isEmpty_iff.1 hc, List.isEmpty_iff.1 hd]
      · cases h
    · split at h
      · cases h
      · exact String.ofList_injective (Option.some.inj h)
  · intro h
    rw [keptNote, keptNote, h]

/-- Texts of which the same is kept have the same backslashes and braces. -/
theorem count_eq_of_keptNote_eq {cs ds : List Char} (h : keptNote cs = keptNote ds) {x : Char}
    (hx : isBlank x = false) : cs.count x = ds.count x := by
  rw [← count_trimChars hx, keptNote_eq_iff.1 h, count_trimChars hx]

/-- **What is kept of a note is right exactly when its command stands alone.** -/
theorem FormattedNote.keptNote_read_iff (n : FormattedNote) :
    keptNote n.read = keptNote n.bare ↔ n.StandsAlone := by
  constructor
  · intro h
    have hbraces := count_eq_of_keptNote_eq h (x := '\x7b') (by decide)
    have hslashes := count_eq_of_keptNote_eq h (x := '\\') (by decide)
    rw [read] at hbraces hslashes
    by_cases hline : '\n' ∈ n.argument
    · -- the brace of the command is left
      rw [if_pos hline, List.count_eq_zero.2 n.opening_not_mem_bare, List.count_eq_zero] at hbraces
      exact absurd (by simp [written]) hbraces
    · have hcount : (beforeEscape n.front).count '\\' = n.front.count '\\' := by
        rw [if_neg hline, bare] at hslashes
        simp only [List.count_append] at hslashes
        omega
      obtain ⟨cut, he, hcut⟩ := exists_beforeEscape n.front
      rcases hcut with rfl | ⟨rest, rfl, -⟩
      · rw [List.append_nil] at he
        exact ⟨hline, fun before behind hfront => mem_of_beforeEscape_eq_self he.symm hfront⟩
      · -- a backslash of the text in front is lost
        rw [he, List.count_append, List.count_cons_self, ← he] at hcount
        omega
  · rintro ⟨hline, hfront⟩
    rw [read, if_neg hline, beforeEscape_eq_self hfront, bare]

/-! ## 4. The notes of an entry -/

/-- The note that stands in front of the label, as it is written. -/
def Entry.noteBefore? (e : Entry) : Option (List Char) :=
  match e.firstNote, e.secondNote with
  | some before, some _ => some before
  | _, _ => none

/-- The note that stands behind the label, as it is written. -/
def Entry.noteAfter? (e : Entry) : Option (List Char) :=
  match e.firstNote, e.secondNote with
  | some _, some after => some after
  | some after, none => some after
  | none, after => after

theorem Entry.notes_eq (e : Entry) :
    e.notes = (e.noteBefore?.bind cleanNote?, e.noteAfter?.bind cleanNote?) := by
  obtain ⟨_ | first, _ | second, key⟩ := e
  all_goals rfl

theorem cleanNote?_written (n : FormattedNote) : cleanNote? n.written = keptNote n.read := by
  rw [cleanNote?, n.replaceAll_written]
  rfl

/-- **A note loses just its formatting command when that stands alone.** -/
theorem notes_unwrapped_iff {cs : List Char} {c : Command} (hc : .command c ∈ segments cs)
    {i : Nat} {e : Entry} (he : c.entries[i]? = some e) (n : FormattedNote) :
    ∃ o ∈ citations cs, c.occurrences[i]? = some o ∧
      (e.noteBefore? = some n.written →
        o.before = keptNote n.read ∧ (o.before = keptNote n.bare ↔ n.StandsAlone)) ∧
      (e.noteAfter? = some n.written →
        o.after = keptNote n.read ∧ (o.after = keptNote n.bare ↔ n.StandsAlone)) := by
  have hplace : c.occurrences[i]? =
      some (e.occurrence c.kind (Position.inGroup i c.entries.length)) := by
    rw [Command.occurrences, List.getElem?_mapIdx, he]
    rfl
  refine ⟨_, ?_, hplace, ?_, ?_⟩
  · exact List.mem_flatMap.2 ⟨.command c, hc, List.mem_of_getElem? hplace⟩
  · intro hnote
    have hbefore : (e.occurrence c.kind (Position.inGroup i c.entries.length)).before =
        keptNote n.read := by
      rw [Entry.occurrence, e.notes_eq, hnote, Option.bind_some, cleanNote?_written]
    rw [hbefore]
    exact ⟨rfl, n.keptNote_read_iff⟩
  · intro hnote
    have hafter : (e.occurrence c.kind (Position.inGroup i c.entries.length)).after =
        keptNote n.read := by
      rw [Entry.occurrence, e.notes_eq, hnote, Option.bind_some, cleanNote?_written]
    rw [hafter]
    exact ⟨rfl, n.keptNote_read_iff⟩

/-- A note with an escaped sign in the line before its command. -/
def percentNote : FormattedNote where
  front := ['5', '0', '\\', '%', '\n']
  name := ['e', 'm', 'p', 'h']
  argument := ['c', 'f', '.']
  behind := [' ', 'b']

/-- A command with the note in front. -/
def percentCommand : Command where
  name := "parencite".toList
  kind := .paren
  entries := [⟨some percentNote.written, some [], ['k']⟩]

/-- The escaped sign is kept, since it is in another line. -/
theorem notes_unwrapped_percentNote :
    .command percentCommand ∈ segments (percentCommand.source ++ "[d]".toList) ∧
      ∃ o ∈ citations (percentCommand.source ++ "[d]".toList),
        percentCommand.occurrences[0]? = some o ∧ o.before = some "50\\%\ncf. b" := by
  have hc : .command percentCommand ∈ segments (percentCommand.source ++ "[d]".toList) := by
    decide +kernel
  have halone : percentNote.StandsAlone :=
    ⟨by decide, fun _ _ => mem_of_beforeEscape_eq_self (by decide)⟩
  have he : percentCommand.entries[0]? = some ⟨some percentNote.written, some [], ['k']⟩ := rfl
  obtain ⟨o, ho, hplace, hbefore, -⟩ := notes_unwrapped_iff hc he percentNote
  have hkept : keptNote percentNote.bare = some "50\\%\ncf. b" := by decide +kernel
  exact ⟨hc, o, ho, hplace, ((hbefore rfl).2.2 halone).trans hkept⟩

/-- Every backslash escapes a special character. -/
def escapesSigns : List Char → Bool
  | [] => true
  | c :: cs => (c != '\\' || cs.head?.any isSpecial) && escapesSigns cs

/-- A note in one line: the same signs, with a blank in place of the line feed. -/
def percentLine : FormattedNote where
  front := ['5', '0', '\\', '%', ' ']
  name := ['e', 'm', 'p', 'h']
  argument := ['x']
  behind := []

/-- **An escaped sign before the command, in its line, is lost.** -/
theorem not_notes_unwrapped_percentLine :
    ¬ ∀ (cs : List Char) (c : Command) (i : Nat) (e : Entry) (o : Occurrence) (n : FormattedNote),
      .command c ∈ segments cs → c.entries[i]? = some e → c.occurrences[i]? = some o →
      escapesSigns n.front = true → n.name ≠ [] → n.name.all Char.isAlpha = true →
        ']' ∉ n.written → e.noteAfter? = some n.written → o.after = keptNote n.bare := by
  intro h
  have hread := h "\\parencite[50\\% \\emph\x7bx\x7d]\x7bk\x7d".toList
    ⟨"parencite".toList, .paren, [⟨some percentLine.written, none, ['k']⟩]⟩ 0 _ _ percentLine
    (by decide +kernel) rfl rfl (by decide) (by decide) (by decide) (by decide) rfl
  exact absurd hread (by decide +kernel)

end Galley.Markup
