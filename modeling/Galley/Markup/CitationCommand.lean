import Galley.Citation.Basic
import Galley.Text.Blank
import Galley.Text.Scan

/-!
# Citation commands

A citation command is a backslash, a name and one entry or more. An entry is a key in braces with
up to two notes in brackets before it: of two notes the first stands in front of the label and the
second behind it, and a single note stands behind it. Markup is a sequence of segments, which are
citation commands and single characters. Main statement: `source_segments` says that nothing of
the markup is lost.
-/

namespace Galley.Markup

open Galley.Text

/-! ## 1. Entries -/

/-- One entry of a citation command, as it is written. -/
structure Entry where
  firstNote : Option (List Char)
  secondNote : Option (List Char)
  key : List Char
  deriving DecidableEq, Repr, Inhabited

/-- A note as it is written. -/
def noteSource : Option (List Char) → List Char
  | some note => '[' :: note ++ [']']
  | none => []

/-- The text of an entry. -/
def Entry.source (e : Entry) : List Char :=
  noteSource e.firstNote ++ noteSource e.secondNote ++ '\x7b' :: e.key ++ ['\x7d']

/-- A note, if one comes next, and what follows. -/
def readNote (cs : List Char) : Option (List Char) × List Char :=
  match between? '[' ']' cs with
  | some (note, rest) => (some note, rest)
  | none => (none, cs)

/-- The entry that comes next, and what follows. -/
def readEntry? (cs : List Char) : Option (Entry × List Char) :=
  let first := readNote cs
  let second := readNote first.2
  (between? '\x7b' '\x7d' second.2).map fun p => (⟨first.1, second.1, p.1⟩, p.2)

theorem readNote_source (cs : List Char) :
    noteSource (readNote cs).1 ++ (readNote cs).2 = cs := by
  unfold readNote
  split
  · next note rest h => simp [noteSource, between?_eq_some h]
  · rfl

theorem readEntry?_eq_some {cs rest : List Char} {e : Entry}
    (h : readEntry? cs = some (e, rest)) : cs = e.source ++ rest := by
  obtain ⟨p, hp, he⟩ := Option.map_eq_some_iff.1 h
  cases he
  have hb := between?_eq_some (a := p.1) (b := p.2) hp
  have h1 := readNote_source cs
  have h2 := readNote_source (readNote cs).2
  rw [hb] at h2
  rw [← h2] at h1
  simpa [Entry.source] using h1.symm

theorem readEntry?_length {cs rest : List Char} {e : Entry}
    (h : readEntry? cs = some (e, rest)) : rest.length < cs.length := by
  rw [readEntry?_eq_some h]
  simp [Entry.source]
  omega

/-- All entries that come next, and what follows. -/
def readEntries (cs : List Char) : List Entry × List Char :=
  match _h : readEntry? cs with
  | some (e, rest) =>
    let more := readEntries rest
    (e :: more.1, more.2)
  | none => ([], cs)
termination_by cs.length
decreasing_by exact readEntry?_length _h

theorem readEntries_some {cs rest : List Char} {e : Entry} (h : readEntry? cs = some (e, rest)) :
    readEntries cs = (e :: (readEntries rest).1, (readEntries rest).2) := by
  rw [readEntries]
  split
  · next h' => rw [h] at h'; cases h'; rfl
  · next h' => rw [h] at h'; cases h'

theorem readEntries_none {cs : List Char} (h : readEntry? cs = none) :
    readEntries cs = ([], cs) := by
  rw [readEntries]
  split
  · next h' => rw [h] at h'; cases h'
  · rfl

theorem readEntries_source (cs : List Char) :
    (readEntries cs).1.flatMap Entry.source ++ (readEntries cs).2 = cs := by
  induction h : cs.length using Nat.strongRecOn generalizing cs with
  | _ n ih =>
    cases he : readEntry? cs with
    | none => simp [readEntries_none he]
    | some p =>
      obtain ⟨e, rest⟩ := p
      have hr := ih _ (by rw [← h]; exact readEntry?_length he) rest rfl
      rw [readEntries_some he]
      simp only [List.flatMap_cons, List.append_assoc]
      rw [hr, ← readEntry?_eq_some he]

/-! ## 2. Commands -/

/-- A citation command, as it is written. -/
structure Command where
  name : List Char
  kind : CitationKind
  entries : List Entry
  deriving DecidableEq, Repr, Inhabited

/-- The text of a command. -/
def Command.source (c : Command) : List Char :=
  '\\' :: c.name ++ c.entries.flatMap Entry.source

/-- The citation command that comes next, and what follows. Its name runs as far as there are
    letters. -/
def readCommand? : List Char → Option (Command × List Char)
  | [] => none
  | c :: cs =>
    if c = '\\' then
      let name := cs.takeWhile Char.isAlpha
      match CitationKind.ofCommand? (String.ofList name) with
      | none => none
      | some kind =>
        let found := readEntries (cs.dropWhile Char.isAlpha)
        if found.1.isEmpty then none else some (⟨name, kind, found.1⟩, found.2)
    else none

theorem readCommand?_eq_some {cs rest : List Char} {c : Command}
    (h : readCommand? cs = some (c, rest)) : cs = c.source ++ rest := by
  cases cs with
  | nil => simp [readCommand?] at h
  | cons b cs =>
    simp only [readCommand?] at h
    split at h
    · next hb =>
      split at h
      · cases h
      · split at h
        · cases h
        · cases h
          simp only [Command.source, List.cons_append, List.append_assoc, readEntries_source]
          rw [List.takeWhile_append_dropWhile, hb]
    · cases h

theorem readCommand?_length {cs rest : List Char} {c : Command}
    (h : readCommand? cs = some (c, rest)) : rest.length < cs.length := by
  rw [readCommand?_eq_some h]
  simp [Command.source]
  omega

/-! ## 3. Occurrences -/

/-- In place of a formatting command with an argument, its argument: what stands between the
    first brace behind a backslash and the first closing brace behind that, in one line. -/
def unwrapCommand : Rule
  | [] => none
  | c :: cs =>
    if c = '\\' then (lineCut? '\x7b' cs).bind fun p => lineCut? '\x7d' p.2 else none

/-- A note without its formatting commands; none when nothing is left of it. -/
def cleanNote? (note : List Char) : Option String :=
  let cleaned := trimChars (replaceAll unwrapCommand note)
  if cleaned.isEmpty then none else some (String.ofList cleaned)

/-- The notes in front of the label and behind it. -/
def Entry.notes (e : Entry) : Option String × Option String :=
  match e.firstNote, e.secondNote with
  | some before, some after => (cleanNote? before, cleanNote? after)
  | some after, none => (none, cleanNote? after)
  | none, some after => (none, cleanNote? after)
  | none, none => (none, none)

/-- What an entry of the given kind cites at the given place. -/
def Entry.occurrence (e : Entry) (kind : CitationKind) (position : Position) : Occurrence :=
  ⟨String.ofList (trimChars e.key), kind, position, e.notes.1, e.notes.2⟩

/-- What a command cites, in order. -/
def Command.occurrences (c : Command) : List Occurrence :=
  c.entries.mapIdx fun i e => e.occurrence c.kind (Position.inGroup i c.entries.length)

/-! ## 4. Segments -/

/-- A piece of markup. -/
inductive Segment where
  | char (c : Char)
  | command (c : Command)
  deriving DecidableEq, Repr, Inhabited

/-- The text of a segment. -/
def Segment.source : Segment → List Char
  | .char c => [c]
  | .command c => c.source

/-- The segments of a text. -/
def segments : List Char → List Segment
  | [] => []
  | c :: cs =>
    match _h : readCommand? (c :: cs) with
    | some (command, rest) => .command command :: segments rest
    | none => .char c :: segments cs
termination_by cs => cs.length
decreasing_by
  · exact readCommand?_length _h
  · simp

theorem segments_nil : segments [] = [] := by rw [segments]

theorem segments_cons_some {c : Char} {cs rest : List Char} {command : Command}
    (h : readCommand? (c :: cs) = some (command, rest)) :
    segments (c :: cs) = .command command :: segments rest := by
  rw [segments]
  split
  · next h' => rw [h] at h'; cases h'; rfl
  · next h' => rw [h] at h'; cases h'

theorem segments_cons_none {c : Char} {cs : List Char} (h : readCommand? (c :: cs) = none) :
    segments (c :: cs) = .char c :: segments cs := by
  rw [segments]
  split
  · next h' => rw [h] at h'; cases h'
  · rfl

/-- The segments of a text, one after the other, are the text. -/
theorem source_segments (cs : List Char) : (segments cs).flatMap Segment.source = cs := by
  induction h : cs.length using Nat.strongRecOn generalizing cs with
  | _ n ih =>
    cases cs with
    | nil => simp [segments_nil]
    | cons c cs =>
      cases hc : readCommand? (c :: cs) with
      | none =>
        have hr := ih cs.length (by rw [← h]; simp) cs rfl
        rw [segments_cons_none hc, List.flatMap_cons, hr]
        rfl
      | some p =>
        obtain ⟨command, rest⟩ := p
        have hr := ih _ (by rw [← h]; exact readCommand?_length hc) rest rfl
        rw [segments_cons_some hc, List.flatMap_cons, hr]
        exact (readCommand?_eq_some hc).symm

/-! ## 5. Finding and replacing -/

/-- What a segment cites. -/
def Segment.occurrences : Segment → List Occurrence
  | .char _ => []
  | .command c => c.occurrences

/-- What a text cites, in order. -/
def citations (cs : List Char) : List Occurrence :=
  (segments cs).flatMap Segment.occurrences

/-- A citation command and where it stands. -/
structure Located where
  /-- The byte at which the command begins. -/
  start : Nat
  command : Command
  deriving DecidableEq, Repr, Inhabited

/-- The byte behind a command. -/
def Located.stop (l : Located) : Nat :=
  l.start + byteLength l.command.source

/-- The commands among segments that begin at a byte. -/
def locatedFrom (offset : Nat) : List Segment → List Located
  | [] => []
  | .char c :: ss => locatedFrom (offset + c.utf8Size) ss
  | .command c :: ss => ⟨offset, c⟩ :: locatedFrom (offset + byteLength c.source) ss

/-- The citation commands of a text and where they stand. -/
def citationCommands (cs : List Char) : List Located :=
  locatedFrom 0 (segments cs)

variable {m : Type → Type} [Monad m]

/-- Segments with what `render` makes of every occurrence in place of their commands. -/
def renderSegments (render : Occurrence → m String) : List Segment → m (List Char)
  | [] => pure []
  | .char c :: ss => do
    let rest ← renderSegments render ss
    pure (c :: rest)
  | .command c :: ss => do
    let shown ← c.occurrences.mapM render
    let rest ← renderSegments render ss
    pure ((String.join shown).toList ++ rest)

/-- A text with every citation command replaced by what `render` makes of its occurrences, in
    order. -/
def replaceCitations (render : Occurrence → m String) (cs : List Char) : m (List Char) :=
  renderSegments render (segments cs)

end Galley.Markup
