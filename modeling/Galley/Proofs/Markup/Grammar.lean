import Galley.Markup.CitationCommand

/-!
# The grammar of citation commands

A *proper* command is a backslash, one of six names and at least one proper entry; a proper entry
has a key without closing brace, and notes without closing bracket. What the reader of commands
finds is proper, and where a proper command is written it finds one at least as long, so it reads
the longest. Main statements: `proper_readCommand?` and `readCommand?_source`.
-/

namespace Galley.Markup

open Galley.Text

/-! ## 1. Entries -/

/-- An entry that can be told from its text: no note holds a closing bracket, the key holds no
    closing brace, and a note that stands alone is the first. -/
structure Entry.Proper (e : Entry) : Prop where
  first : ∀ note, e.firstNote = some note → ']' ∉ note
  second : ∀ note, e.secondNote = some note → ']' ∉ note
  alone : e.firstNote = none → e.secondNote = none
  key : '\x7d' ∉ e.key

theorem readNote_eq_some_iff {cs note rest : List Char} :
    readNote cs = (some note, rest) ↔ cs = '[' :: (note ++ ']' :: rest) ∧ ']' ∉ note := by
  rw [← between?_eq_some_iff]
  unfold readNote
  cases between? '[' ']' cs with
  | none => simp
  | some p => simp [Prod.ext_iff]

theorem readNote_eq_none_iff {cs rest : List Char} :
    readNote cs = (none, rest) ↔ between? '[' ']' cs = none ∧ cs = rest := by
  unfold readNote
  cases between? '[' ']' cs with
  | none => simp
  | some p => simp

/-- Where a note is written, it is read. -/
theorem readNote_some {note : List Char} (h : ']' ∉ note) (rest : List Char) :
    readNote (noteSource (some note) ++ rest) = (some note, rest) :=
  readNote_eq_some_iff.2 ⟨by simp [noteSource], h⟩

/-- Before a brace there is no note to read. -/
theorem readNote_brace (cs : List Char) : readNote ('\x7b' :: cs) = (none, '\x7b' :: cs) :=
  readNote_eq_none_iff.2 ⟨rfl, rfl⟩

/-- **What is read as an entry is proper.** -/
theorem proper_readEntry? {cs rest : List Char} {e : Entry}
    (h : readEntry? cs = some (e, rest)) : e.Proper := by
  obtain ⟨p, hp, he⟩ := Option.map_eq_some_iff.1 h
  cases he
  have hkey := (between?_eq_some_iff (a := p.1) (b := p.2)).1 hp
  constructor
  case first => exact fun note hn => (readNote_eq_some_iff.1 (Prod.ext hn rfl)).2
  case second => exact fun note hn => (readNote_eq_some_iff.1 (Prod.ext hn rfl)).2
  case alone =>
    -- where no note was read nothing was read, and a second try finds none either
    intro hn
    have hnone := readNote_eq_none_iff.1 (Prod.ext hn rfl : readNote cs = (none, (readNote cs).2))
    show (readNote (readNote cs).2).1 = none
    rw [← hnone.2]
    exact hn
  case key => exact hkey.2

/-- **Where a proper entry is written, it is read.** -/
theorem readEntry?_source {e : Entry} (h : e.Proper) (rest : List Char) :
    readEntry? (e.source ++ rest) = some (e, rest) := by
  obtain ⟨first, second, key⟩ := e
  have hkey : between? '\x7b' '\x7d' ('\x7b' :: (key ++ '\x7d' :: rest)) = some (key, rest) :=
    between?_eq_some_iff.2 ⟨rfl, h.key⟩
  have hsource : (Entry.mk first second key).source ++ rest =
      noteSource first ++ (noteSource second ++ '\x7b' :: (key ++ '\x7d' :: rest)) := by
    simp [Entry.source]
  have hsecond : readNote (noteSource second ++ '\x7b' :: (key ++ '\x7d' :: rest)) =
      (second, '\x7b' :: (key ++ '\x7d' :: rest)) := by
    cases second with
    | none => exact readNote_brace _
    | some note => exact readNote_some (h.second note rfl) _
  have hfirst : readNote (noteSource first ++ (noteSource second ++
      '\x7b' :: (key ++ '\x7d' :: rest))) =
        (first, noteSource second ++ '\x7b' :: (key ++ '\x7d' :: rest)) := by
    cases first with
    | none =>
      have hno : second = none := h.alone rfl
      rw [hno]
      exact readNote_brace _
    | some note => exact readNote_some (h.first note rfl) _
  rw [hsource, readEntry?]
  simp only [hfirst, hsecond, hkey, Option.map_some]

/-! ## 2. Many entries -/

theorem proper_readEntries (cs : List Char) : ∀ e ∈ (readEntries cs).1, e.Proper := by
  induction cs using readEntries.induct with
  | case1 cs e rest h ih =>
    rw [readEntries_some h]
    intro e' he'
    rcases List.mem_cons.1 he' with rfl | he'
    · exact proper_readEntry? h
    · exact ih e' he'
  | case2 cs h => simp [readEntries_none h]

/-- Entries that are written are read, and then those that follow. -/
theorem readEntries_source_append {es : List Entry} (h : ∀ e ∈ es, e.Proper) (rest : List Char) :
    readEntries (es.flatMap Entry.source ++ rest) =
      (es ++ (readEntries rest).1, (readEntries rest).2) := by
  induction es with
  | nil => rfl
  | cons e es ih =>
    have hread := readEntry?_source (h e List.mem_cons_self) (es.flatMap Entry.source ++ rest)
    rw [List.flatMap_cons, List.append_assoc, readEntries_some hread,
      ih fun e' he' => h e' (List.mem_cons_of_mem e he')]
    rfl

/-- An entry begins with a bracket or a brace. -/
theorem Entry.head?_source (e : Entry) :
    e.source.head? = some '[' ∨ e.source.head? = some '\x7b' := by
  obtain ⟨_ | first, _ | second, key⟩ := e
  all_goals simp [Entry.source, noteSource]

/-! ## 3. Commands -/

/-- The names of citation commands. -/
def commandNames : List (List Char) :=
  ["parencite", "parencites", "textcite", "textcites", "citeauthor", "citeyear"].map String.toList

theorem isSome_ofCommand?_iff (name : List Char) :
    (CitationKind.ofCommand? (String.ofList name)).isSome ↔ name ∈ commandNames := by
  unfold CitationKind.ofCommand?
  split
  all_goals simp_all [commandNames, ← String.toList_inj]

/-- A backslash, one of the six names, and proper entries. -/
structure Command.Proper (c : Command) : Prop where
  name : c.name ∈ commandNames
  kind : CitationKind.ofCommand? (String.ofList c.name) = some c.kind
  entries : ∀ e ∈ c.entries, e.Proper
  nonempty : c.entries ≠ []

theorem isAlpha_of_mem_commandNames {name : List Char} (h : name ∈ commandNames) :
    ∀ x ∈ name, x.isAlpha = true := by
  have hall : ∀ name ∈ commandNames, name.all Char.isAlpha = true := by decide
  exact List.all_eq_true.1 (hall name h)

/-- The name of a command ends where its entries begin. -/
theorem head?_entries {es : List Entry} (h : es ≠ []) (rest : List Char) :
    ∀ x ∈ (es.flatMap Entry.source ++ rest).head?, x.isAlpha = false := by
  obtain ⟨e, es, rfl⟩ := List.exists_cons_of_ne_nil h
  intro x hx
  rw [List.flatMap_cons, List.append_assoc] at hx
  rcases e.head?_source with he | he
  · obtain ⟨t, ht⟩ := List.head?_eq_some_iff.1 he
    rw [ht] at hx
    cases hx
    rfl
  · obtain ⟨t, ht⟩ := List.head?_eq_some_iff.1 he
    rw [ht] at hx
    cases hx
    rfl

/-- Where a text goes over from characters that satisfy `p` to one that does not, it is cut. -/
theorem span_append {p : Char → Bool} {a b : List Char} (ha : ∀ x ∈ a, p x = true)
    (hb : ∀ x ∈ b.head?, p x = false) : (a ++ b).takeWhile p = a ∧ (a ++ b).dropWhile p = b := by
  rw [List.takeWhile_append_of_pos ha, List.dropWhile_append_of_pos ha]
  cases b with
  | nil => simp
  | cons x b =>
    have hx : p x = false := hb x rfl
    simp [hx]

/-- **What is read as a command is proper.** -/
theorem proper_readCommand? {cs rest : List Char} {c : Command}
    (h : readCommand? cs = some (c, rest)) : c.Proper := by
  cases cs with
  | nil => simp [readCommand?] at h
  | cons b cs =>
    simp only [readCommand?] at h
    split at h
    · split at h
      · cases h
      · next kind hkind =>
        split at h
        · cases h
        · next hne =>
          cases h
          have hname := (isSome_ofCommand?_iff (cs.takeWhile Char.isAlpha)).1 (by rw [hkind]; rfl)
          exact ⟨hname, hkind, proper_readEntries _, by simpa using hne⟩
    · cases h

/-- Where a proper command is written, it is read, with all entries that follow. -/
theorem readCommand?_source {c : Command} (h : c.Proper) (rest : List Char) :
    readCommand? (c.source ++ rest) =
      some ({ c with entries := c.entries ++ (readEntries rest).1 }, (readEntries rest).2) := by
  have halpha := isAlpha_of_mem_commandNames h.name
  obtain ⟨htake, hdrop⟩ := span_append halpha (head?_entries h.nonempty rest)
  have hsource : c.source ++ rest =
      '\\' :: (c.name ++ (c.entries.flatMap Entry.source ++ rest)) := by
    simp [Command.source]
  rw [hsource]
  simp only [readCommand?, if_true, htake, hdrop, h.kind,
    readEntries_source_append h.entries rest]
  rw [if_neg (by simp [h.nonempty])]

/-- **No command is longer than the one that is read.** -/
theorem prefix_source_of_readCommand? {cs rest : List Char} {c d : Command}
    (h : readCommand? cs = some (c, rest)) (hd : d.Proper) (hpre : d.source <+: cs) :
    d.source <+: c.source := by
  obtain ⟨more, rfl⟩ := hpre
  rw [readCommand?_source hd] at h
  cases h
  exact ⟨(readEntries more).1.flatMap Entry.source, by simp [Command.source]⟩

/-- **Where no command is read, none is written.** -/
theorem readCommand?_eq_none_iff {cs : List Char} :
    readCommand? cs = none ↔ ∀ c : Command, c.Proper → ¬ c.source <+: cs := by
  constructor
  · rintro h c hc ⟨rest, rfl⟩
    rw [readCommand?_source hc] at h
    cases h
  · intro h
    cases hr : readCommand? cs with
    | none => rfl
    | some p =>
      exact absurd ⟨p.2, (readCommand?_eq_some hr).symm⟩ (h p.1 (proper_readCommand? hr))

/-! ## 4. Notes -/

theorem unwrapCommand_of_ne {c : Char} (h : c ≠ '\\') (cs : List Char) :
    unwrapCommand (c :: cs) = none := if_neg h

/-- A note without backslashes, or without opening braces, has no formatting command. -/
theorem replaceAll_unwrapCommand_of_not_mem {note : List Char}
    (h : '\\' ∉ note ∨ '\x7b' ∉ note) : replaceAll unwrapCommand note = note := by
  refine replaceAll_eq_self fun t ht => ?_
  cases t with
  | nil => rfl
  | cons c t =>
    by_cases hc : c = '\\'
    · subst hc
      have hbrace : '\x7b' ∉ note := h.resolve_left fun hno => hno (ht.subset List.mem_cons_self)
      rw [unwrapCommand, if_pos rfl]
      cases hcut : lineCut? '\x7b' t with
      | none => rfl
      | some p =>
        have hmem : '\x7b' ∈ t := by
          rw [lineCut?_eq_some (a := p.1) (b := p.2) hcut]
          simp
        exact absurd (ht.subset (List.mem_cons_of_mem _ hmem)) hbrace
    · exact unwrapCommand_of_ne hc t

end Galley.Markup
