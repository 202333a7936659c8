import Galley.Markup.Environment
import Galley.Markup.TableCaption
import Galley.Proofs.Text.Plain

/-!
# Table environments one by one

Markup with tables is text, and then any number of environments with text behind each of them. The
commands that begin and end a table have one backslash each, as their first character, so none of
them goes on into the next. Whatever stands in the body of one environment, its entry is read from
that body alone, and there is one entry for each environment. Main statement:
`tableCaptions_source`.
-/

namespace Galley.Markup

open Galley.Text

/-! ## 1. Commands ahead -/

/-- The name of the environment of a table. -/
def tableName (starred : Bool) : List Char :=
  if starred then "table*".toList else "table".toList

/-- A backslash and a word without backslashes. -/
def IsCommand (word : List Char) : Prop := ∃ tail, word = '\\' :: tail ∧ '\\' ∉ tail

theorem isCommand_beginCommand {name : List Char} (h : '\\' ∉ name) :
    IsCommand (beginCommand name) :=
  ⟨"begin\x7b".toList ++ name ++ ['\x7d'], rfl, by simp [h]⟩

theorem isCommand_endCommand {name : List Char} (h : '\\' ∉ name) : IsCommand (endCommand name) :=
  ⟨"end\x7b".toList ++ name ++ ['\x7d'], rfl, by simp [h]⟩

theorem backslash_not_mem_tableName (starred : Bool) : '\\' ∉ tableName starred := by
  cases starred <;> decide

theorem isCommand_beginTable (starred : Bool) : IsCommand (beginCommand (tableName starred)) :=
  isCommand_beginCommand (backslash_not_mem_tableName starred)

theorem isCommand_endTable (starred : Bool) : IsCommand (endCommand (tableName starred)) :=
  isCommand_endCommand (backslash_not_mem_tableName starred)

/-- The two commands of environments differ in the character behind their backslash. -/
theorem not_begin_of_end (name name' cs : List Char) :
    ¬ beginCommand name <+: endCommand name' ++ cs := by
  intro h
  have hletters : '\\' :: 'b' :: ("egin\x7b".toList ++ name ++ ['\x7d']) <+:
      '\\' :: 'e' :: ("nd\x7b".toList ++ name' ++ ['\x7d'] ++ cs) := h
  have hsecond := (List.cons_prefix_cons.1 (List.cons_prefix_cons.1 hletters).2).1
  exact absurd hsecond (by decide)

/-- Nothing comes next, or a backslash. -/
def AtBackslash (rest : List Char) : Prop := rest = [] ∨ ∃ more, rest = '\\' :: more

theorem IsCommand.atBackslash {word : List Char} (h : IsCommand word) (rest : List Char) :
    AtBackslash (word ++ rest) := by
  obtain ⟨tail, rfl, -⟩ := h
  exact Or.inr ⟨tail ++ rest, rfl⟩

/-- A command that begins in a text ends before the backslash behind the text. -/
theorem IsCommand.prefix_text {word text rest : List Char} (h : IsCommand word) (htext : text ≠ [])
    (hrest : AtBackslash rest) (hp : word <+: text ++ rest) : word <+: text := by
  obtain ⟨tail, rfl, htail⟩ := h
  rcases hrest with rfl | ⟨more, rfl⟩
  · rwa [List.append_nil] at hp
  · obtain ⟨behind, hp⟩ := hp
    rcases append_eq_append_cons hp with ⟨between, hword, -⟩ | ⟨between, rfl, -⟩
    · -- the backslash behind the text would be a second one in the command
      obtain ⟨x, text, rfl⟩ := List.exists_cons_of_ne_nil htext
      obtain ⟨rfl, rfl⟩ := List.cons.inj hword
      exact absurd (by simp) htail
    · exact List.prefix_append _ _

theorem startsWith_iff {word cs : List Char} : startsWith word cs = true ↔ word <+: cs := by
  rw [startsWith, Option.isSome_iff_exists]
  simp only [after?_eq_some_iff]
  exact ⟨fun ⟨rest, h⟩ => ⟨rest, h.symm⟩, fun ⟨rest, h⟩ => ⟨rest, h.symm⟩⟩

theorem tableEnds_iff {cs : List Char} :
    tableEnds cs = true ↔ ∃ starred, endCommand (tableName starred) <+: cs := by
  rw [tableEnds, Bool.or_eq_true, startsWith_iff, startsWith_iff, Bool.exists_bool]
  rfl

/-- What comes next is a begin command, and which one. -/
theorem tableBegin?_eq_some_iff {cs rest : List Char} {starred : Bool} :
    tableBegin? cs = some (starred, rest) ↔ cs = beginCommand (tableName starred) ++ rest := by
  constructor
  · intro h
    unfold tableBegin? at h
    split at h
    · next plain hplain =>
      cases h
      exact after?_eq_some_iff.1 hplain
    · obtain ⟨r, hr, he⟩ := Option.map_eq_some_iff.1 h
      cases he
      exact after?_eq_some_iff.1 hr
  · rintro rfl
    cases starred with
    | false =>
      show tableBegin? (tableBegin ++ rest) = _
      rw [tableBegin?, after?_append]
    | true => rfl

theorem tableBegin?_eq_none_iff {cs : List Char} :
    tableBegin? cs = none ↔ ∀ starred, ¬ beginCommand (tableName starred) <+: cs := by
  constructor
  · rintro h starred ⟨rest, hrest⟩
    rw [tableBegin?_eq_some_iff.2 hrest.symm] at h
    cases h
  · intro h
    cases hb : tableBegin? cs with
    | none => rfl
    | some p => exact absurd ⟨p.2, (tableBegin?_eq_some_iff.1 hb).symm⟩ (h p.1)

/-! ## 2. Text and bodies -/

/-- No table begins in a text. -/
def NoTable (text : List Char) : Prop :=
  ∀ starred, ¬ beginCommand (tableName starred) <:+: text

/-- No end command of a table stands in a text. -/
def NoTableEnd (text : List Char) : Prop :=
  ∀ starred, ¬ endCommand (tableName starred) <:+: text

instance (text : List Char) : Decidable (NoTable text) :=
  inferInstanceAs (Decidable (∀ starred, ¬ beginCommand (tableName starred) <:+: text))

instance (text : List Char) : Decidable (NoTableEnd text) :=
  inferInstanceAs (Decidable (∀ starred, ¬ endCommand (tableName starred) <:+: text))

theorem tableCaptions_cons_none {c : Char} {cs : List Char} (h : tableBegin? (c :: cs) = none) :
    tableCaptions (c :: cs) = tableCaptions cs := by
  rw [tableCaptions]
  split
  · next starred rest hsome => rw [h] at hsome; cases hsome
  · rfl

theorem tableCaptions_begin (starred : Bool) (rest : List Char) :
    tableCaptions (beginCommand (tableName starred) ++ rest) =
      ⟨firstCaption? (breakBefore tableEnds rest).1, starred⟩ ::
        tableCaptions (breakBefore tableEnds rest).2 := by
  have hsome : tableBegin? (beginCommand (tableName starred) ++ rest) = some (starred, rest) :=
    tableBegin?_eq_some_iff.2 rfl
  obtain ⟨tail, hword, -⟩ := isCommand_beginTable starred
  rw [hword, List.cons_append] at hsome ⊢
  rw [tableCaptions]
  split
  · next s r h =>
    rw [hsome] at h
    cases h
    rfl
  · next h => rw [hsome] at h; cases h

/-- Text in which no table begins has no entries. -/
theorem tableCaptions_append {text rest : List Char} (h : NoTable text) (hrest : AtBackslash rest) :
    tableCaptions (text ++ rest) = tableCaptions rest := by
  induction text with
  | nil => rfl
  | cons c text ih =>
    have hnone : tableBegin? (c :: (text ++ rest)) = none := by
      refine tableBegin?_eq_none_iff.2 fun starred hbegin => h starred ?_
      have hprefix : beginCommand (tableName starred) <+: c :: text :=
        (isCommand_beginTable starred).prefix_text (List.cons_ne_nil _ _) hrest hbegin
      exact hprefix.isInfix
    rw [List.cons_append, tableCaptions_cons_none hnone]
    exact ih fun starred hs => h starred (hs.trans (List.suffix_cons c text).isInfix)

/-- No table begins among characters that are no backslashes. -/
theorem tableCaptions_of_not_mem {word : List Char} (h : '\\' ∉ word) (cs : List Char) :
    tableCaptions (word ++ cs) = tableCaptions cs := by
  induction word with
  | nil => rfl
  | cons c word ih =>
    obtain ⟨hc, hword⟩ := not_or.1 (mt List.mem_cons.2 h)
    have hnone : tableBegin? (c :: (word ++ cs)) = none := by
      refine tableBegin?_eq_none_iff.2 fun starred hbegin => hc ?_
      obtain ⟨tail, hword, -⟩ := isCommand_beginTable starred
      rw [hword] at hbegin
      exact (List.cons_prefix_cons.1 hbegin).1
    rw [List.cons_append, tableCaptions_cons_none hnone, ih hword]

/-- An end command has no entry. -/
theorem tableCaptions_end (starred : Bool) (cs : List Char) :
    tableCaptions (endCommand (tableName starred) ++ cs) = tableCaptions cs := by
  have hnone : tableBegin? (endCommand (tableName starred) ++ cs) = none :=
    tableBegin?_eq_none_iff.2 fun s => not_begin_of_end (tableName s) (tableName starred) cs
  obtain ⟨tail, hend, htail⟩ := isCommand_endTable starred
  rw [hend, List.cons_append] at hnone ⊢
  rw [tableCaptions_cons_none hnone, tableCaptions_of_not_mem htail]

/-- The body of a table goes on to the first end command. -/
theorem breakBefore_body {body rest : List Char} (h : NoTableEnd body)
    (hrest : tableEnds rest = true) : breakBefore tableEnds (body ++ rest) = (body, rest) := by
  obtain ⟨starred, hend⟩ := tableEnds_iff.1 hrest
  have hback : AtBackslash rest := by
    obtain ⟨more, rfl⟩ := hend
    exact (isCommand_endTable starred).atBackslash more
  induction body with
  | nil =>
    rcases hback with rfl | ⟨more, rfl⟩
    · rfl
    · rw [List.nil_append, breakBefore, if_pos hrest]
  | cons c body ih =>
    have hno : ¬ tableEnds (c :: (body ++ rest)) = true := by
      intro hends
      obtain ⟨s, hs⟩ := tableEnds_iff.1 hends
      have hprefix : endCommand (tableName s) <+: c :: body :=
        (isCommand_endTable s).prefix_text (List.cons_ne_nil _ _) hback hs
      exact h s hprefix.isInfix
    have hbody : NoTableEnd body := fun s hs => h s (hs.trans (List.suffix_cons c body).isInfix)
    rw [List.cons_append, breakBefore, if_neg hno, ih hbody]

/-! ## 3. Markup with tables -/

/-- A table environment, and the text behind it up to the next one. -/
structure TableEnvironment where
  starred : Bool
  body : List Char
  /-- The end command is the starred one. -/
  endStarred : Bool
  behind : List Char
  body_noTableEnd : NoTableEnd body
  behind_noTable : NoTable behind

/-- Text in which no table begins, and the environments behind it. -/
structure TableMarkup where
  front : List Char
  environments : List TableEnvironment
  front_noTable : NoTable front

namespace TableEnvironment

/-- An environment with the text behind it, as it is written. -/
def source (e : TableEnvironment) : List Char :=
  beginCommand (tableName e.starred) ++ (e.body ++ (endCommand (tableName e.endStarred) ++ e.behind))

/-- Whether an environment is starred, and its body. -/
def inside (e : TableEnvironment) : Bool × List Char := (e.starred, e.body)

/-- The entry of an environment: its first caption, and whether it is starred. -/
def entry (e : TableEnvironment) : TableCaption :=
  ⟨(captions e.body).head?.map fun r => String.ofList r.text, e.starred⟩

/-- The entry depends on nothing else. -/
theorem entry_congr {e e' : TableEnvironment} (h : e.inside = e'.inside) : e.entry = e'.entry := by
  obtain ⟨hstar, hbody⟩ := Prod.mk.inj h
  rw [entry, entry, hstar, hbody]

end TableEnvironment

/-- Markup with tables, as it is written. -/
def TableMarkup.source (m : TableMarkup) : List Char :=
  m.front ++ m.environments.flatMap TableEnvironment.source

theorem atBackslash_sources (es : List TableEnvironment) :
    AtBackslash (es.flatMap TableEnvironment.source) := by
  cases es with
  | nil => exact Or.inl rfl
  | cons e es =>
    rw [List.flatMap_cons, TableEnvironment.source, List.append_assoc]
    exact (isCommand_beginTable e.starred).atBackslash _

/-- **An environment has the entry that its body gives**, whatever follows it. -/
theorem tableCaptions_environment (e : TableEnvironment) {rest : List Char}
    (hrest : AtBackslash rest) :
    tableCaptions (e.source ++ rest) = e.entry :: tableCaptions rest := by
  have hend : tableEnds (endCommand (tableName e.endStarred) ++ (e.behind ++ rest)) = true :=
    tableEnds_iff.2 ⟨e.endStarred, List.prefix_append _ _⟩
  rw [TableEnvironment.source]
  simp only [List.append_assoc]
  rw [tableCaptions_begin, breakBefore_body e.body_noTableEnd hend, tableCaptions_end,
    tableCaptions_append e.behind_noTable hrest]
  rfl

theorem tableCaptions_environments (es : List TableEnvironment) :
    tableCaptions (es.flatMap TableEnvironment.source) = es.map TableEnvironment.entry := by
  induction es with
  | nil => rw [List.flatMap_nil, tableCaptions]; rfl
  | cons e es ih =>
    rw [List.flatMap_cons, tableCaptions_environment e (atBackslash_sources es), ih, List.map_cons]

/-- **One entry for each table environment, read from its body alone.** The entries of markup with
    tables are those of its environments, in their order; and of two such texts, whose i-th
    environments begin alike and have the same body, the i-th entries are the same, whatever stands
    anywhere else. -/
theorem tableCaptions_source (m : TableMarkup) :
    tableCaptions m.source = m.environments.map TableEnvironment.entry ∧
      ∀ (m' : TableMarkup) (i : Nat),
        m'.environments[i]?.map TableEnvironment.inside =
            m.environments[i]?.map TableEnvironment.inside →
          (tableCaptions m'.source)[i]? = (tableCaptions m.source)[i]? := by
  have hentries : ∀ m : TableMarkup,
      tableCaptions m.source = m.environments.map TableEnvironment.entry := fun m => by
    rw [TableMarkup.source, tableCaptions_append m.front_noTable
      (atBackslash_sources m.environments), tableCaptions_environments]
  refine ⟨hentries m, fun m' i h => ?_⟩
  rw [hentries, hentries, List.getElem?_map, List.getElem?_map]
  cases he' : m'.environments[i]? with
  | none =>
    rw [he', Option.map_none, eq_comm, Option.map_eq_none_iff] at h
    rw [h]
  | some e' =>
    rw [he', Option.map_some, eq_comm, Option.map_eq_some_iff] at h
    obtain ⟨e, he, hinside⟩ := h
    rw [he, Option.map_some, Option.map_some, e.entry_congr hinside]

/-- A table that is left with an open caption, in which another one seems to begin, and a starred
    table behind it. -/
def openCaption : TableMarkup where
  front := "\\caption\x7bStray\x7d ".toList
  environments :=
    [{ starred := false
       body := "\\caption\x7bOpen \x7b\\begin\x7btable*\x7d".toList
       endStarred := true
       behind := "\x7d\x7d \\caption\x7bStray\x7d".toList
       body_noTableEnd := by decide +kernel
       behind_noTable := by decide +kernel },
      { starred := true
        body := "[t]\\caption\x7bBeta\x7d\\caption\x7bLater\x7d".toList
        endStarred := false
        behind := "\\end\x7btable\x7d".toList
        body_noTableEnd := by decide +kernel
        behind_noTable := by decide +kernel }]
  front_noTable := by decide +kernel

/-- Each table has its own caption. -/
theorem tableCaptions_openCaption :
    tableCaptions openCaption.source =
      [⟨some "Open \x7b\\begin\x7btable*\x7d", false⟩, ⟨some "Beta", true⟩] :=
  (tableCaptions_source openCaption).1.trans (by decide +kernel)

end Galley.Markup
