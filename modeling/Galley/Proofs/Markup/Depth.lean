import Galley.Proofs.Markup.Braces
import Galley.Proofs.Markup.Grammar
import Galley.Proofs.Text.Plain

/-!
# The depth of braces

Where no backslash stands directly before a brace, every brace groups, and whether a text is
balanced can be told by reading it once, with the number of open braces at hand. A citation command
whose notes and keys are plain leaves the depth as it is, and at every closing brace inside it one
brace more is open than before it, so an argument never ends within a command. Main statements:
`balanced_iff_depthAfter` and `depthAfter_cut`.
-/

namespace Galley.Markup

open Galley.Text

/-! ## 1. Depth -/

/-- How many braces are open behind a text when `depth` are open before it; none when it closes one
    that is not open. -/
def depthAfter : Nat → List Char → Option Nat
  | depth, [] => some depth
  | depth, c :: cs =>
    if c = '\x7b' then depthAfter (depth + 1) cs
    else if c = '\x7d' then
      match depth with
      | 0 => none
      | depth + 1 => depthAfter depth cs
    else depthAfter depth cs

/-- Every brace of a text groups: no backslash stands directly before one. -/
def BracesGroup (cs : List Char) : Prop := ∀ b rest, '\\' :: b :: rest <:+ cs → isBrace b = false

variable {depth after : Nat} {cs : List Char}

@[simp] theorem depthAfter_nil : depthAfter depth [] = some depth := by
  cases depth <;> rfl

@[simp] theorem depthAfter_open : depthAfter depth ('\x7b' :: cs) = depthAfter (depth + 1) cs := by
  cases depth <;> rfl

@[simp] theorem depthAfter_close_succ :
    depthAfter (depth + 1) ('\x7d' :: cs) = depthAfter depth cs := rfl

theorem depthAfter_other {c : Char} (h : isBrace c = false) :
    depthAfter depth (c :: cs) = depthAfter depth cs := by
  simp only [isBrace, Bool.or_eq_false_iff, decide_eq_false_iff_not] at h
  cases depth <;> simp [depthAfter, h]

/-- What comes next is an opening brace, a closing brace or another character. -/
theorem brace_cases (c : Char) : c = '\x7b' ∨ c = '\x7d' ∨ isBrace c = false := by
  by_cases ho : c = '\x7b'
  · exact Or.inl ho
  · by_cases hc : c = '\x7d'
    · exact Or.inr (Or.inl hc)
    · exact Or.inr (Or.inr (by simp [isBrace, ho, hc]))

theorem depthAfter_append (cs ds : List Char) :
    depthAfter depth (cs ++ ds) = (depthAfter depth cs).bind fun d => depthAfter d ds := by
  induction cs generalizing depth with
  | nil => simp
  | cons c cs ih =>
    rw [List.cons_append]
    rcases brace_cases c with rfl | rfl | hc
    · rw [depthAfter_open, depthAfter_open, ih]
    · cases depth with
      | zero => rfl
      | succ d => rw [depthAfter_close_succ, depthAfter_close_succ, ih]
    · rw [depthAfter_other hc, depthAfter_other hc, ih]

/-- Text without braces leaves the depth as it is. -/
theorem depthAfter_of_no_brace (h : ∀ c ∈ cs, isBrace c = false) :
    depthAfter depth cs = some depth := by
  induction cs with
  | nil => simp
  | cons c cs ih =>
    obtain ⟨hc, hcs⟩ := List.forall_mem_cons.1 h
    rw [depthAfter_other hc, ih hcs]

/-- The depth counts braces, of which no beginning of the text closes too many. -/
theorem depthAfter_eq_some_iff : depthAfter depth cs = some after ↔
    depth + cs.count '\x7b' = after + cs.count '\x7d' ∧
      ∀ front, front <+: cs → front.count '\x7d' ≤ depth + front.count '\x7b' := by
  induction cs generalizing depth with
  | nil =>
    constructor
    · intro h
      cases (@depthAfter_nil depth).symm.trans h
      exact ⟨rfl, fun front hf => by rw [List.prefix_nil.1 hf]; simp⟩
    · rintro ⟨h, -⟩
      simpa using h
  | cons c cs ih =>
    have hfronts : (∀ front, front <+: c :: cs →
        front.count '\x7d' ≤ depth + front.count '\x7b') ↔
          ∀ front, front <+: cs →
            (c :: front).count '\x7d' ≤ depth + (c :: front).count '\x7b' := by
      constructor
      · intro h front hf
        exact h _ (List.cons_prefix_cons.2 ⟨rfl, hf⟩)
      · intro h front hf
        cases front with
        | nil => simp
        | cons x front =>
          obtain ⟨rfl, htail⟩ := List.cons_prefix_cons.1 hf
          exact h front htail
    rw [hfronts]
    rcases brace_cases c with rfl | rfl | hc
    · rw [depthAfter_open, ih]
      simp only [List.count_cons]
      grind
    · cases depth with
      | zero =>
        constructor
        · intro h
          cases h
        · intro h
          have hfirst := h.2 [] List.nil_prefix
          simp at hfirst
      | succ d =>
        rw [depthAfter_close_succ, ih]
        simp only [List.count_cons]
        grind
    · rw [depthAfter_other hc, ih]
      simp only [List.count_cons]
      grind [isBrace]

theorem BracesGroup.suffix (h : BracesGroup cs) {ds : List Char} (hs : ds <:+ cs) :
    BracesGroup ds :=
  fun b rest hb => h b rest (hb.trans hs)

theorem bracesGroup_cons {c : Char} :
    BracesGroup (c :: cs) ↔ (c = '\\' → cs.head?.any isBrace = false) ∧ BracesGroup cs := by
  constructor
  · intro h
    refine ⟨?_, h.suffix (List.suffix_cons c cs)⟩
    rintro rfl
    cases cs with
    | nil => rfl
    | cons b rest => simpa using h b rest (List.suffix_refl _)
  · rintro ⟨hc, hcs⟩ b rest hs
    rcases List.suffix_cons_iff.1 hs with he | hs
    · obtain ⟨rfl, rfl⟩ := List.cons.inj he
      simpa using hc rfl
    · exact hcs b rest hs

instance decidableBracesGroup : (cs : List Char) → Decidable (BracesGroup cs)
  | [] => isTrue fun b rest h => by cases List.suffix_nil.1 h
  | c :: cs =>
    have := decidableBracesGroup cs
    decidable_of_iff ((c = '\\' → cs.head?.any isBrace = false) ∧ BracesGroup cs)
      bracesGroup_cons.symm

/-- Where every brace groups, all are counted. -/
theorem count_unescaped {previous x : Char} (hx : isBrace x = true) (hg : BracesGroup cs)
    (hp : previous = '\\' → cs.head?.any isBrace = false) :
    (unescaped previous cs).count x = cs.count x := by
  induction cs generalizing previous with
  | nil => rfl
  | cons c cs ih =>
    obtain ⟨hc, hcs⟩ := bracesGroup_cons.1 hg
    rw [count_unescaped_char hx (fun e => by simpa using hp e), List.count_cons, ih hcs hc]
    simp

/-- A beginning of a text in which every brace groups. -/
theorem BracesGroup.beginning (h : BracesGroup cs) {ds : List Char} (hp : ds <+: cs) :
    BracesGroup ds := by
  obtain ⟨more, rfl⟩ := hp
  rintro b rest ⟨front, rfl⟩
  exact h b (rest ++ more) ⟨front, by simp⟩

/-- A part of a text in which every brace groups. -/
theorem BracesGroup.within (h : BracesGroup cs) {before part behind : List Char}
    (he : cs = before ++ part ++ behind) : BracesGroup part := by
  rintro b rest ⟨front, rfl⟩
  exact h b (rest ++ behind) ⟨before ++ front, by simp [he]⟩

/-- **A text in which every brace groups is balanced when reading it closes all it opens.** -/
theorem balanced_iff_depthAfter (h : BracesGroup cs) :
    Balanced cs ↔ depthAfter 0 cs = some 0 := by
  have hcount : ∀ front, front <+: cs →
      openings front = front.count '\x7b' ∧ closings front = front.count '\x7d' := fun front hf =>
    ⟨count_unescaped (by decide) (h.beginning hf) (fun e => absurd e (by decide)),
      count_unescaped (by decide) (h.beginning hf) (fun e => absurd e (by decide))⟩
  obtain ⟨ho, hc⟩ := hcount cs (List.prefix_refl cs)
  rw [depthAfter_eq_some_iff, Balanced, ho, hc, Nat.zero_add, Nat.zero_add]
  constructor
  · rintro ⟨he, hp⟩
    refine ⟨he.symm, fun front hf => ?_⟩
    have := hp front hf
    rw [(hcount front hf).1, (hcount front hf).2] at this
    omega
  · rintro ⟨he, hp⟩
    refine ⟨he.symm, fun front hf => ?_⟩
    have := hp front hf
    rw [(hcount front hf).1, (hcount front hf).2]
    omega

/-! ## 2. Plain commands -/

/-- An entry whose notes and key are plain. -/
structure Entry.IsPlain (e : Entry) : Prop where
  first : ∀ note ∈ e.firstNote, Plain note
  second : ∀ note ∈ e.secondNote, Plain note
  key : Plain e.key

/-- A command whose notes and keys are plain. -/
def Command.IsPlain (c : Command) : Prop := ∀ e ∈ c.entries, e.IsPlain

instance (e : Entry) : Decidable e.IsPlain :=
  decidable_of_iff
    ((∀ note ∈ e.firstNote, Plain note) ∧ (∀ note ∈ e.secondNote, Plain note) ∧ Plain e.key)
    ⟨fun h => ⟨h.1, h.2.1, h.2.2⟩, fun h => ⟨h.first, h.second, h.key⟩⟩

instance (c : Command) : Decidable c.IsPlain :=
  inferInstanceAs (Decidable (∀ e ∈ c.entries, e.IsPlain))

theorem not_isBrace_of_plain (h : Plain cs) : ∀ c ∈ cs, isBrace c = false := by
  intro c hc
  have := h c hc
  simp only [isControl, Bool.or_eq_false_iff] at this
  simp only [isBrace, this, Bool.or_self]

theorem plain_noteSource {note : Option (List Char)} (h : ∀ n ∈ note, Plain n) :
    Plain (noteSource note) := by
  cases note with
  | none => exact plain_nil
  | some n => simpa [noteSource, isControl] using h n rfl

/-- The text of an entry up to its closing brace. -/
def Entry.front (e : Entry) : List Char :=
  noteSource e.firstNote ++ noteSource e.secondNote ++ '\x7b' :: e.key

theorem Entry.source_eq (e : Entry) : e.source = e.front ++ ['\x7d'] := by
  simp [Entry.source, Entry.front]

theorem Entry.IsPlain.depthAfter_front {e : Entry} (h : e.IsPlain) :
    depthAfter depth e.front = some (depth + 1) := by
  have hnotes : Plain (noteSource e.firstNote ++ noteSource e.secondNote) :=
    plain_append.2 ⟨plain_noteSource h.first, plain_noteSource h.second⟩
  rw [Entry.front, depthAfter_append, depthAfter_of_no_brace (not_isBrace_of_plain hnotes),
    Option.bind_some, depthAfter_open, depthAfter_of_no_brace (not_isBrace_of_plain h.key)]

theorem Entry.IsPlain.closing_not_mem_front {e : Entry} (h : e.IsPlain) : '\x7d' ∉ e.front := by
  have hfirst := (plain_noteSource h.first).not_mem (c := '\x7d') rfl
  have hsecond := (plain_noteSource h.second).not_mem (c := '\x7d') rfl
  have hkey := h.key.not_mem (c := '\x7d') rfl
  simp [Entry.front, hfirst, hsecond, hkey]

theorem depthAfter_entries {es : List Entry} (h : ∀ e ∈ es, e.IsPlain) :
    depthAfter depth (es.flatMap Entry.source) = some depth := by
  induction es with
  | nil => simp
  | cons e es ih =>
    obtain ⟨he, hes⟩ := List.forall_mem_cons.1 h
    rw [List.flatMap_cons, e.source_eq, depthAfter_append, depthAfter_append, he.depthAfter_front,
      Option.bind_some, depthAfter_close_succ, depthAfter_nil, Option.bind_some, ih hes]

/-- At a closing brace inside entries, one brace more is open than before them. -/
theorem depthAfter_entries_cut {es : List Entry} (h : ∀ e ∈ es, e.IsPlain) {front rest : List Char}
    (hcut : es.flatMap Entry.source = front ++ '\x7d' :: rest) :
    depthAfter depth front = some (depth + 1) := by
  induction es generalizing front with
  | nil => simp at hcut
  | cons e es ih =>
    obtain ⟨he, hes⟩ := List.forall_mem_cons.1 h
    rw [List.flatMap_cons, e.source_eq, List.append_assoc] at hcut
    obtain ⟨between, rfl, hbetween⟩ := exists_append_of_not_mem he.closing_not_mem_front hcut
    rw [depthAfter_append, he.depthAfter_front, Option.bind_some]
    cases between with
    | nil => exact depthAfter_nil
    | cons x between =>
      obtain ⟨rfl, htail⟩ := List.cons.inj hbetween
      rw [depthAfter_close_succ]
      exact ih hes htail

/-- The name of a command is plain. -/
theorem Command.Proper.plain_name {c : Command} (h : c.Proper) : Plain c.name := by
  have hall : ∀ name ∈ commandNames, Plain name := by decide
  exact hall c.name h.name

section Command

variable {c : Command} (hc : c.Proper) (hp : c.IsPlain)

include hc hp

/-- A plain command leaves the depth as it is. -/
theorem Command.depthAfter_source : depthAfter depth c.source = some depth := by
  rw [Command.source, depthAfter_append, depthAfter_other rfl,
    depthAfter_of_no_brace (not_isBrace_of_plain hc.plain_name), Option.bind_some,
    depthAfter_entries hp]

/-- **At a closing brace inside a plain command, one brace more is open than before it.** -/
theorem Command.depthAfter_cut {front rest : List Char}
    (hcut : c.source = front ++ '\x7d' :: rest) : depthAfter depth front = some (depth + 1) := by
  have hname : '\x7d' ∉ '\\' :: c.name := by
    simpa using hc.plain_name.not_mem (c := '\x7d') rfl
  obtain ⟨between, rfl, hbetween⟩ := exists_append_of_not_mem hname hcut
  rw [depthAfter_append, depthAfter_other rfl,
    depthAfter_of_no_brace (not_isBrace_of_plain hc.plain_name), Option.bind_some]
  exact depthAfter_entries_cut hp hbetween

/-- A plain command has no backslash but its first character. -/
theorem Command.backslash_not_mem : '\\' ∉ c.name ++ c.entries.flatMap Entry.source := by
  rw [List.mem_append, List.mem_flatMap]
  rintro (hname | ⟨e, he, hmem⟩)
  · exact hc.plain_name.not_mem rfl hname
  · obtain ⟨hfirst, hsecond, hkey⟩ := hp e he
    have hfirst := (plain_noteSource hfirst).not_mem (c := '\\') rfl
    have hsecond := (plain_noteSource hsecond).not_mem (c := '\\') rfl
    have hkey := hkey.not_mem (c := '\\') rfl
    simp [Entry.source, hfirst, hsecond, hkey] at hmem

end Command

end Galley.Markup
