import Galley.Markup.Clean
import Galley.Proofs.Markup.Depth

/-!
# Texts with commands and without

Segments are written in two ways: with their commands as they stand in the source, and with plain
text in their place. Where no command stands directly behind the beginning of a control word, both
texts have the same control words, the same braces outside commands and so the same arguments: what
is found in one at kept characters is found in the other. Main statements: `exists_chars_of_shown`
and `PlainlyShown.exists_argument`.
-/

namespace Galley.Markup

open Galley.Text

/-! ## 1. Two texts of segments -/

/-- The text of a segment when `text` stands for commands. -/
def Segment.shown (text : Command → List Char) : Segment → List Char
  | .char c => [c]
  | .command c => text c

/-- The text of segments when `text` stands for commands. -/
def shownOf (text : Command → List Char) (ss : List Segment) : List Char :=
  ss.flatMap (Segment.shown text)

/-- A text of which every character is kept. -/
def chars (cs : List Char) : List Segment := cs.map .char

variable {text : Command → List Char} {ss : List Segment}

@[simp] theorem shownOf_nil : shownOf text [] = [] := rfl

@[simp] theorem shownOf_char (c : Char) (ss : List Segment) :
    shownOf text (.char c :: ss) = c :: shownOf text ss := rfl

@[simp] theorem shownOf_command (c : Command) (ss : List Segment) :
    shownOf text (.command c :: ss) = text c ++ shownOf text ss := rfl

@[simp] theorem shownOf_append (ss ts : List Segment) :
    shownOf text (ss ++ ts) = shownOf text ss ++ shownOf text ts := List.flatMap_append

@[simp] theorem shownOf_chars (cs : List Char) : shownOf text (chars cs) = cs := by
  induction cs with
  | nil => rfl
  | cons c cs ih => exact congrArg (c :: ·) ih

/-- The text of segments with their commands as they are written. -/
def writtenOf (ss : List Segment) : List Char := shownOf Command.source ss

theorem writtenOf_segments (cs : List Char) : writtenOf (segments cs) = cs := by
  have h : Segment.shown Command.source = Segment.source := by
    funext s
    cases s <;> rfl
  rw [writtenOf, shownOf, h, source_segments]

/-! ## 2. Finding kept characters -/

/-- A character of a text is a kept one, if it does not stand in the text of a command. -/
theorem exists_char_of_shown {front rest : List Char} {x : Char}
    (h : shownOf text ss = front ++ x :: rest)
    (hno : ∀ before c behind a b, ss = before ++ .command c :: behind → text c = a ++ x :: b →
      front = shownOf text before ++ a → ¬ b <+: rest) :
    ∃ before behind, ss = before ++ .char x :: behind ∧ shownOf text before = front ∧
      shownOf text behind = rest := by
  induction ss generalizing front with
  | nil => simp at h
  | cons s ss ih =>
    -- the character stands behind the first segment
    have hlater : ∀ between, front = s.shown text ++ between →
        shownOf text ss = between ++ x :: rest → ∃ before behind,
          s :: ss = before ++ .char x :: behind ∧ shownOf text before = front ∧
            shownOf text behind = rest := by
      intro between hfront hss
      obtain ⟨before, behind, rfl, hbefore, hbehind⟩ := ih hss fun before c behind a b he ht hf =>
        hno (s :: before) c behind a b (by rw [he]; rfl) ht
          (by rw [hfront, hf, ← List.append_assoc]; rfl)
      exact ⟨s :: before, behind, rfl, by rw [hfront, ← hbefore]; rfl, hbehind⟩
    cases s with
    | char c =>
      rw [shownOf_char] at h
      cases front with
      | nil =>
        obtain ⟨rfl, hrest⟩ := List.cons.inj h
        exact ⟨[], ss, rfl, rfl, hrest⟩
      | cons y front =>
        obtain ⟨rfl, hrest⟩ := List.cons.inj h
        exact hlater front rfl hrest
    | command c =>
      rw [shownOf_command] at h
      rcases append_eq_append_cons h with ⟨b, ht, hrest⟩ | ⟨between, hfront, hss⟩
      · exact absurd ⟨_, hrest.symm⟩ (hno [] c ss front b rfl ht rfl)
      · exact hlater between hfront hss

/-- The characters that come next are kept ones, if no command comes before their end. -/
theorem exists_chars_of_shown {word rest : List Char} (h : shownOf text ss = word ++ rest)
    (hno : ∀ a b c behind, word = a ++ b → b ≠ [] → ss ≠ chars a ++ .command c :: behind) :
    ∃ behind, ss = chars word ++ behind ∧ shownOf text behind = rest := by
  induction word generalizing ss with
  | nil => exact ⟨ss, rfl, h⟩
  | cons x word ih =>
    cases ss with
    | nil => cases h
    | cons s ss =>
      cases s with
      | command c => exact absurd rfl (hno [] (x :: word) c ss rfl (List.cons_ne_nil _ _))
      | char y =>
        obtain ⟨rfl, hrest⟩ := List.cons.inj h
        obtain ⟨behind, rfl, hbehind⟩ := ih hrest fun a b c behind hw hb he =>
          hno (y :: a) b c behind (by rw [hw]; rfl) hb (by rw [he]; rfl)
        exact ⟨behind, rfl, hbehind⟩

/-! ## 3. Plain text in the place of commands -/

/-- The words that begin a command. -/
def controlWords : List (List Char) :=
  [RegionKind.footnote.command, RegionKind.caption.command] ++ commandNames.map ('\\' :: ·)

/-- Something more of a control word than nothing, from its backslash on. -/
def BeginsWord (u : List Char) : Prop := u ≠ [] ∧ ∃ word ∈ controlWords, u <+: word

/-- A control word goes on with letters behind its backslash. -/
theorem exists_tail_of_prefix {word u : List Char} (hword : word ∈ controlWords) (hu : u ≠ [])
    (h : u <+: word) : ∃ tail, u = '\\' :: tail ∧ ∀ x ∈ tail, x ≠ '%' ∧ x ≠ '&' := by
  have hall : ∀ word ∈ controlWords, word.head? = some '\\' ∧ '%' ∉ word ∧ '&' ∉ word := by
    decide
  obtain ⟨hhead, hpercent, hampersand⟩ := hall word hword
  obtain ⟨x, tail, rfl⟩ := List.exists_cons_of_ne_nil hu
  obtain ⟨more, rfl⟩ := h
  obtain rfl : x = '\\' := by simpa using hhead
  refine ⟨tail, rfl, fun x hx => ⟨?_, ?_⟩⟩
  · rintro rfl
    exact hpercent (by simp [hx])
  · rintro rfl
    exact hampersand (by simp [hx])

/-- What holds of segments whose commands are replaced by plain text. -/
structure PlainlyShown (text : Command → List Char) (ss : List Segment) : Prop where
  proper : ∀ c, .command c ∈ ss → c.Proper
  plain : ∀ c, .command c ∈ ss → c.IsPlain
  /-- What stands for a command is plain text, with its special characters escaped. -/
  shown : ∀ c, .command c ∈ ss → ∃ cs, Plain cs ∧ text c = escapeSpecials cs
  /-- No command stands directly behind the beginning of a control word. -/
  apart : ∀ front u c rest, ss = front ++ chars u ++ .command c :: rest → ¬ BeginsWord u
  groups : BracesGroup (writtenOf ss)

/-- In escaped text a backslash stands before a percent sign or an ampersand. -/
theorem escapeSpecials_backslash {cs front rest : List Char} (h : '\\' ∉ cs)
    (he : escapeSpecials cs = front ++ '\\' :: rest) :
    ∃ x more, rest = x :: more ∧ (x = '%' ∨ x = '&') := by
  induction cs generalizing front with
  | nil => simp [escapeSpecials] at he
  | cons c cs ih =>
    obtain ⟨hc, hcs⟩ := not_or.1 (mt List.mem_cons.2 h)
    rw [escapeSpecials, List.flatMap_cons] at he
    split at he
    · next hspecial =>
      cases front with
      | nil =>
        obtain ⟨-, hrest⟩ := List.cons.inj he
        exact ⟨c, _, hrest.symm, by simpa using hspecial⟩
      | cons y front =>
        obtain ⟨-, he⟩ := List.cons.inj he
        have hne : '\\' ∉ [c] := by simpa using hc
        obtain ⟨between, -, hbetween⟩ := exists_append_of_not_mem hne he
        exact ih hcs hbetween
    · have hne : '\\' ∉ [c] := by simpa using hc
      obtain ⟨between, -, hbetween⟩ := exists_append_of_not_mem hne he
      exact ih hcs hbetween

theorem not_isBrace_of_mem_escapeSpecials {cs : List Char} (h : Plain cs) :
    ∀ c ∈ escapeSpecials cs, isBrace c = false := by
  intro c hc
  obtain ⟨x, hx, hm⟩ := List.mem_flatMap.1 hc
  split at hm
  · rcases List.mem_cons.1 hm with rfl | hm
    · rfl
    · obtain rfl := List.mem_singleton.1 hm
      exact not_isBrace_of_plain h _ hx
  · obtain rfl := List.mem_singleton.1 hm
    exact not_isBrace_of_plain h _ hx

namespace PlainlyShown

theorem of_append {front behind : List Segment} (h : PlainlyShown text (front ++ ss ++ behind)) :
    PlainlyShown text ss where
  proper c hc := h.proper c (by simp [hc])
  plain c hc := h.plain c (by simp [hc])
  shown c hc := h.shown c (by simp [hc])
  apart f u c rest he := by
    refine h.apart (front ++ f) u c (rest ++ behind) ?_
    rw [he]
    simp
  groups := by
    have hg := h.groups
    rw [writtenOf, shownOf_append, shownOf_append] at hg
    exact (hg.beginning (List.prefix_append _ _)).suffix (List.suffix_append _ _)

/-- **Both texts leave the same braces open.** -/
theorem depthAfter_shown (h : PlainlyShown text ss) {depth : Nat} :
    depthAfter depth (shownOf text ss) = depthAfter depth (writtenOf ss) := by
  induction ss generalizing depth with
  | nil => rfl
  | cons s ss ih =>
    have hparts : PlainlyShown text ([s] ++ ss ++ []) := by rwa [List.append_nil]
    have hss : PlainlyShown text ss := hparts.of_append
    cases s with
    | char c =>
      show depthAfter depth ([c] ++ _) = depthAfter depth ([c] ++ writtenOf ss)
      rw [depthAfter_append, depthAfter_append]
      exact congrArg (Option.bind _) (funext fun d => ih hss)
    | command c =>
      obtain ⟨cs, hcs, htext⟩ := h.shown c List.mem_cons_self
      have hc := h.proper c List.mem_cons_self
      have hp := h.plain c List.mem_cons_self
      show depthAfter depth (text c ++ _) = depthAfter depth (c.source ++ writtenOf ss)
      rw [depthAfter_append, depthAfter_append, c.depthAfter_source hc hp, htext,
        depthAfter_of_no_brace (not_isBrace_of_mem_escapeSpecials hcs)]
      exact ih hss

/-- A beginning of a control word, with one more character that does not come of escaping, is found
    where it is kept. -/
theorem exists_word (h : PlainlyShown text ss) {word front rest : List Char} {x : Char}
    (hw : BeginsWord word) (hx : x ≠ '%' ∧ x ≠ '&')
    (he : shownOf text ss = front ++ (word ++ x :: rest)) :
    ∃ before behind, ss = before ++ chars (word ++ [x]) ++ behind ∧
      shownOf text before = front ∧ shownOf text behind = rest := by
  obtain ⟨hne, full, hfull, hpre⟩ := hw
  obtain ⟨tail, rfl, htail⟩ := exists_tail_of_prefix hfull hne hpre
  have hnext : ∀ y ∈ (tail ++ [x]).head?, y ≠ '%' ∧ y ≠ '&' := by
    cases tail with
    | nil => simpa using hx
    | cons y tail => simpa using htail y List.mem_cons_self
  have hsplit : front ++ ('\\' :: tail ++ x :: rest) = front ++ '\\' :: (tail ++ [x] ++ rest) := by
    simp
  obtain ⟨before, more, hss, hbefore, hmore⟩ :=
    exists_char_of_shown (he.trans hsplit) fun f c b a d hin ht _ hd => by
      obtain ⟨cs, hcs, htext⟩ := h.shown c (by simp [hin])
      obtain ⟨y, more, rfl, hy⟩ :=
        escapeSpecials_backslash (hcs.not_mem rfl) (htext.symm.trans ht)
      obtain ⟨z, w, hzw⟩ := List.exists_cons_of_ne_nil (l := tail ++ [x]) (by simp)
      rw [hzw] at hd hnext
      obtain ⟨rfl, -⟩ := List.cons_prefix_cons.1 hd
      have := hnext y rfl
      grind
  obtain ⟨behind, hchars, hbehind⟩ :=
    exists_chars_of_shown hmore fun a b c rest hab hb hin => by
      have ha : a <+: tail := by
        have hlen := congrArg List.length hab
        have hpos := List.length_pos_iff.2 hb
        simp only [List.length_append, List.length_singleton] at hlen
        exact List.prefix_of_prefix_length_le ⟨b, hab.symm⟩ (List.prefix_append tail [x]) (by omega)
      refine h.apart before ('\\' :: a) c rest ?_ ⟨List.cons_ne_nil _ _, full, hfull,
        (List.cons_prefix_cons.2 ⟨rfl, ha⟩).trans hpre⟩
      rw [hss, hin]
      simp [chars]
  refine ⟨before, behind, ?_, hbefore, hbehind⟩
  rw [hss, hchars]
  simp [chars]

theorem beginsWord_backslash : BeginsWord ['\\'] :=
  ⟨List.cons_ne_nil _ _, RegionKind.footnote.command, by decide, by decide⟩

theorem beginsWord_command (kind : RegionKind) : BeginsWord kind.command :=
  ⟨by cases kind <;> decide, kind.command, by cases kind <;> decide, List.prefix_refl _⟩

/-- Putting plain text in the place of commands makes no brace that does not group. -/
theorem bracesGroup_shown (h : PlainlyShown text ss) : BracesGroup (shownOf text ss) := by
  rintro b rest ⟨front, he⟩
  cases hb : isBrace b with
  | false => rfl
  | true =>
    have hnext : b ≠ '%' ∧ b ≠ '&' := by constructor <;> (rintro rfl; cases hb)
    obtain ⟨before, behind, rfl, -, -⟩ := h.exists_word beginsWord_backslash hnext he.symm
    have hg := h.groups b (writtenOf behind) ⟨writtenOf before, by simp [writtenOf]⟩
    rw [hg] at hb
    cases hb

theorem balanced_shown_iff (h : PlainlyShown text ss) :
    Balanced (shownOf text ss) ↔ Balanced (writtenOf ss) := by
  rw [balanced_iff_depthAfter h.bracesGroup_shown, balanced_iff_depthAfter h.groups,
    h.depthAfter_shown]

/-- A brace is found where it is kept. -/
theorem exists_brace (h : PlainlyShown text ss) {front rest : List Char} {x : Char}
    (hx : isBrace x = true) (he : shownOf text ss = front ++ x :: rest) :
    ∃ before behind, ss = before ++ .char x :: behind ∧ shownOf text before = front ∧
      shownOf text behind = rest :=
  exists_char_of_shown he fun f c b a d hin ht _ _ => by
    obtain ⟨cs, hcs, htext⟩ := h.shown c (by simp [hin])
    have hno := not_isBrace_of_mem_escapeSpecials hcs x (by rw [← htext, ht]; simp)
    rw [hno] at hx
    cases hx

end PlainlyShown

/-! ## 4. Arguments -/

/-- An argument of the shown text comes from one of the segments. -/
theorem PlainlyShown.exists_argument (h : PlainlyShown text ss) {front arg rest : List Char}
    {kind : RegionKind}
    (he : shownOf text ss = front ++ kind.command ++ '\x7b' :: (arg ++ '\x7d' :: rest)) :
    ∃ before inner behind,
      ss = before ++ chars (kind.command ++ ['\x7b']) ++ inner ++ .char '\x7d' :: behind ∧
        shownOf text before = front ∧ shownOf text inner = arg ∧ shownOf text behind = rest := by
  rw [List.append_assoc] at he
  obtain ⟨before, more, hss, hbefore, hmore⟩ :=
    h.exists_word (beginsWord_command kind) (by decide) he
  have hparts : PlainlyShown text (before ++ chars (kind.command ++ ['\x7b']) ++ more ++ []) := by
    rwa [List.append_nil, ← hss]
  have hmoreShown : PlainlyShown text more := hparts.of_append
  obtain ⟨inner, behind, hin, hinner, hbehind⟩ := hmoreShown.exists_brace (by decide) hmore
  exact ⟨before, inner, behind, by rw [hss, hin, ← List.append_assoc], hbefore, hinner, hbehind⟩

/-! ## 5. The source -/

/-- A backslash of a plain command is its first character. -/
theorem Command.eq_of_source_backslash {c : Command} (hc : c.Proper) (hp : c.IsPlain)
    {a b : List Char} (h : c.source = a ++ '\\' :: b) :
    a = [] ∧ b = c.name ++ c.entries.flatMap Entry.source := by
  cases a with
  | nil => exact ⟨rfl, (List.cons.inj h).2.symm⟩
  | cons x a =>
    have htail : c.name ++ c.entries.flatMap Entry.source = a ++ '\\' :: b := (List.cons.inj h).2
    refine absurd ?_ (c.backslash_not_mem hc hp)
    rw [htail]
    simp

/-- A footnote or caption command is no citation command. -/
theorem readCommand?_command (kind : RegionKind) (rest : List Char) :
    readCommand? (kind.command ++ '\x7b' :: rest) = none := by
  cases kind <;> rfl

/-- Characters of the source without a backslash are kept ones, if no command holds the first. -/
theorem exists_chars_of_written {word rest : List Char} (hword : '\\' ∉ word)
    (h : writtenOf ss = word ++ rest) :
    ∃ behind, ss = chars word ++ behind ∧ writtenOf behind = rest := by
  refine exists_chars_of_shown h fun a b c behind hab hb hss => hword ?_
  rw [hss, hab, writtenOf, shownOf_append, shownOf_chars, shownOf_command, List.append_assoc] at h
  obtain ⟨x, b, rfl⟩ := List.exists_cons_of_ne_nil hb
  obtain ⟨rfl, -⟩ := List.cons.inj (List.append_cancel_left h)
  simp [hab]

namespace PlainlyShown

/-- An argument of the source comes from one of the segments. -/
theorem exists_written_argument (h : PlainlyShown text ss) {front arg rest : List Char}
    {kind : RegionKind} (hbalanced : Balanced arg)
    (he : writtenOf ss = front ++ kind.command ++ '\x7b' :: (arg ++ '\x7d' :: rest)) :
    ∃ before inner behind,
      ss = before ++ chars (kind.command ++ ['\x7b']) ++ inner ++ .char '\x7d' :: behind ∧
        writtenOf before = front ∧ writtenOf inner = arg ∧ writtenOf behind = rest := by
  have hdepth : depthAfter 0 arg = some 0 := by
    have hg : BracesGroup (arg ++ '\x7d' :: rest) := h.groups.suffix ⟨front ++ kind.command ++
      ['\x7b'], by rw [he]; simp⟩
    exact (balanced_iff_depthAfter (hg.beginning (List.prefix_append _ _))).1 hbalanced
  obtain ⟨tail, htail⟩ : ∃ tail, kind.command = '\\' :: tail := by cases kind <;> exact ⟨_, rfl⟩
  have hno : '\\' ∉ tail ++ ['\x7b'] := by cases kind <;> cases htail <;> decide
  have hsplit : front ++ kind.command ++ '\x7b' :: (arg ++ '\x7d' :: rest) =
      front ++ '\\' :: (tail ++ ['\x7b'] ++ (arg ++ '\x7d' :: rest)) := by
    rw [htail]
    simp
  obtain ⟨before, more, hss, hbefore, hmore⟩ :=
    exists_char_of_shown (he.trans hsplit) fun f c b a d hin ht _ hd => by
      have hc := h.proper c (by simp [hin])
      have hp := h.plain c (by simp [hin])
      obtain ⟨rfl, rfl⟩ := c.eq_of_source_backslash hc hp ht
      have hpre : c.source <+: kind.command ++ '\x7b' :: (arg ++ '\x7d' :: rest) := by
        rw [htail]
        simpa [Command.source, List.cons_prefix_cons] using hd
      exact readCommand?_eq_none_iff.1 (readCommand?_command kind _) c hc hpre
  obtain ⟨more, rfl, hinner⟩ := exists_chars_of_written hno hmore
  obtain ⟨inner, behind, hin, hinner, hbehind⟩ :=
    exists_char_of_shown hinner fun f c b a d hin ht hf _ => by
      have hc := h.proper c (by simp [hss, hin])
      have hp := h.plain c (by simp [hss, hin])
      -- an argument that ends within a command would have an open brace left
      rw [hf, depthAfter_append] at hdepth
      obtain ⟨n, -, hn⟩ := Option.bind_eq_some_iff.1 hdepth
      rw [c.depthAfter_cut hc hp ht] at hn
      cases hn
  refine ⟨before, inner, behind, ?_, hbefore, hinner, hbehind⟩
  rw [hss, hin, htail]
  simp [chars]

/-- A plain command that stands in the source, but is none of the commands of the segments, is
    kept. -/
theorem exists_written_command (h : PlainlyShown text ss) {front rest : List Char} {c : Command}
    (hc : c.Proper) (hp : c.IsPlain) (he : writtenOf ss = front ++ c.source ++ rest)
    (hno : ∀ before d behind, ss = before ++ .command d :: behind → writtenOf before ≠ front) :
    ∃ before behind, ss = before ++ chars c.source ++ behind ∧ writtenOf before = front := by
  have hsplit : front ++ c.source ++ rest =
      front ++ '\\' :: (c.name ++ c.entries.flatMap Entry.source ++ rest) := by
    simp [Command.source]
  obtain ⟨before, more, hss, hbefore, hmore⟩ :=
    exists_char_of_shown (he.trans hsplit) fun f d b a e hin ht hf _ => by
      have hd := h.proper d (by simp [hin])
      have hpd := h.plain d (by simp [hin])
      obtain ⟨rfl, -⟩ := d.eq_of_source_backslash hd hpd ht
      exact hno f d b hin (by rw [hf, List.append_nil]; rfl)
  obtain ⟨behind, rfl, -⟩ := exists_chars_of_written (c.backslash_not_mem hc hp) hmore
  refine ⟨before, behind, ?_, hbefore⟩
  rw [hss]
  simp [chars, Command.source]

end PlainlyShown

end Galley.Markup
