import Galley.Proofs.Markup.Hoisting
import Galley.Proofs.Markup.TableEnvironments

/-!
# Environments that hoisting leaves

A section is made from one environment: the first one behind a begin command of the document that
has a line feed directly behind it. Every further environment of the name is left in the body, and
where the line of the begin command ends with a carriage return, the one that was to be hoisted is
left, too. Besides, the texts before and behind the environment can make a command when they come
together. Main statement: `leavesNone_iff`.
-/

namespace Galley.Markup

open Galley.Text

/-! ## 1. The commands of an environment -/

/-- The two commands of an environment. -/
inductive FrameCommand where
  | opening
  | closing
  deriving DecidableEq, Repr

/-- The commands of an environment that begin anywhere in a text, in order. -/
def frameCommands (name : List Char) : List Char → List FrameCommand
  | [] => []
  | c :: cs =>
    if startsWith (beginCommand name) (c :: cs) then .opening :: frameCommands name cs
    else if startsWith (endCommand name) (c :: cs) then .closing :: frameCommands name cs
    else frameCommands name cs

/-- No command of an environment stands in a text. -/
def FreeOf (name cs : List Char) : Prop :=
  ¬ beginCommand name <:+: cs ∧ ¬ endCommand name <:+: cs

instance (name cs : List Char) : Decidable (FreeOf name cs) :=
  inferInstanceAs (Decidable (_ ∧ _))

/-- A word is one of the two commands of an environment. -/
def IsFrame (name word : List Char) : Prop := word = beginCommand name ∨ word = endCommand name

/-- No command of an environment that begins before a text goes on into it. -/
def Stops (name rest : List Char) : Prop :=
  ∀ word, IsFrame name word → ∀ text, text ≠ [] → word <+: text ++ rest → word <+: text

/-- A text that ends its last line, or has none. -/
def EndsLine (cs : List Char) : Prop := cs = [] ∨ ∃ line, cs = line ++ ['\n']

section Commands

variable {name : List Char}

theorem startsWith_of_ne {word : List Char} (hword : IsFrame name word) {c : Char}
    (hc : c ≠ '\\') (cs : List Char) : startsWith word (c :: cs) = false := by
  rw [Bool.eq_false_iff, ne_eq, startsWith_iff]
  intro hp
  rcases hword with rfl | rfl
  · exact hc (List.cons_prefix_cons.1 hp).1.symm
  · exact hc (List.cons_prefix_cons.1 hp).1.symm

theorem frameCommands_append_of_not_mem {word : List Char} (h : '\\' ∉ word) (cs : List Char) :
    frameCommands name (word ++ cs) = frameCommands name cs := by
  induction word with
  | nil => rfl
  | cons c word ih =>
    obtain ⟨hc, hword⟩ := not_or.1 (mt List.mem_cons.2 h)
    rw [List.cons_append, frameCommands, startsWith_of_ne (Or.inl rfl) (Ne.symm hc),
      startsWith_of_ne (Or.inr rfl) (Ne.symm hc)]
    exact ih hword

theorem frameCommands_eq_nil_iff {cs : List Char} :
    frameCommands name cs = [] ↔ FreeOf name cs := by
  induction cs with
  | nil =>
    refine ⟨fun _ => ⟨fun h => ?_, fun h => ?_⟩, fun _ => rfl⟩
    · exact absurd (List.infix_nil.1 h) (List.cons_ne_nil _ _)
    · exact absurd (List.infix_nil.1 h) (List.cons_ne_nil _ _)
  | cons c cs ih =>
    rw [frameCommands, FreeOf, List.infix_cons_iff, List.infix_cons_iff, ← startsWith_iff,
      ← startsWith_iff]
    split
    · next h => simp [h]
    · next h =>
      split
      · next h' => simp [h']
      · next h' =>
        rw [ih, FreeOf]
        simp [h, h']

theorem FreeOf.of_infix {cs ds : List Char} (h : FreeOf name cs) (hd : ds <:+: cs) :
    FreeOf name ds :=
  ⟨fun hb => h.1 (hb.trans hd), fun he => h.2 (he.trans hd)⟩

theorem frameCommands_append {rest : List Char} (h : Stops name rest) (text : List Char) :
    frameCommands name (text ++ rest) = frameCommands name text ++ frameCommands name rest := by
  induction text with
  | nil => rfl
  | cons c text ih =>
    have hstart : ∀ word, IsFrame name word →
        startsWith word (c :: (text ++ rest)) = startsWith word (c :: text) := by
      intro word hword
      rw [Bool.eq_iff_iff, startsWith_iff, startsWith_iff]
      exact ⟨h word hword (c :: text) (List.cons_ne_nil _ _),
        fun hp => hp.trans (List.prefix_append (c :: text) rest)⟩
    rw [List.cons_append, frameCommands, frameCommands, hstart _ (Or.inl rfl),
      hstart _ (Or.inr rfl), ih]
    split
    · rfl
    · split <;> rfl

/-! ### Where a text can be cut -/

theorem lineFeed_not_mem (hline : '\n' ∉ name) {word : List Char} (hword : IsFrame name word) :
    '\n' ∉ word := by
  have hparts : ∀ head : List Char, '\n' ∉ head → '\n' ∉ head ++ name ++ ['\x7d'] := by
    intro head hhead
    rw [List.mem_append, List.mem_append, not_or, not_or]
    exact ⟨⟨hhead, hline⟩, by decide⟩
  rcases hword with rfl | rfl
  · exact hparts "\\begin\x7b".toList (by decide +kernel)
  · exact hparts "\\end\x7b".toList (by decide +kernel)

theorem stops_lineFeed (hline : '\n' ∉ name) (rest : List Char) : Stops name ('\n' :: rest) := by
  rintro word hword text - ⟨behind, hp⟩
  rcases append_eq_append_cons hp with ⟨between, he, -⟩ | ⟨between, htext, -⟩
  · refine absurd ?_ (lineFeed_not_mem hline hword)
    rw [he]
    exact List.mem_append_right text List.mem_cons_self
  · exact htext ▸ List.prefix_append word between

theorem stops_atBackslash (h : '\\' ∉ name) {rest : List Char} (hrest : AtBackslash rest) :
    Stops name rest := by
  intro word hword text htext hp
  rcases hword with rfl | rfl
  · exact (isCommand_beginCommand h).prefix_text htext hrest hp
  · exact (isCommand_endCommand h).prefix_text htext hrest hp

theorem frameCommands_begin (h : '\\' ∉ name) (cs : List Char) :
    frameCommands name (beginCommand name ++ cs) = .opening :: frameCommands name cs := by
  obtain ⟨tail, hword, htail⟩ := isCommand_beginCommand h
  have hstart : startsWith (beginCommand name) (beginCommand name ++ cs) = true :=
    startsWith_iff.2 (List.prefix_append _ _)
  rw [hword, List.cons_append] at hstart ⊢
  rw [frameCommands, hword, if_pos hstart, frameCommands_append_of_not_mem htail]

theorem frameCommands_end (h : '\\' ∉ name) (cs : List Char) :
    frameCommands name (endCommand name ++ cs) = .closing :: frameCommands name cs := by
  have hno : startsWith (beginCommand name) (endCommand name ++ cs) = false := by
    rw [Bool.eq_false_iff, ne_eq, startsWith_iff]
    exact not_begin_of_end name name cs
  obtain ⟨tail, hword, htail⟩ := isCommand_endCommand h
  have hstart : startsWith (endCommand name) (endCommand name ++ cs) = true :=
    startsWith_iff.2 (List.prefix_append _ _)
  rw [hword, List.cons_append] at hstart hno ⊢
  rw [frameCommands, if_neg (Bool.eq_false_iff.1 hno), hword, if_pos hstart,
    frameCommands_append_of_not_mem htail]

/-- The commands of a text with an environment are those of its parts and the two of the
    environment. -/
theorem frameCommands_environment (h : '\\' ∉ name) (before content behind : List Char) :
    frameCommands name
        (before ++ (beginCommand name ++ (content ++ (endCommand name ++ behind)))) =
      frameCommands name before ++ .opening :: (frameCommands name content ++
        .closing :: frameCommands name behind) := by
  have hbegin : AtBackslash (beginCommand name ++ (content ++ (endCommand name ++ behind))) :=
    (isCommand_beginCommand h).atBackslash _
  have hend : AtBackslash (endCommand name ++ behind) := (isCommand_endCommand h).atBackslash _
  rw [frameCommands_append (stops_atBackslash h hbegin), frameCommands_begin h,
    frameCommands_append (stops_atBackslash h hend), frameCommands_end h]

theorem frameCommands_lines (hline : '\n' ∉ name) {lines : List Char} (h : EndsLine lines)
    (cs : List Char) :
    frameCommands name (lines ++ cs) = frameCommands name lines ++ frameCommands name cs := by
  rcases h with rfl | ⟨line, rfl⟩
  · rfl
  · have hfeed : ∀ rest, frameCommands name (line ++ '\n' :: rest) =
        frameCommands name line ++ frameCommands name rest := fun rest => by
      rw [frameCommands_append (stops_lineFeed hline rest)]
      exact congrArg _ (frameCommands_append_of_not_mem (by decide : '\\' ∉ ['\n']) rest)
    rw [List.append_assoc, List.singleton_append, hfeed, hfeed, frameCommands, List.append_nil]

theorem freeOf_lines_append (hline : '\n' ∉ name) {lines : List Char} (h : EndsLine lines)
    {cs : List Char} : FreeOf name (lines ++ cs) ↔ FreeOf name lines ∧ FreeOf name cs := by
  simp only [← frameCommands_eq_nil_iff, frameCommands_lines hline h, List.append_eq_nil_iff]

end Commands

/-- A command stands first behind a text that does not hold it. -/
theorem IsCommand.firstAt {word before : List Char} (h : IsCommand word)
    (hbefore : ¬ word <:+: before) (behind : List Char) :
    FirstAt word (before ++ (word ++ behind)) before behind := by
  refine ⟨rfl, fun a b he => Nat.le_of_not_lt fun hlt => hbefore ?_⟩
  obtain ⟨more, rfl⟩ : ∃ more, before = a ++ more :=
    (List.prefix_of_prefix_length_le ⟨_, he.symm⟩ ⟨_, rfl⟩ (Nat.le_of_lt hlt)).imp
      fun _ => Eq.symm
  rw [List.append_assoc] at he
  have hne : more ≠ [] := by
    rintro rfl
    simp at hlt
  have hp : word <+: more ++ (word ++ behind) := ⟨b, (List.append_cancel_left he).symm⟩
  exact (h.prefix_text hne (h.atBackslash behind) hp).isInfix.trans
    (List.suffix_append a more).isInfix

/-! ## 2. Documents with environments -/

/-- The command that begins the body of a document. -/
def documentCommand : List Char := beginCommand "document".toList

theorem documentBegin_eq : documentBegin = documentCommand ++ ['\n'] := by decide +kernel

/-- A line feed, or a carriage return and a line feed. -/
def IsLineEnd (ending : List Char) : Prop := ending = ['\n'] ∨ ending = ['\r', '\n']

/-- A document with a line that begins its body. -/
def documentText (front ending body : List Char) : List Char :=
  front ++ (documentCommand ++ (ending ++ body))

/-- In the body, which begins with the first line that begins a body, there are `k` environments
    of the section, each closed and none inside of another, and the titles of the section hold no
    command of the environment. -/
structure HasEnvironments (s : HoistedSection) (front ending body : List Char) (k : Nat) :
    Prop where
  ending_line : IsLineEnd ending
  first_line : ∀ before line behind, IsLineEnd line →
    documentText front ending body = documentText before line behind → front.length ≤ before.length
  title_free : FreeOf s.environment.toList (sectionCommand s.title)
  introduction_free : FreeOf s.environment.toList (introductionCommand s)
  paired : frameCommands s.environment.toList body =
    (List.replicate k [FrameCommand.opening, .closing]).flatten

/-- A line begins the body first if the command is not in the text before it. -/
theorem front_le_of_not_infix {front ending body : List Char}
    (hfront : ¬ documentCommand <:+: front) {before line behind : List Char}
    (he : documentText front ending body = documentText before line behind) :
    front.length ≤ before.length :=
  ((isCommand_beginCommand (by decide)).firstAt hfront _).first _ _ he

/-- Hoisting changes the body alone, and leaves no command of the environment in it. -/
def LeavesNone (s : HoistedSection) (front ending body : List Char) : Prop :=
  ∃ body', restructure (hoistOnly [s]) (documentText front ending body) =
      documentText front ending body' ∧ FreeOf s.environment.toList body'

theorem documentText_inj {front ending body body' : List Char}
    (h : documentText front ending body = documentText front ending body') : body = body' :=
  List.append_cancel_left (List.append_cancel_left (List.append_cancel_left h))

theorem pairs_eq_nil_iff {k : Nat} :
    (List.replicate k [FrameCommand.opening, .closing]).flatten = [] ↔ k = 0 := by
  cases k with
  | zero => simp
  | succ k => simp [List.replicate_succ]

theorem length_pairs (k : Nat) :
    (List.replicate k [FrameCommand.opening, .closing]).flatten.length = 2 * k := by
  simp [Nat.mul_comm]

section Place

variable {s : HoistedSection} {front ending body : List Char} {k : Nat}
  (h : HasEnvironments s front ending body k) {place : Hoistable}
  (hplace : place.IsFirst s.environment.toList (documentText front ending body))

include h hplace

/-- The line from which an environment is looked for is the one that begins the body, if that ends
    with a line feed alone, and else a line in the body. -/
theorem line_cases :
    (ending = ['\n'] ∧ place.front = front ∧ place.body s.environment.toList = body) ∨
      (ending = ['\r', '\n'] ∧ ∃ between,
        place.front = front ++ (documentCommand ++ (ending ++ between)) ∧
          body = between ++ (documentBegin ++ place.body s.environment.toList)) := by
  have hsplit : front ++ (documentCommand ++ (ending ++ body)) =
      place.front ++ (documentCommand ++ ('\n' :: place.body s.environment.toList)) := by
    have hdocument := hplace.document.split
    rwa [documentBegin_eq, List.append_assoc] at hdocument
  have hle : front.length ≤ place.front.length :=
    h.first_line place.front ['\n'] (place.body s.environment.toList) (Or.inl rfl) hsplit
  obtain ⟨more, hfront⟩ : ∃ more, place.front = front ++ more :=
    (List.prefix_of_prefix_length_le ⟨_, rfl⟩ ⟨_, hsplit.symm⟩ hle).imp fun _ => Eq.symm
  rw [hfront, List.append_assoc] at hsplit
  have hrest := List.append_cancel_left hsplit
  rcases h.ending_line with rfl | rfl
  · have hge : place.front.length ≤ front.length := by
      refine hplace.document.first front body ?_
      rw [documentBegin_eq, List.append_assoc]
      rfl
    have hnil : more = [] := by
      rw [hfront, List.length_append] at hge
      exact List.length_eq_zero_iff.1 (by omega)
    subst hnil
    rw [List.append_nil] at hfront
    exact Or.inl ⟨rfl, hfront, (List.cons.inj (List.append_cancel_left hrest)).2.symm⟩
  · refine Or.inr ⟨rfl, ?_⟩
    obtain ⟨tail, hcommand, htail⟩ :=
      isCommand_beginCommand (by decide : '\\' ∉ "document".toList)
    have hc : documentCommand = '\\' :: tail := hcommand
    cases more with
    | nil =>
      -- the line that is found would end with a carriage return, too
      have hreturn := (List.cons.inj (List.append_cancel_left hrest)).1
      exact absurd hreturn (by decide)
    | cons c more =>
      have hno : '\\' ∉ tail ++ ['\r', '\n'] := by
        rw [List.mem_append, not_or]
        exact ⟨htail, by decide⟩
      rw [hc] at hrest
      obtain ⟨hslash, hrest⟩ := List.cons.inj hrest
      have hline : (tail ++ ['\r', '\n']) ++ body =
          more ++ '\\' :: (tail ++ '\n' :: place.body s.environment.toList) := by
        rw [List.append_assoc]
        exact hrest
      obtain ⟨between, hbetween, hbody⟩ := exists_append_of_not_mem hno hline
      refine ⟨between, ?_, ?_⟩
      · rw [hfront, hc, hbetween, ← hslash]
        simp
      · rw [hbody, documentBegin_eq, hc]
        simp

/-- The body begins with whole lines, behind which the environment is looked for. -/
theorem exists_lines : ∃ lines, EndsLine lines ∧
    body = lines ++ place.body s.environment.toList ∧
      place.front ++ documentBegin = front ++ (documentCommand ++ (ending ++ lines)) := by
  rcases line_cases h hplace with ⟨rfl, hfront, hbody⟩ | ⟨rfl, between, hfront, hbody⟩
  · exact ⟨[], Or.inl rfl, hbody.symm, by rw [hfront, documentBegin_eq, List.append_nil]⟩
  · refine ⟨between ++ documentBegin, Or.inr ⟨between ++ documentCommand, ?_⟩, ?_, ?_⟩
    · rw [documentBegin_eq, List.append_assoc]
    · rw [hbody, List.append_assoc]
    · rw [hfront]
      simp only [List.append_assoc]

end Place

/-! ## 3. What is left -/

theorem endsLine_append {cs : List Char} (more : List Char) (h : EndsLine cs) (hne : cs ≠ []) :
    EndsLine (more ++ cs) := by
  obtain ⟨line, rfl⟩ := h.resolve_left hne
  exact Or.inr ⟨more ++ line, (List.append_assoc more line ['\n']).symm⟩

theorem endsLine_blank (cs : List Char) : EndsLine (cs ++ ['\n', '\n']) :=
  endsLine_append cs (Or.inr ⟨['\n'], rfl⟩) (by simp)

theorem endsLine_sectionCommand (title : String) : EndsLine (sectionCommand title) := by
  rw [sectionCommand_eq]
  exact endsLine_blank _

theorem endsLine_introductionCommand (s : HoistedSection) : EndsLine (introductionCommand s) := by
  unfold introductionCommand
  split
  · exact endsLine_sectionCommand _
  · exact Or.inl rfl

section Left

variable {s : HoistedSection} {front ending body : List Char} {k : Nat}

/-- What is not hoisted is left. -/
theorem leavesNone_iff_of_not_isFirst (h : HasEnvironments s front ending body k)
    (hnone : ¬ ∃ place : Hoistable,
      place.IsFirst s.environment.toList (documentText front ending body)) :
    LeavesNone s front ending body ↔ k = 0 := by
  rw [← pairs_eq_nil_iff, ← h.paired, frameCommands_eq_nil_iff, LeavesNone, restructure_hoistOne,
    hoist_of_not_isFirst hnone]
  constructor
  · rintro ⟨body', he, hfree⟩
    rwa [documentText_inj he]
  · exact fun hfree => ⟨body, rfl, hfree⟩

/-- What comes out of hoisting an environment is free of commands exactly when the lines before it,
    its content and the two texts around it are. -/
theorem leavesNone_iff_free (hline : '\n' ∉ s.environment.toList)
    (h : HasEnvironments s front ending body k) {place : Hoistable}
    (hplace : place.IsFirst s.environment.toList (documentText front ending body))
    {lines : List Char} (hlines : EndsLine lines)
    (hfront : place.front ++ documentBegin = front ++ (documentCommand ++ (ending ++ lines))) :
    LeavesNone s front ending body ↔ FreeOf s.environment.toList lines ∧
      FreeOf s.environment.toList place.content ∧
        FreeOf s.environment.toList (place.passed ++ place.back) := by
  have hout : restructure (hoistOnly [s]) (documentText front ending body) =
      documentText front ending (lines ++ (sectionCommand s.title ++
        ((place.content ++ ['\n', '\n']) ++ (introductionCommand s ++
          (place.passed ++ place.back))))) := by
    rw [restructure_hoistOne, hoist_of_isFirst hplace, hfront, documentText]
    simp only [List.append_assoc]
  have hblank : FreeOf s.environment.toList (place.content ++ ['\n', '\n']) ↔
      FreeOf s.environment.toList place.content := by
    have hfeeds : frameCommands s.environment.toList ['\n', '\n'] = [] :=
      frameCommands_append_of_not_mem (by decide : '\\' ∉ ['\n', '\n']) []
    rw [← frameCommands_eq_nil_iff, ← frameCommands_eq_nil_iff,
      frameCommands_append (stops_lineFeed hline _), hfeeds, List.append_nil]
  have hparts : FreeOf s.environment.toList (lines ++ (sectionCommand s.title ++
      ((place.content ++ ['\n', '\n']) ++ (introductionCommand s ++
        (place.passed ++ place.back))))) ↔ FreeOf s.environment.toList lines ∧
      FreeOf s.environment.toList place.content ∧
      FreeOf s.environment.toList (place.passed ++ place.back) := by
    rw [freeOf_lines_append hline hlines,
      freeOf_lines_append hline (endsLine_sectionCommand s.title),
      freeOf_lines_append hline (endsLine_blank place.content),
      freeOf_lines_append hline (endsLine_introductionCommand s), hblank]
    simp [h.title_free, h.introduction_free]
  rw [← hparts, LeavesNone, hout]
  constructor
  · rintro ⟨body', he, hfree⟩
    rwa [documentText_inj he]
  · exact fun hfree => ⟨_, rfl, hfree⟩

/-- The environment that is hoisted is one of those of the body. -/
theorem length_commands (hslash : '\\' ∉ s.environment.toList)
    (h : HasEnvironments s front ending body k) {lines : List Char}
    {place : Hoistable} (hline : '\n' ∉ s.environment.toList) (hlines : EndsLine lines)
    (hbody : body = lines ++ place.body s.environment.toList) :
    2 * k = (frameCommands s.environment.toList lines).length +
      (frameCommands s.environment.toList place.passed).length +
      (frameCommands s.environment.toList place.content).length +
      (frameCommands s.environment.toList place.back).length + 2 := by
  have hcommands : (List.replicate k [FrameCommand.opening, .closing]).flatten =
      frameCommands s.environment.toList lines ++
        (frameCommands s.environment.toList place.passed ++ .opening ::
          (frameCommands s.environment.toList place.content ++
            .closing :: frameCommands s.environment.toList place.back)) := by
    rw [← h.paired, hbody, frameCommands_lines hline hlines, Hoistable.body, Hoistable.behind,
      frameCommands_environment hslash]
  have hlength := congrArg List.length hcommands
  rw [length_pairs] at hlength
  simp only [List.length_append, List.length_cons] at hlength
  omega

/-- Where an environment is hoisted, no other one is left exactly when it is the only one and no
    command is made where it was. -/
theorem leavesNone_iff_of_isFirst (hslash : '\\' ∉ s.environment.toList)
    (hline : '\n' ∉ s.environment.toList) (h : HasEnvironments s front ending body k)
    {place : Hoistable}
    (hplace : place.IsFirst s.environment.toList (documentText front ending body)) :
    LeavesNone s front ending body ↔
      k = 1 ∧ FreeOf s.environment.toList (place.passed ++ place.back) := by
  obtain ⟨lines, hlines, hbody, hfront⟩ := exists_lines h hplace
  have hlength := length_commands hslash h hline hlines hbody
  rw [leavesNone_iff_free hline h hplace hlines hfront]
  constructor
  · rintro ⟨hl, hc, hpq⟩
    have hp : FreeOf s.environment.toList place.passed :=
      hpq.of_infix (List.prefix_append _ _).isInfix
    have hq : FreeOf s.environment.toList place.back :=
      hpq.of_infix (List.suffix_append _ _).isInfix
    rw [frameCommands_eq_nil_iff.2 hl, frameCommands_eq_nil_iff.2 hp,
      frameCommands_eq_nil_iff.2 hc, frameCommands_eq_nil_iff.2 hq] at hlength
    simp only [List.length_nil] at hlength
    exact ⟨by omega, hpq⟩
  · rintro ⟨rfl, hpq⟩
    refine ⟨?_, ?_, hpq⟩
    · exact frameCommands_eq_nil_iff.1 (List.length_eq_zero_iff.1 (by omega))
    · exact frameCommands_eq_nil_iff.1 (List.length_eq_zero_iff.1 (by omega))

/-- Nothing is hoisted from a body that holds no environment. -/
theorem ne_zero_of_isFirst (hslash : '\\' ∉ s.environment.toList)
    (hline : '\n' ∉ s.environment.toList) (h : HasEnvironments s front ending body k)
    {place : Hoistable}
    (hplace : place.IsFirst s.environment.toList (documentText front ending body)) : k ≠ 0 := by
  obtain ⟨lines, hlines, hbody, -⟩ := exists_lines h hplace
  have hlength := length_commands hslash h hline hlines hbody
  omega

/-- None is left exactly when there is none, or one that is found and whose place makes no new
    command. -/
theorem leavesNone_iff_exists (hslash : '\\' ∉ s.environment.toList)
    (hline : '\n' ∉ s.environment.toList) (h : HasEnvironments s front ending body k) :
    LeavesNone s front ending body ↔ k = 0 ∨ k = 1 ∧ ∃ place : Hoistable,
      place.IsFirst s.environment.toList (documentText front ending body) ∧
        FreeOf s.environment.toList (place.passed ++ place.back) := by
  by_cases hfound : ∃ place : Hoistable,
      place.IsFirst s.environment.toList (documentText front ending body)
  · obtain ⟨place, hplace⟩ := hfound
    rw [leavesNone_iff_of_isFirst hslash hline h hplace]
    constructor
    · rintro ⟨hk, hfree⟩
      exact Or.inr ⟨hk, place, hplace, hfree⟩
    · rintro (hk | ⟨hk, other, hother, hfree⟩)
      · exact absurd hk (ne_zero_of_isFirst hslash hline h hplace)
      · have hsame : some place = some other :=
          (Hoistable.find?_eq_some_iff.2 hplace).symm.trans (Hoistable.find?_eq_some_iff.2 hother)
        rw [Option.some.inj hsame]
        exact ⟨hk, hfree⟩
  · rw [leavesNone_iff_of_not_isFirst h hfound]
    refine ⟨Or.inl, ?_⟩
    rintro (hk | ⟨-, place, hplace, -⟩)
    · exact hk
    · exact absurd ⟨place, hplace⟩ hfound

/-- The only environment of a body that begins behind a line feed is the first one of the
    document. -/
theorem isFirst_of_body (hslash : '\\' ∉ s.environment.toList)
    (hline : '\n' ∉ s.environment.toList) (h : HasEnvironments s front ['\n'] body 1)
    {place : Hoistable} (hfront : place.front = front)
    (hbody : body = place.body s.environment.toList) :
    place.IsFirst s.environment.toList (documentText front ['\n'] body) := by
  have hlength := length_commands hslash h hline (Or.inl rfl) hbody
  have hpassed : FreeOf s.environment.toList place.passed :=
    frameCommands_eq_nil_iff.1 (List.length_eq_zero_iff.1 (by omega))
  have hcontent : FreeOf s.environment.toList place.content :=
    frameCommands_eq_nil_iff.1 (List.length_eq_zero_iff.1 (by omega))
  refine ⟨⟨?_, fun before behind he => ?_⟩, ?_, ?_⟩
  · rw [hfront, ← hbody, documentBegin_eq, documentText, List.append_assoc]
  · rw [hfront]
    refine h.first_line before ['\n'] behind (Or.inl rfl) ?_
    rw [he, documentBegin_eq, documentText, List.append_assoc]
  · exact (isCommand_beginCommand hslash).firstAt hpassed.1 _
  · exact (isCommand_endCommand hslash).firstAt hcontent.2 _

/-- Behind a line feed the only environment is found, wherever it stands in the body. -/
theorem exists_isFirst_iff (hslash : '\\' ∉ s.environment.toList)
    (hline : '\n' ∉ s.environment.toList) (h : HasEnvironments s front ['\n'] body 1) :
    (∃ place : Hoistable,
        place.IsFirst s.environment.toList (documentText front ['\n'] body) ∧
          FreeOf s.environment.toList (place.passed ++ place.back)) ↔
      ∃ before content behind, body = before ++ (beginCommand s.environment.toList ++
          (content ++ (endCommand s.environment.toList ++ behind))) ∧
        FreeOf s.environment.toList (before ++ behind) := by
  constructor
  · rintro ⟨place, hplace, hfree⟩
    rcases line_cases h hplace with ⟨-, -, hbody⟩ | ⟨hreturn, -⟩
    · exact ⟨place.passed, place.content, place.back, hbody.symm, hfree⟩
    · exact absurd hreturn (by decide)
  · rintro ⟨before, content, behind, hbody, hfree⟩
    exact ⟨⟨front, before, content, behind⟩, isFirst_of_body hslash hline h rfl hbody, hfree⟩

/-- Behind a carriage return and a line feed nothing is found, if no later line begins a body. -/
theorem not_isFirst_of_return (h : HasEnvironments s front ['\r', '\n'] body k)
    (hno : ¬ documentBegin <:+: body) (place : Hoistable) :
    ¬ place.IsFirst s.environment.toList (documentText front ['\r', '\n'] body) := by
  intro hplace
  rcases line_cases h hplace with ⟨hfeed, -⟩ | ⟨-, between, -, hbody⟩
  · exact absurd hfeed (by decide)
  · refine hno ⟨between, place.body s.environment.toList, ?_⟩
    rw [hbody, List.append_assoc]

/-- **When hoisting leaves no environment.** In a document whose body has `k` environments of a
    section, side by side, none is left exactly when there is none, or one that is found and whose
    place makes no new command. Where the line that begins the body ends with a line feed alone,
    the only environment is found; where it ends with a carriage return and a line feed, and no
    other line of the kind is in the body, none is. -/
theorem leavesNone_iff (hslash : '\\' ∉ s.environment.toList)
    (hline : '\n' ∉ s.environment.toList) (h : HasEnvironments s front ending body k) :
    (LeavesNone s front ending body ↔ k = 0 ∨ k = 1 ∧ ∃ place : Hoistable,
        place.IsFirst s.environment.toList (documentText front ending body) ∧
          FreeOf s.environment.toList (place.passed ++ place.back)) ∧
      (ending = ['\n'] → (LeavesNone s front ending body ↔ k = 0 ∨ k = 1 ∧
        ∃ before content behind, body = before ++ (beginCommand s.environment.toList ++
            (content ++ (endCommand s.environment.toList ++ behind))) ∧
          FreeOf s.environment.toList (before ++ behind))) ∧
      (ending = ['\r', '\n'] → ¬ documentBegin <:+: body →
        (LeavesNone s front ending body ↔ k = 0)) := by
  have hiff := leavesNone_iff_exists hslash hline h
  refine ⟨hiff, ?_, ?_⟩
  · rintro rfl
    rw [hiff]
    refine or_congr_right (and_congr_right fun hk => ?_)
    subst hk
    exact exists_isFirst_iff hslash hline h
  · rintro rfl hno
    rw [hiff]
    refine ⟨?_, Or.inl⟩
    rintro (hk | ⟨-, place, hplace, -⟩)
    · exact hk
    · exact absurd hplace (not_isFirst_of_return h hno place)

end Left

/-- A section made from one environment, with no introduction behind it. -/
def summarySection : HoistedSection := ⟨"summary", "Summary", none⟩

/-- What stands before the body of an article. -/
def articleFront : List Char := "\\documentclass\x7barticle\x7d\n".toList

/-- A body with one environment, behind other text. -/
def oneSummary : List Char := "\nA\n\\begin\x7bsummary\x7dB\\end\x7bsummary\x7d\nC".toList

/-- A body with two environments, one behind the other. -/
def twoSummaries : List Char :=
  ("\\begin\x7bsummary\x7dA\\end\x7bsummary\x7d\n" ++
    "\\begin\x7bsummary\x7dB\\end\x7bsummary\x7d").toList

/-- The only environment of a body is hoisted. -/
theorem leavesNone_iff_summary :
    HasEnvironments summarySection articleFront ['\n'] oneSummary 1 ∧
      LeavesNone summarySection articleFront ['\n'] oneSummary := by
  have hone : HasEnvironments summarySection articleFront ['\n'] oneSummary 1 :=
    { ending_line := Or.inl rfl
      first_line := fun _ _ _ _ he => front_le_of_not_infix (by decide +kernel) he
      title_free := by decide +kernel
      introduction_free := by decide +kernel
      paired := by decide +kernel }
  obtain ⟨-, hfeed, -⟩ := leavesNone_iff (by decide +kernel) (by decide +kernel) hone
  refine ⟨hone, (hfeed rfl).2 (Or.inr ⟨rfl, "\nA\n".toList, ['B'], ['\n', 'C'], ?_, ?_⟩)⟩
  · decide +kernel
  · decide +kernel

/-- **The second environment of a section is left in the body.** -/
theorem not_leavesNone_twice :
    ¬ ∀ s front ending body k, HasEnvironments s front ending body k →
      LeavesNone s front ending body := by
  intro hall
  have htwo : HasEnvironments summarySection [] ['\n'] twoSummaries 2 :=
    { ending_line := Or.inl rfl
      first_line := fun _ _ _ _ _ => Nat.zero_le _
      title_free := by decide +kernel
      introduction_free := by decide +kernel
      paired := by decide +kernel }
  obtain ⟨body', he, hfree⟩ := hall _ _ _ _ _ htwo
  have hleft : restructure (hoistOnly [summarySection]) (documentText [] ['\n'] twoSummaries) =
      documentText [] ['\n'] ("\\section\x7bSummary\x7d\n\nA\n\n\n".toList ++
        "\\begin\x7bsummary\x7dB\\end\x7bsummary\x7d".toList) := by
    decide +kernel
  rw [← documentText_inj (hleft.symm.trans he)] at hfree
  exact absurd hfree (by decide +kernel)

end Galley.Markup
