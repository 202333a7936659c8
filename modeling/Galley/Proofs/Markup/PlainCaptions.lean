import Galley.Markup.TableCaption
import Galley.Proofs.Text.Words
import Mathlib.Logic.Function.Iterate

/-!
# Plain captions

Commands with one argument are taken away in rounds. A round takes those whose argument has no
braces, and what it leaves is a caption of the same text with fewer commands, since in the text of a
caption every backslash escapes a special character and so none begins a command when the braces
around it are gone. Rounds go on as long as they change something, and when they end only text is
left. Main statement: `plainCaption_source`.
-/

namespace Galley.Markup

open Galley.Text

/-! ## 1. Captions with commands -/

/-- There are no braces, and directly behind every backslash stands a special character. -/
def isCaptionText : List Char → Bool
  | [] => true
  | c :: cs => !isBrace c && (c != '\\' || cs.head?.any isSpecial) && isCaptionText cs

/-- Text of a caption outside of its commands. -/
structure CaptionText where
  chars : List Char
  isText : isCaptionText chars = true := by decide

/-- How a command with one argument begins. -/
structure CommandHead where
  name : List Char
  starred : Bool := false
  name_ne_nil : name ≠ [] := by decide
  name_isAlpha : name.all Char.isAlpha = true := by decide

/-- A caption with commands in it, each with one argument, which is a caption again. -/
inductive CaptionMarkup where
  | empty
  | text (t : CaptionText) (behind : CaptionMarkup)
  | command (head : CommandHead) (argument behind : CaptionMarkup)

/-- What stands between the backslash of a command and its argument. -/
def CommandHead.source (head : CommandHead) : List Char :=
  head.name ++ if head.starred then ['*'] else []

namespace CaptionMarkup

/-- The caption as it is written. -/
def source : CaptionMarkup → List Char
  | empty => []
  | text t behind => t.chars ++ behind.source
  | command head argument behind =>
    '\\' :: (head.source ++ '\x7b' :: (argument.source ++ '\x7d' :: behind.source))

/-- The text of a caption: what stands in it outside of commands and in their arguments. -/
def leaves : CaptionMarkup → List Char
  | empty => []
  | text t behind => t.chars ++ behind.leaves
  | command _ argument behind => argument.leaves ++ behind.leaves

/-- There is no command in the caption. -/
def isFlat : CaptionMarkup → Bool
  | empty => true
  | text _ behind => behind.isFlat
  | command _ _ _ => false

/-- One caption behind another. -/
def append : CaptionMarkup → CaptionMarkup → CaptionMarkup
  | empty, other => other
  | text t behind, other => text t (behind.append other)
  | command head argument behind, other => command head argument (behind.append other)

/-- The caption without the commands that have no command in their argument. -/
def round : CaptionMarkup → CaptionMarkup
  | empty => empty
  | text t behind => text t behind.round
  | command head argument behind =>
    if argument.isFlat then argument.append behind.round
    else command head argument.round behind.round

end CaptionMarkup

/-! ## 2. Text of a caption -/

section Text

variable {cs ds : List Char}

theorem isCaptionText_cons {c : Char} :
    isCaptionText (c :: cs) = true ↔
      isBrace c = false ∧ (c = '\\' → cs.head?.any isSpecial = true) ∧
        isCaptionText cs = true := by
  rw [isCaptionText]
  by_cases hc : c = '\\' <;> simp [hc, and_assoc]

theorem isCaptionText_append (h : isCaptionText cs = true) (h' : isCaptionText ds = true) :
    isCaptionText (cs ++ ds) = true := by
  induction cs with
  | nil => exact h'
  | cons c cs ih =>
    obtain ⟨hbrace, hescape, hcs⟩ := isCaptionText_cons.1 h
    refine isCaptionText_cons.2 ⟨hbrace, fun hc => ?_, ih hcs⟩
    have hspecial := hescape hc
    cases cs with
    | nil => cases hspecial
    | cons d cs => exact hspecial

theorem not_isBrace_of_captionText (h : isCaptionText cs = true) :
    ∀ c ∈ cs, isBrace c = false := by
  induction cs with
  | nil => simp
  | cons c cs ih =>
    obtain ⟨hbrace, -, hcs⟩ := isCaptionText_cons.1 h
    exact List.forall_mem_cons.2 ⟨hbrace, ih hcs⟩

theorem unwrapInnermost_of_ne {c : Char} (h : c ≠ '\\') (cs : List Char) :
    unwrapInnermost (c :: cs) = none := by
  rw [unwrapInnermost, if_neg (by simp [h])]

theorem not_isAlpha_of_isSpecial {c : Char} (h : isSpecial c = true) : c.isAlpha = false := by
  simp only [isSpecial, Bool.or_eq_true, decide_eq_true_eq] at h
  rcases h with (((rfl | rfl) | rfl) | rfl) | rfl <;> decide

/-- An escaped character is no command. -/
theorem unwrapInnermost_escape (h : cs.head?.any isSpecial = true) (ds : List Char) :
    unwrapInnermost ('\\' :: (cs ++ ds)) = none := by
  cases cs with
  | nil => cases h
  | cons c cs =>
    have hname : nameGoesOn (c :: cs ++ ds) = false := not_isAlpha_of_isSpecial h
    rw [unwrapInnermost, hname, if_neg (by simp)]

/-- A round leaves text without backslashes as it is. -/
theorem replaceAll_of_no_backslash (h : '\\' ∉ cs) (ds : List Char) :
    replaceAll unwrapInnermost (cs ++ ds) = cs ++ replaceAll unwrapInnermost ds := by
  induction cs with
  | nil => rfl
  | cons c cs ih =>
    obtain ⟨hc, hcs⟩ := not_or.1 (mt List.mem_cons.2 h)
    rw [List.cons_append, replaceAll_cons_none (unwrapInnermost_of_ne (Ne.symm hc) _), ih hcs]
    rfl

/-- A round leaves the text of a caption as it is, whatever follows. -/
theorem replaceAll_captionText (h : isCaptionText cs = true) (ds : List Char) :
    replaceAll unwrapInnermost (cs ++ ds) = cs ++ replaceAll unwrapInnermost ds := by
  induction cs with
  | nil => rfl
  | cons c cs ih =>
    obtain ⟨-, hescape, hcs⟩ := isCaptionText_cons.1 h
    have hnone : unwrapInnermost (c :: (cs ++ ds)) = none := by
      by_cases hc : c = '\\'
      · rw [hc]
        exact unwrapInnermost_escape (hescape hc) ds
      · exact unwrapInnermost_of_ne hc _
    rw [List.cons_append, replaceAll_cons_none hnone, ih hcs]
    rfl

/-- Taking the escapes out of the text of a caption takes all its backslashes out. -/
theorem replaceAll_unescapeSpecial (h : isCaptionText cs = true) :
    replaceAll unescapeSpecial cs = cs.filter (· != '\\') := by
  induction hn : cs.length using Nat.strong_induction_on generalizing cs with
  | _ n ih =>
    cases cs with
    | nil => exact replaceAll_nil _
    | cons c cs =>
      obtain ⟨-, hescape, hcs⟩ := isCaptionText_cons.1 h
      rw [List.length_cons] at hn
      by_cases hc : c = '\\'
      · cases cs with
        | nil => cases hescape hc
        | cons d cs =>
          have hd : isSpecial d = true := hescape hc
          have hne : d ≠ '\\' := by
            rintro rfl
            cases hd
          have hread : unescapeSpecial (c :: d :: cs) = some ([d], cs) := by
            rw [unescapeSpecial, hc, hd]
            rfl
          have hrest := ih cs.length (by rw [← hn, List.length_cons]; omega)
            (isCaptionText_cons.1 hcs).2.2 rfl
          rw [replaceAll_cons_some hread (Nat.le_succ _), hrest, hc,
            List.filter_cons_of_neg (by simp), List.filter_cons_of_pos (by simpa using hne)]
          rfl
      · have hread : unescapeSpecial (c :: cs) = none := by
          cases cs with
          | nil => rfl
          | cons d cs => rw [unescapeSpecial, decide_eq_false hc]; rfl
        rw [replaceAll_cons_none hread, ih cs.length (by omega) hcs rfl,
          List.filter_cons_of_pos (by simpa using hc)]

end Text

/-! ## 3. Commands -/

section Arguments

variable {cs : List Char}

theorem breakAt_isBrace (h : ∀ c ∈ cs, isBrace c = false) {b : Char} (hb : isBrace b = true)
    (rest : List Char) : breakAt isBrace (cs ++ b :: rest) = (cs, b :: rest) := by
  have hall : ∀ c ∈ cs, (!isBrace c) = true := fun c hc => by rw [h c hc]; rfl
  have hstop : ¬(!isBrace b) = true := by simp [hb]
  rw [breakAt, List.takeWhile_append_of_pos hall, List.dropWhile_append_of_pos hall,
    List.takeWhile_cons, List.dropWhile_cons, if_neg hstop, if_neg hstop, List.append_nil]

/-- An argument without braces is read up to the brace that closes it. -/
theorem plainArgument?_closed (h : ∀ c ∈ cs, isBrace c = false) (rest : List Char) :
    plainArgument? (cs ++ '\x7d' :: rest) = some (cs, rest) := by
  rw [plainArgument?, breakAt_isBrace h rfl]
  rfl

/-- An argument in which a brace is opened is not read. -/
theorem plainArgument?_opened (h : ∀ c ∈ cs, isBrace c = false) (rest : List Char) :
    plainArgument? (cs ++ '\x7b' :: rest) = none := by
  rw [plainArgument?, breakAt_isBrace h rfl]
  rfl

theorem eq_of_plainArgument? {argument rest : List Char}
    (h : plainArgument? cs = some (argument, rest)) : cs = argument ++ '\x7d' :: rest := by
  rw [plainArgument?] at h
  have hcs := breakAt_append isBrace cs
  split at h
  · next front b behind hbreak =>
    split at h
    · next hb =>
      cases h
      rw [hbreak, hb] at hcs
      exact hcs.symm
    · cases h
  · cases h

end Arguments

namespace CommandHead

variable (head : CommandHead)

theorem backslash_not_mem_source : '\\' ∉ head.source := by
  intro h
  rcases List.mem_append.1 h with hname | hstar
  · exact absurd (List.all_eq_true.1 head.name_isAlpha _ hname) (by decide)
  · split at hstar
    · exact absurd (List.mem_singleton.1 hstar) (by decide)
    · cases hstar

theorem not_isBrace_source : ∀ c ∈ head.source, isBrace c = false := by
  intro c hc
  rcases List.mem_append.1 hc with hname | hstar
  · have halpha := List.all_eq_true.1 head.name_isAlpha c hname
    refine Bool.eq_false_iff.2 fun hbrace => ?_
    rw [isBrace, Bool.or_eq_true, decide_eq_true_eq, decide_eq_true_eq] at hbrace
    rcases hbrace with rfl | rfl <;> exact absurd halpha (by decide)
  · split at hstar
    · rw [List.mem_singleton.1 hstar]
      rfl
    · cases hstar

/-- Behind its head a command is looked at from its opening brace on. -/
theorem unwrapInnermost_head (rest : List Char) :
    unwrapInnermost ('\\' :: (head.source ++ '\x7b' :: rest)) = plainArgument? rest := by
  obtain ⟨c, cs, hname⟩ := List.exists_cons_of_ne_nil head.name_ne_nil
  have halpha := List.all_eq_true.1 head.name_isAlpha
  have hgoes : nameGoesOn (head.source ++ '\x7b' :: rest) = true := by
    rw [source, hname]
    exact halpha c (by rw [hname]; exact List.mem_cons_self)
  have hdrop : (head.source ++ '\x7b' :: rest).dropWhile Char.isAlpha =
      (if head.starred then ['*'] else []) ++ '\x7b' :: rest := by
    rw [source, List.append_assoc, List.dropWhile_append_of_pos halpha]
    split <;> rfl
  have hstar : skipStar ((if head.starred then ['*'] else []) ++ '\x7b' :: rest) =
      '\x7b' :: rest := by
    split <;> rfl
  rw [unwrapInnermost, hgoes, if_pos (by simp), hdrop, hstar]
  rfl

end CommandHead

namespace CaptionMarkup

theorem isCaptionText_leaves (c : CaptionMarkup) : isCaptionText c.leaves = true := by
  induction c with
  | empty => rfl
  | text t behind ih => exact isCaptionText_append t.isText ih
  | command head argument behind iha ihb => exact isCaptionText_append iha ihb

/-- A caption without commands is its text. -/
theorem source_of_isFlat {c : CaptionMarkup} (h : c.isFlat = true) : c.source = c.leaves := by
  induction c with
  | empty => rfl
  | text t behind ih => rw [source, leaves, ih h]
  | command head argument behind => cases h

theorem source_append (c d : CaptionMarkup) : (c.append d).source = c.source ++ d.source := by
  induction c with
  | empty => rfl
  | text t behind ih => rw [append, source, source, ih, List.append_assoc]
  | command head argument behind iha ihb =>
    rw [append, source, source, ihb]
    simp

theorem leaves_append (c d : CaptionMarkup) : (c.append d).leaves = c.leaves ++ d.leaves := by
  induction c with
  | empty => rfl
  | text t behind ih => rw [append, leaves, leaves, ih, List.append_assoc]
  | command head argument behind iha ihb => rw [append, leaves, leaves, ihb, List.append_assoc]

/-- A caption with commands has an opening brace as its first brace. -/
theorem exists_opening {c : CaptionMarkup} (h : c.isFlat = false) :
    ∃ front rest, c.source = front ++ '\x7b' :: rest ∧ ∀ d ∈ front, isBrace d = false := by
  induction c with
  | empty => cases h
  | text t behind ih =>
    obtain ⟨front, rest, hsource, hfront⟩ := ih h
    refine ⟨t.chars ++ front, rest, by rw [source, hsource, List.append_assoc], ?_⟩
    exact List.forall_mem_append.2 ⟨not_isBrace_of_captionText t.isText, hfront⟩
  | command head argument behind =>
    refine ⟨'\\' :: head.source, _, rfl, List.forall_mem_cons.2 ⟨rfl, ?_⟩⟩
    exact head.not_isBrace_source

/-! ## 4. Rounds -/

/-- **A round takes the innermost commands away** and leaves everything else. -/
theorem replaceAll_source (c : CaptionMarkup) (rest : List Char) :
    replaceAll unwrapInnermost (c.source ++ rest) =
      c.round.source ++ replaceAll unwrapInnermost rest := by
  induction c generalizing rest with
  | empty => rfl
  | text t behind ih =>
    rw [source, round, source, List.append_assoc, List.append_assoc,
      replaceAll_captionText t.isText, ih]
  | command head argument behind iha ihb =>
    have hsource : (command head argument behind).source ++ rest = '\\' :: (head.source ++
        '\x7b' :: (argument.source ++ '\x7d' :: (behind.source ++ rest))) := by
      rw [source]
      simp
    rw [hsource, round]
    cases hflat : argument.isFlat with
    | true =>
      have hbraces : ∀ d ∈ argument.source, isBrace d = false := by
        rw [source_of_isFlat hflat]
        exact not_isBrace_of_captionText argument.isCaptionText_leaves
      have hread := (head.unwrapInnermost_head _).trans
        (plainArgument?_closed hbraces (behind.source ++ rest))
      rw [if_pos rfl, replaceAll_cons_some hread (by simp; omega), ihb, source_append,
        List.append_assoc]
    | false =>
      obtain ⟨front, back, hargument, hfront⟩ := exists_opening hflat
      have hread : unwrapInnermost ('\\' :: (head.source ++
          '\x7b' :: (argument.source ++ '\x7d' :: (behind.source ++ rest)))) = none := by
        rw [head.unwrapInnermost_head, hargument, List.append_assoc]
        exact plainArgument?_opened hfront _
      -- nothing is found at the head, so it is copied, and the argument is read as it stands
      have hcopy :
          head.source ++ '\x7b' :: (argument.source ++ '\x7d' :: (behind.source ++ rest)) =
            (head.source ++ ['\x7b']) ++
              (argument.source ++ (['\x7d'] ++ (behind.source ++ rest))) := by
        simp
      rw [if_neg Bool.false_ne_true, replaceAll_cons_none hread, hcopy,
        replaceAll_of_no_backslash (by simp [head.backslash_not_mem_source]), iha,
        replaceAll_of_no_backslash (by decide), ihb, source]
      simp

theorem round_of_isFlat {c : CaptionMarkup} (h : c.isFlat = true) : c.round = c := by
  induction c with
  | empty => rfl
  | text t behind ih => rw [round, ih h]
  | command head argument behind => cases h

theorem leaves_round (c : CaptionMarkup) : c.round.leaves = c.leaves := by
  induction c with
  | empty => rfl
  | text t behind ih => rw [round, leaves, leaves, ih]
  | command head argument behind iha ihb =>
    rw [round]
    split
    · rw [leaves_append, ihb, leaves]
    · rw [leaves, leaves, iha, ihb]

theorem length_round_le (c : CaptionMarkup) : c.round.source.length ≤ c.source.length := by
  induction c with
  | empty => exact Nat.le_refl _
  | text t behind ih =>
    rw [round, source, source, List.length_append, List.length_append]
    omega
  | command head argument behind iha ihb =>
    rw [round]
    split
    · rw [source_append, source]
      simp only [List.length_append, List.length_cons]
      omega
    · simp only [source, List.length_append, List.length_cons]
      omega

/-- A round makes a caption with commands shorter. -/
theorem length_round_lt {c : CaptionMarkup} (h : c.isFlat = false) :
    c.round.source.length < c.source.length := by
  induction c with
  | empty => cases h
  | text t behind ih =>
    have hlt := ih h
    rw [round, source, source, List.length_append, List.length_append]
    omega
  | command head argument behind iha ihb =>
    have hbehind := behind.length_round_le
    rw [round]
    split
    · rw [source_append, source]
      simp only [List.length_append, List.length_cons]
      omega
    · next hflat =>
      have hargument := iha (by simpa using hflat)
      simp only [source, List.length_append, List.length_cons]
      omega

/-- **Rounds leave the text of a caption.** -/
theorem unwrapAll_source (c : CaptionMarkup) : unwrapAll c.source = c.leaves := by
  induction hn : c.source.length using Nat.strong_induction_on generalizing c with
  | _ n ih =>
    have hround : replaceAll unwrapInnermost c.source = c.round.source := by
      simpa [replaceAll_nil] using c.replaceAll_source []
    rw [unwrapAll, hround]
    cases hflat : c.isFlat with
    | true =>
      rw [round_of_isFlat hflat, if_neg (Nat.lt_irrefl _), source_of_isFlat hflat]
    | false =>
      have hlt := length_round_lt hflat
      rw [if_pos hlt, ih _ (hn ▸ hlt) c.round rfl, leaves_round]

end CaptionMarkup

/-! ## 5. The end of the rounds -/

theorem length_skipStar_le (cs : List Char) : (skipStar cs).length ≤ cs.length := by
  cases cs with
  | nil => exact Nat.le_refl _
  | cons c cs =>
    rw [skipStar]
    split
    · exact Nat.le_succ _
    · exact Nat.le_refl _

/-- What is put in place of a command is shorter than the command. -/
theorem unwrapInnermost_length {cs out rest : List Char}
    (h : unwrapInnermost cs = some (out, rest)) : out.length + rest.length < cs.length := by
  cases cs with
  | nil => cases h
  | cons c cs =>
    rw [unwrapInnermost] at h
    split at h
    · have hdrop := (List.dropWhile_sublist Char.isAlpha (l := cs)).length_le
      have hskip := length_skipStar_le (cs.dropWhile Char.isAlpha)
      split at h
      · cases h
      · next b behind hbehind =>
        split at h
        · have hlength := congrArg List.length (eq_of_plainArgument? h)
          rw [hbehind, List.length_cons] at hskip
          simp only [List.length_append, List.length_cons] at hlength ⊢
          omega
        · cases h
    · cases h

/-- A replacement by what is shorter leaves a text as it is or makes it shorter. -/
theorem replaceAll_eq_self_or_length_lt {rule : Rule}
    (h : ∀ cs out rest, rule cs = some (out, rest) → out.length + rest.length < cs.length)
    (cs : List Char) :
    replaceAll rule cs = cs ∨ (replaceAll rule cs).length < cs.length := by
  induction hn : cs.length using Nat.strong_induction_on generalizing cs with
  | _ n ih =>
    cases cs with
    | nil => exact Or.inl (replaceAll_nil rule)
    | cons c cs =>
      rw [List.length_cons] at hn
      cases hread : rule (c :: cs) with
      | none =>
        rw [replaceAll_cons_none hread, ← hn]
        exact (ih cs.length (by omega) cs rfl).imp (congrArg (c :: ·)) Nat.succ_lt_succ
      | some p =>
        obtain ⟨out, rest⟩ := p
        have hlt := h _ _ _ hread
        rw [List.length_cons] at hlt
        have hrest : (replaceAll rule rest).length ≤ rest.length := by
          rcases ih rest.length (by omega) rest rfl with he | hshorter
          · rw [he]
          · exact Nat.le_of_lt hshorter
        rw [replaceAll_cons_some hread (by omega), List.length_append]
        exact Or.inr (by omega)

/-- Rounds over `cs` end after `n` of them with `out`: every one of them changes something, and one
    more would not. -/
structure RoundsEnd (cs : List Char) (n : Nat) (out : List Char) : Prop where
  result : (replaceAll unwrapInnermost)^[n] cs = out
  changes : ∀ m < n,
    (replaceAll unwrapInnermost)^[m + 1] cs ≠ (replaceAll unwrapInnermost)^[m] cs
  settled : replaceAll unwrapInnermost out = out

/-- **Rounds end**, over every text. -/
theorem exists_roundsEnd (cs : List Char) : ∃ n ≤ cs.length, RoundsEnd cs n (unwrapAll cs) := by
  induction hn : cs.length using Nat.strong_induction_on generalizing cs with
  | _ n ih =>
    rw [unwrapAll]
    rcases replaceAll_eq_self_or_length_lt (fun _ _ _ => unwrapInnermost_length) cs with heq | hlt
    · rw [if_neg (by rw [heq]; exact Nat.lt_irrefl _)]
      exact ⟨0, Nat.zero_le _, rfl, fun m hm => absurd hm (Nat.not_lt_zero m), heq⟩
    · obtain ⟨m, hm, hend⟩ := ih _ (hn ▸ hlt) _ rfl
      rw [if_pos hlt]
      refine ⟨m + 1, by omega, hend.result, fun i hi => ?_, hend.settled⟩
      cases i with
      | zero =>
        intro he
        have he : replaceAll unwrapInnermost cs = cs := he
        rw [he] at hlt
        exact Nat.lt_irrefl _ hlt
      | succ i => exact hend.changes i (Nat.lt_of_succ_lt_succ hi)

/-- **A caption is shown as the text that stands in it**, in and outside of its commands, to any
    depth: without the backslashes of its escapes, with ties read as blanks, and with one space for
    every run of blanks between its words. The rounds in which commands are taken away end over
    every text, after no more of them than it has characters. -/
theorem plainCaption_source :
    (∀ cs : List Char, ∃ n ≤ cs.length, RoundsEnd cs n (unwrapAll cs)) ∧
      ∀ c : CaptionMarkup, plainCaption (String.ofList c.source) =
        String.ofList ([' '].intercalate (words (untie (c.leaves.filter (· != '\\'))))) := by
  refine ⟨exists_roundsEnd, fun c => ?_⟩
  rw [plainCaption, String.toList_ofList, c.unwrapAll_source,
    replaceAll_unescapeSpecial c.isCaptionText_leaves, squeezeBlanks_trimChars]

/-- A caption with a command inside a command, escapes in and outside of them, a tie and a line
    feed. -/
def nestedCaption : CaptionMarkup :=
  .command { name := "textbf".toList }
    (.command { name := "emph".toList, starred := true }
      (.text { chars := "Effect\\#".toList } .empty)
      (.text { chars := " \n".toList } .empty))
    (.text { chars := "sizes (50\\%) \\&~more ".toList } .empty)

theorem plainCaption_nestedCaption :
    nestedCaption.source =
        "\\textbf\x7b\\emph*\x7bEffect\\#\x7d \n\x7dsizes (50\\%) \\&~more ".toList ∧
      plainCaption (String.ofList nestedCaption.source) = "Effect# sizes (50%) & more" := by
  refine ⟨by decide +kernel, (plainCaption_source.2 nestedCaption).trans ?_⟩
  decide +kernel

end Galley.Markup
