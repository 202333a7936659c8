import Galley.Proofs.Markup.Layout
import Galley.Proofs.Markup.Replacement
import Galley.Proofs.Markup.Shown

/-!
# The segments of markup with regions

Markup as a sequence of segments whose commands are those inside regions: cleaning writes labels in
their place and keeps every other character. A place at which a plain command begins is in a region
exactly when the segments have a command there. Main statements: `inRegion_of_command` and
`not_inRegion_of_char`.
-/

namespace Galley.Markup

open Galley.Text

/-! ## 1. Segments of pieces -/

/-- What stands behind the text of an argument. -/
def Argument.tail (a : Argument) : List Char := if a.closed then ['\x7d'] else []

/-- The segments of a piece, with the commands inside a region. -/
def Piece.segments : Piece → List Segment
  | .body cs => chars cs
  | .region a => chars a.head ++ (Markup.segments a.text ++ chars a.tail)

/-- The segments of pieces, with the commands inside regions. -/
def segmentsOf (ps : List Piece) : List Segment := ps.flatMap Piece.segments

@[simp] theorem writtenOf_append (ss ts : List Segment) :
    writtenOf (ss ++ ts) = writtenOf ss ++ writtenOf ts := shownOf_append ss ts

@[simp] theorem writtenOf_chars (cs : List Char) : writtenOf (chars cs) = cs := shownOf_chars cs

theorem writtenOf_segmentsOf (ps : List Piece) :
    writtenOf (segmentsOf ps) = ps.flatMap Piece.source := by
  induction ps with
  | nil => rfl
  | cons p ps ih =>
    rw [segmentsOf, List.flatMap_cons, writtenOf_append, List.flatMap_cons, ← ih, segmentsOf]
    cases p with
    | body cs => rw [Piece.segments, writtenOf_chars, Piece.source]
    | region a =>
      simp [Piece.segments, writtenOf_segments, Piece.source, Argument.source, Argument.tail]

/-- The segments of markup are written as the markup is. -/
theorem writtenOf_pieces (cs : List Char) : writtenOf (segmentsOf (pieces cs)) = cs := by
  rw [writtenOf_segmentsOf, source_pieces]

/-- What is written in the place of a command, when `shown` is what an occurrence shows. -/
def replacement (shown : Occurrence → String) (c : Command) : List Char :=
  (String.join (c.occurrences.map shown)).toList

theorem replacement_eq (shown : Occurrence → String) (c : Command) :
    replacement shown c = c.occurrences.flatMap fun o => (shown o).toList := by
  rw [replacement, String.toList_join, List.flatMap_map]

/-- What is escaped for each occurrence is escaped as a whole. -/
theorem replacement_escapedText (label : Occurrence → String) (c : Command) :
    replacement (fun o => escapedText o (label o)) c =
      escapeSpecials (replacement (fun o => Label.inline o (label o)) c) := by
  rw [replacement_eq, replacement_eq, escapeSpecials, List.flatMap_assoc]
  simp only [escapedText, String.toList_ofList]
  rfl

theorem refill_map (shown : Occurrence → String) (ss : List Segment) :
    refill ss ((ss.flatMap Segment.occurrences).map shown) = shownOf (replacement shown) ss := by
  induction ss with
  | nil => rfl
  | cons s ss ih =>
    cases s with
    | char c => exact congrArg (c :: ·) ih
    | command c =>
      have hlen : c.occurrences.length = (c.occurrences.map shown).length := by simp
      rw [List.flatMap_cons, List.map_append, refill, Segment.occurrences, hlen, List.take_left,
        List.drop_left, ih]
      rfl

/-- Putting texts in the places of what regions cite is writing them for the commands of the
    segments. -/
theorem refillRegions_map (shown : Occurrence → String) (ps : List Piece) :
    refillRegions ps ((ps.flatMap Piece.occurrences).map shown) =
      shownOf (replacement shown) (segmentsOf ps) := by
  induction ps with
  | nil => rfl
  | cons p ps ih =>
    rw [segmentsOf, List.flatMap_cons, List.flatMap_cons, shownOf_append, ← segmentsOf, ← ih]
    cases p with
    | body cs => rw [Piece.segments, shownOf_chars]; rfl
    | region a =>
      have hlen : (citations a.text).length = ((citations a.text).map shown).length := by simp
      rw [List.map_append, refillRegions, Piece.occurrences, hlen, List.take_left, List.drop_left]
      have hown := refill_map shown (Markup.segments a.text)
      rw [← citations] at hown
      simp [Piece.segments, hown, Argument.source, Argument.tail, Argument.head]

/-! ## 2. Where commands stand -/

theorem proper_of_mem_segments {cs : List Char} {c : Command} (h : .command c ∈ segments cs) :
    c.Proper := by
  induction cs using segments.induct with
  | case1 => simp [segments_nil] at h
  | case2 x cs command rest hc ih =>
    rw [segments_cons_some hc] at h
    rcases List.mem_cons.1 h with he | h
    · cases he
      exact proper_readCommand? hc
    · exact ih h
  | case3 x cs hc ih =>
    rw [segments_cons_none hc] at h
    exact ih ((List.mem_cons.1 h).resolve_left fun he => by cases he)

/-- Where a character of the text is a segment, no command begins. -/
theorem readCommand?_of_char {cs : List Char} {before behind : List Segment} {x : Char}
    (h : segments cs = before ++ .char x :: behind) :
    readCommand? (x :: writtenOf behind) = none := by
  induction cs using segments.induct generalizing before with
  | case1 => simp [segments_nil] at h
  | case2 y cs command rest hc ih =>
    rw [segments_cons_some hc] at h
    cases before with
    | nil => cases h
    | cons s before => exact ih (List.cons.inj h).2
  | case3 y cs hc ih =>
    rw [segments_cons_none hc] at h
    cases before with
    | nil =>
      obtain ⟨hx, rfl⟩ := List.cons.inj h
      cases hx
      rw [writtenOf_segments]
      exact hc
    | cons s before => exact ih (List.cons.inj h).2

theorem start_le_of_mem_regionsFrom {ps : List Piece} {offset : Nat} :
    ∀ r ∈ regionsFrom offset ps, offset ≤ r.start := by
  induction ps generalizing offset with
  | nil => simp [regionsFrom]
  | cons p ps ih =>
    intro r hr
    cases p with
    | body cs =>
      have := ih r hr
      omega
    | region a =>
      rcases List.mem_cons.1 hr with rfl | hr
      · exact Nat.le_add_right _ _
      · have := ih r hr
        omega

/-- A byte stands in the span of a region. -/
def InRegion (rs : List Region) (byte : Nat) : Prop := ∃ r ∈ rs, r.start ≤ byte ∧ byte < r.stop

theorem command_not_mem_chars (c : Command) (cs : List Char) : Segment.command c ∉ chars cs := by
  simp [chars]

/-- Where a segment of an argument, or of what stands behind it, stands. -/
inductive StandsAt (a : Argument) (ss : List Segment) (s : Segment) :
    List Segment → List Segment → Prop
  | head {front rest : List Segment} (h : chars a.head = front ++ s :: rest) :
      StandsAt a ss s front (rest ++ (segments a.text ++ (chars a.tail ++ ss)))
  | text {front rest : List Segment} (h : segments a.text = front ++ s :: rest) :
      StandsAt a ss s (chars a.head ++ front) (rest ++ (chars a.tail ++ ss))
  | tail {front rest : List Segment} (h : chars a.tail = front ++ s :: rest) :
      StandsAt a ss s (chars a.head ++ (segments a.text ++ front)) (rest ++ ss)
  | behind {front rest : List Segment} (h : ss = front ++ s :: rest) :
      StandsAt a ss s (chars a.head ++ (segments a.text ++ (chars a.tail ++ front))) rest

theorem standsAt_of_append {a : Argument} {ss before behind : List Segment} {s : Segment}
    (h : (Piece.region a).segments ++ ss = before ++ s :: behind) :
    StandsAt a ss s before behind := by
  rw [Piece.segments, List.append_assoc, List.append_assoc] at h
  rcases append_eq_append_cons h with ⟨rest, hhead, rfl⟩ | ⟨inText, rfl, htext⟩
  · exact .head hhead
  rcases append_eq_append_cons htext with ⟨rest, hinText, rfl⟩ | ⟨inTail, rfl, htail⟩
  · exact .text hinText
  rcases append_eq_append_cons htail with ⟨rest, hinTail, rfl⟩ | ⟨inRest, rfl, hrest⟩
  · exact .tail hinTail
  · exact .behind hrest

theorem byteLength_argument (a : Argument) :
    byteLength a.source = byteLength a.head + byteLength a.text + byteLength a.tail := by
  simp [Argument.source, Argument.tail, Nat.add_assoc]

theorem byteLength_lt_of_segment {ss before behind : List Segment} {s : Segment}
    (h : ss = before ++ s :: behind) :
    byteLength (writtenOf before) < byteLength (writtenOf ss) := by
  have hcons : writtenOf (s :: behind) = s.source ++ writtenOf behind := rfl
  have hpos : 0 < byteLength s.source := by
    cases s with
    | char x => exact Nat.add_pos_left (Char.utf8Size_pos _) _
    | command c => exact Nat.add_pos_left (Char.utf8Size_pos _) _
  rw [h, writtenOf_append, byteLength_append, hcons, byteLength_append]
  omega

/-- The commands of the segments stand in regions. -/
theorem inRegion_regionsFrom_of_command {ps : List Piece} {offset : Nat} {before behind : List Segment}
    {c : Command} (h : segmentsOf ps = before ++ .command c :: behind) :
    InRegion (regionsFrom offset ps) (offset + byteLength (writtenOf before)) := by
  induction ps generalizing offset before with
  | nil => simp [segmentsOf] at h
  | cons p ps ih =>
    rw [segmentsOf, List.flatMap_cons, ← segmentsOf] at h
    cases p with
    | body cs =>
      obtain ⟨between, rfl, hps⟩ := exists_append_of_not_mem (command_not_mem_chars c cs) h
      rw [writtenOf_append, writtenOf_chars, byteLength_append, ← Nat.add_assoc]
      exact ih hps
    | region a =>
      cases standsAt_of_append h with
      | head hhead => exact absurd (by simp [hhead]) (command_not_mem_chars c a.head)
      | tail htail => exact absurd (by simp [htail]) (command_not_mem_chars c a.tail)
      | text htext =>
        have hlt := byteLength_lt_of_segment htext
        rw [writtenOf_segments] at hlt
        refine ⟨_, List.mem_cons_self, ?_, ?_⟩
        all_goals
          simp only [Region.stop, writtenOf_append, writtenOf_chars, byteLength_append]
          omega
      | behind hps =>
        obtain ⟨r, hr, hstart, hstop⟩ := @ih (offset + byteLength a.source) _ hps
        rw [byteLength_argument] at hstart hstop
        refine ⟨r, List.mem_cons_of_mem _ hr, ?_, ?_⟩
        all_goals
          simp only [writtenOf_append, writtenOf_chars, writtenOf_segments, byteLength_append]
          omega

/-- A plain command that begins in a text and goes on behind it, where a brace closes the text,
    ends before that brace. -/
theorem prefix_of_closed {before text behind : List Char} {c : Command} (hc : c.Proper)
    (hp : c.IsPlain) (hdepth : depthAfter 0 (before ++ text) = some 0)
    (h : c.source <+: text ++ '\x7d' :: behind) : c.source <+: text := by
  obtain ⟨more, h⟩ := h
  rcases append_eq_append_cons h with ⟨between, hsource, -⟩ | ⟨between, rfl, -⟩
  · -- at the closing brace one more brace would be open than before the command
    rw [depthAfter_append] at hdepth
    obtain ⟨n, -, hn⟩ := Option.bind_eq_some_iff.1 hdepth
    rw [c.depthAfter_cut hc hp hsource] at hn
    cases hn
  · exact List.prefix_append _ _

/-- A plain command that begins in a text ends before the backslash behind the text. -/
theorem prefix_of_backslash {text behind : List Char} {c : Command} (hc : c.Proper)
    (hp : c.IsPlain) (htext : text ≠ []) (h : c.source <+: text ++ '\\' :: behind) :
    c.source <+: text := by
  obtain ⟨more, h⟩ := h
  rcases append_eq_append_cons h with ⟨between, hsource, -⟩ | ⟨between, rfl, -⟩
  · exact absurd (c.eq_of_source_backslash hc hp hsource).1 htext
  · exact List.prefix_append _ _

/-- Where no body text comes first, a region command does, or nothing. -/
theorem source_of_front_nil {ps : List Piece} (h : (layoutOf ps).front = []) :
    ps.flatMap Piece.source = [] ∨ ∃ rest, ps.flatMap Piece.source = '\\' :: rest := by
  rw [← source_layoutOf, Layout.source, h, List.nil_append]
  exact source_parts_cases _

/-- A plain command that begins in the text of an argument ends in it. -/
theorem prefix_of_region {a : Argument} {ps : List Piece} {c : Command} {before text : List Char}
    (hc : c.Proper) (hp : c.IsPlain) (hpart : Part.Proper ⟨a, (layoutOf ps).front⟩)
    (hg : BracesGroup a.text) (ha : a.text = before ++ text) (htext : text ≠ [])
    (h : c.source <+: text ++ (a.tail ++ ps.flatMap Piece.source)) : c.source <+: text := by
  cases hclosed : a.closed with
  | true =>
    rw [Argument.tail, hclosed] at h
    have hdepth := (balanced_iff_depthAfter hg).1 (hpart.balanced hclosed)
    rw [ha] at hdepth
    exact prefix_of_closed hc hp hdepth h
  | false =>
    rw [Argument.tail, hclosed] at h
    rcases source_of_front_nil (hpart.unclosed hclosed) with hnil | ⟨rest, hrest⟩
    · rwa [hnil, if_neg Bool.false_ne_true, List.append_nil, List.append_nil] at h
    · rw [hrest] at h
      exact prefix_of_backslash hc hp htext h

/-- Where a character is a segment of the text of an argument, no plain command begins. -/
theorem readCommand?_of_region_char {a : Argument} {ps : List Piece} {before behind : List Segment}
    {x : Char} {c : Command} {rest : List Char} (hpart : Part.Proper ⟨a, (layoutOf ps).front⟩)
    (hg : BracesGroup a.text) (h : segments a.text = before ++ .char x :: behind) (hp : c.IsPlain) :
    readCommand? (x :: (writtenOf behind ++ (a.tail ++ ps.flatMap Piece.source))) ≠
      some (c, rest) := by
  intro hread
  have hproper := proper_readCommand? hread
  have hsplit : a.text = writtenOf before ++ x :: writtenOf behind := by
    have := congrArg writtenOf h
    rwa [writtenOf_segments, writtenOf_append] at this
  have hbegins : c.source <+: x :: writtenOf behind :=
    prefix_of_region hproper hp hpart hg hsplit (List.cons_ne_nil _ _)
      ⟨rest, (readCommand?_eq_some hread).symm⟩
  exact readCommand?_eq_none_iff.1 (readCommand?_of_char h) c hproper hbegins

/-- Where a character of the segments begins a plain command, there is no region. -/
theorem not_inRegion_regionsFrom_of_char {ps : List Piece} {offset : Nat} {before behind : List Segment}
    {c : Command} {rest : List Char} (hparts : ∀ p ∈ (layoutOf ps).parts, p.Proper)
    (hg : BracesGroup (ps.flatMap Piece.source))
    (h : segmentsOf ps = before ++ .char '\\' :: behind)
    (hread : readCommand? ('\\' :: writtenOf behind) = some (c, rest)) (hp : c.IsPlain) :
    ¬ InRegion (regionsFrom offset ps) (offset + byteLength (writtenOf before)) := by
  rintro ⟨r, hr, hstart, hstop⟩
  induction ps generalizing offset before with
  | nil => cases hr
  | cons p ps ih =>
    have hgrest : BracesGroup (ps.flatMap Piece.source) :=
      hg.suffix (by rw [List.flatMap_cons]; exact List.suffix_append _ _)
    rw [segmentsOf, List.flatMap_cons, ← segmentsOf] at h
    cases p with
    | body cs =>
      have hle : offset + byteLength cs ≤ r.start := start_le_of_mem_regionsFrom r hr
      rcases append_eq_append_cons h with ⟨between, hcs, -⟩ | ⟨between, rfl, hps⟩
      · have hlt := byteLength_lt_of_segment hcs
        rw [Piece.segments, writtenOf_chars] at hlt
        omega
      · rw [Piece.segments, writtenOf_append, writtenOf_chars, byteLength_append,
          ← Nat.add_assoc] at hstart hstop
        exact ih hparts hgrest hps hr hstart hstop
    | region a =>
      have hsource := byteLength_argument a
      -- the region of the argument begins behind its head, the others behind the argument
      have hspan : r.start = offset + byteLength a.head ∧ r.stop = r.start + byteLength a.text ∨
          r ∈ regionsFrom (offset + byteLength a.source) ps ∧
            offset + byteLength a.source ≤ r.start := by
        rcases List.mem_cons.1 hr with rfl | hr
        · exact Or.inl ⟨rfl, rfl⟩
        · exact Or.inr ⟨hr, start_le_of_mem_regionsFrom r hr⟩
      cases standsAt_of_append h with
      | head hhead =>
        have hlt := byteLength_lt_of_segment hhead
        rw [writtenOf_chars] at hlt
        omega
      | text htext =>
        have hgtext : BracesGroup a.text := by
          rw [List.flatMap_cons, Piece.source, Argument.source, List.append_assoc,
            List.append_assoc] at hg
          exact (hg.suffix (List.suffix_append _ _)).beginning (List.prefix_append _ _)
        refine readCommand?_of_region_char (hparts _ List.mem_cons_self) hgtext htext hp
          (?_ : _ = some (c, rest))
        rw [← hread]
        simp [writtenOf_segmentsOf]
      | tail htail =>
        -- the brace behind the text is no backslash
        have hmem : Segment.char '\\' ∈ chars a.tail := by simp [htail]
        rw [Argument.tail] at hmem
        split at hmem <;> simp [chars] at hmem
      | behind hps =>
        simp only [writtenOf_append, writtenOf_chars, writtenOf_segments, byteLength_append]
          at hstart hstop
        rcases hspan with ⟨hr, hlen⟩ | ⟨hr, -⟩
        · omega
        · refine ih (fun p hp => hparts p (List.mem_cons_of_mem _ hp)) hgrest hps hr ?_ ?_ <;>
            omega

/-! ## 3. Whole markup -/

section Whole

variable {cs : List Char} {before behind : List Segment} {c : Command} {rest : List Char}

/-- **The commands of the segments of markup stand in regions.** -/
theorem inRegion_of_command (h : segmentsOf (pieces cs) = before ++ .command c :: behind) :
    InRegion (inSourceOrder cs) (byteLength (writtenOf before)) := by
  have hregion := @inRegion_regionsFrom_of_command _ 0 _ _ _ h
  rwa [Nat.zero_add, ← regions, ← inSourceOrder_eq_regions] at hregion

/-- **Where a character of the segments of markup begins a plain command, there is no region.** -/
theorem not_inRegion_of_char (hg : BracesGroup cs)
    (h : segmentsOf (pieces cs) = before ++ .char '\\' :: behind)
    (hread : readCommand? ('\\' :: writtenOf behind) = some (c, rest)) (hp : c.IsPlain) :
    ¬ InRegion (inSourceOrder cs) (byteLength (writtenOf before)) := by
  rw [inSourceOrder_eq_regions, ← Nat.zero_add (byteLength _)]
  exact not_inRegion_regionsFrom_of_char (decomposes_layout cs).proper
    (by rwa [source_pieces]) h hread hp

end Whole

end Galley.Markup
