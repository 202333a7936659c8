import Galley.Proofs.Markup.Citations
import Galley.Proofs.Markup.Layout
import Galley.Proofs.Markup.RegionLabels

/-!
# The citations of the body

Without its regions the markup is the body, so texts that stood apart stand together in it. Where
no command of the markup goes over an end of a region command with its argument, the body has the
commands that stand outside of all of them, moved up, exactly when no command of the body goes over
a place where a region was. Main statement: `citationCommands_body_iff`.
-/

namespace Galley.Markup

open Galley.Label (Disambiguator)
open Galley.Text

/-! ## 1. Cutting a text -/

/-- No command goes over a byte. -/
def NotAcross (ls : List Located) (byte : Nat) : Prop := ∀ l ∈ ls, l.stop ≤ byte ∨ byte ≤ l.start

theorem locatedFrom_append (ss ts : List Segment) (offset : Nat) :
    locatedFrom offset (ss ++ ts) = locatedFrom offset ss ++
      locatedFrom (offset + byteLength (ss.flatMap Segment.source)) ts := by
  induction ss generalizing offset with
  | nil => rfl
  | cons s ss ih =>
    cases s with
    | char c =>
      rw [List.cons_append, locatedFrom, locatedFrom, ih, List.flatMap_cons]
      simp [Segment.source, Nat.add_assoc]
    | command c =>
      rw [List.cons_append, locatedFrom, locatedFrom, ih, List.flatMap_cons]
      simp [Segment.source, Nat.add_assoc]

/-- A command is not empty, and stands in the text it is found in. -/
theorem span_of_mem_locatedFrom {cs : List Char} {offset : Nat} :
    ∀ l ∈ locatedFrom offset (segments cs),
      offset ≤ l.start ∧ l.start < l.stop ∧ l.stop ≤ offset + byteLength cs := by
  intro l hl
  obtain ⟨⟨before, behind, rfl, hstart, -⟩, -⟩ := standsIn_locatedFrom cs offset l hl
  have hpos : 0 < byteLength l.command.source := Nat.add_pos_left (Char.utf8Size_pos _) _
  simp only [Located.stop, byteLength_append]
  omega

/-- What is read with a text behind it, but ends before that, is read without it. -/
theorem readCommand?_of_append {c : Command} {rest behind : List Char}
    (h : readCommand? (c.source ++ (rest ++ behind)) = some (c, rest ++ behind)) :
    readCommand? (c.source ++ rest) = some (c, rest) := by
  have hc := proper_readCommand? h
  rw [readCommand?_source hc] at h
  have hentries : c.entries ++ (readEntries (rest ++ behind)).1 = c.entries :=
    congrArg Command.entries (congrArg Prod.fst (Option.some.inj h))
  have hnone : readEntry? rest = none := by
    cases hr : readEntry? rest with
    | none => rfl
    | some p =>
      -- the entry that comes next would be read with the text behind it, too
      obtain ⟨e, more⟩ := p
      have he := proper_readEntry? hr
      have hread := readEntry?_source he (more ++ behind)
      rw [← List.append_assoc, ← readEntry?_eq_some hr] at hread
      rw [readEntries_some hread] at hentries
      simp at hentries
  rw [readCommand?_source hc, readEntries_none hnone, List.append_nil]

/-- **Where no command goes over a cut, the two texts are read by themselves.** -/
theorem segments_append {a b : List Char} {offset : Nat}
    (h : NotAcross (locatedFrom offset (segments (a ++ b))) (offset + byteLength a)) :
    segments (a ++ b) = segments a ++ segments b := by
  generalize hcs : a ++ b = cs at h
  induction cs using segments.induct generalizing a offset with
  | case1 =>
    obtain ⟨rfl, rfl⟩ := List.append_eq_nil_iff.1 hcs
    rw [segments_nil]
    rfl
  | case2 c cs command rest hread ih =>
    cases a with
    | nil =>
      rw [segments_nil, List.nil_append, ← hcs]
      rfl
    | cons d a =>
      -- the command ends before the cut, since it does not begin behind it
      rw [segments_cons_some hread] at h ⊢
      have hpos := Char.utf8Size_pos d
      have hend : byteLength command.source ≤ byteLength (d :: a) := by
        have hspan := h _ List.mem_cons_self
        simp only [Located.stop, byteLength_cons] at hspan ⊢
        omega
      have hsource := readCommand?_eq_some hread
      obtain ⟨between, ha, rfl⟩ := exists_append_of_byteLength_le (hsource.symm.trans hcs.symm) hend
      rw [hsource] at hread
      have hfirst := readCommand?_of_append hread
      rw [← ha] at hfirst
      rw [segments_cons_some hfirst, List.cons_append]
      refine congrArg (Segment.command command :: ·)
        (@ih between (offset + byteLength command.source) rfl fun l hl => ?_)
      have hcut := h l (List.mem_cons_of_mem _ hl)
      rwa [ha, byteLength_append, ← Nat.add_assoc] at hcut
  | case3 c cs hread ih =>
    cases a with
    | nil =>
      rw [segments_nil, List.nil_append, ← hcs]
      rfl
    | cons d a =>
      obtain ⟨rfl, rfl⟩ := List.cons.inj hcs
      have hnone : readCommand? (d :: a) = none :=
        readCommand?_eq_none_iff.2 fun e he hpre =>
          readCommand?_eq_none_iff.1 hread e he (hpre.trans (List.prefix_append (d :: a) b))
      rw [segments_cons_none hread] at h ⊢
      rw [segments_cons_none hnone, List.cons_append]
      refine congrArg (Segment.char d :: ·) (@ih a (offset + d.utf8Size) rfl ?_)
      rwa [Nat.add_assoc]

theorem locatedFrom_segments_append {a b : List Char} {offset : Nat}
    (h : NotAcross (locatedFrom offset (segments (a ++ b))) (offset + byteLength a)) :
    locatedFrom offset (segments (a ++ b)) =
      locatedFrom offset (segments a) ++ locatedFrom (offset + byteLength a) (segments b) := by
  rw [segments_append h, locatedFrom_append, source_segments]

/-! ## 2. Stretches -/

/-- Bytes of a text, one behind the other. -/
structure Stretch where
  start : Nat
  /-- The byte behind the last one. -/
  stop : Nat
  deriving DecidableEq, Repr

def Stretch.length (s : Stretch) : Nat := s.stop - s.start

/-- The bytes of the region commands with their arguments, of parts that begin at a byte. -/
def stretchesAt (offset : Nat) : List Part → List Stretch
  | [] => []
  | p :: ps =>
    ⟨offset, offset + byteLength p.argument.source⟩ :: stretchesAt (offset + byteLength p.source) ps

/-- The bytes of a text that are not in its body. -/
def stretches (cs : List Char) : List Stretch :=
  stretchesAt (byteLength (layout cs).front) (layout cs).parts

/-- The command stands before the stretch or behind it. -/
def Located.Apart (l : Located) (s : Stretch) : Prop := l.stop ≤ s.start ∨ s.stop ≤ l.start

/-- The command stands in the stretch. -/
def Located.Within (l : Located) (s : Stretch) : Prop := s.start ≤ l.start ∧ l.stop ≤ s.stop

instance (l : Located) (s : Stretch) : Decidable (l.Apart s) :=
  inferInstanceAs (Decidable (_ ∨ _))

instance (l : Located) (s : Stretch) : Decidable (l.Within s) :=
  inferInstanceAs (Decidable (_ ∧ _))

/-- No command goes over an end of a stretch, and none has a stretch in it. -/
def Separated (ls : List Located) (ss : List Stretch) : Prop :=
  ∀ l ∈ ls, ∀ s ∈ ss, l.Apart s ∨ l.Within s

instance (ls : List Located) (ss : List Stretch) : Decidable (Separated ls ss) :=
  inferInstanceAs (Decidable (∀ l ∈ ls, ∀ s ∈ ss, _))

/-- The commands that stand outside of all stretches. -/
def outside (ss : List Stretch) (ls : List Located) : List Located :=
  ls.filter fun l => ss.all fun s => l.Apart s

/-- How many bytes the stretches before a byte have. -/
def removedBefore : List Stretch → (byte : Nat) → Nat
  | [], _ => 0
  | s :: ss, byte => (if s.stop ≤ byte then s.length else 0) + removedBefore ss byte

/-- A command with `n` bytes taken out before it. -/
def Located.movedUp (n : Nat) (l : Located) : Located := { l with start := l.start - n }

/-- Where the stretches were, when they are taken out. -/
def joints (ss : List Stretch) : List Nat := ss.map fun s => s.start - removedBefore ss s.start

theorem start_lt_stop_of_mem_stretchesAt {ps : List Part} {offset : Nat} :
    ∀ s ∈ stretchesAt offset ps, offset ≤ s.start ∧ s.start < s.stop := by
  induction ps generalizing offset with
  | nil => simp [stretchesAt]
  | cons p ps ih =>
    intro s hs
    rcases List.mem_cons.1 hs with rfl | hs
    · have hpos : 0 < byteLength p.argument.source := by
        have hkind : 0 < byteLength p.argument.kind.command := by
          cases p.argument.kind <;> decide
        simp only [Argument.source, Argument.head, byteLength_append]
        omega
      exact ⟨Nat.le_refl _, Nat.lt_add_of_pos_right hpos⟩
    · have := ih s hs
      omega

theorem removedBefore_eq_zero {ss : List Stretch} {byte : Nat} (h : ∀ s ∈ ss, byte < s.stop) :
    removedBefore ss byte = 0 := by
  induction ss with
  | nil => rfl
  | cons s ss ih =>
    rw [removedBefore, if_neg (Nat.not_le.2 (h s List.mem_cons_self)),
      ih fun t ht => h t (List.mem_cons_of_mem s ht)]

theorem removedBefore_cons {s : Stretch} {byte : Nat} (h : s.stop ≤ byte) (ss : List Stretch) :
    removedBefore (s :: ss) byte = s.length + removedBefore ss byte := by
  rw [removedBefore, if_pos h]

theorem map_movedUp_locatedFrom (ss : List Segment) (offset n : Nat) :
    (locatedFrom (offset + n) ss).map (Located.movedUp n) = locatedFrom offset ss := by
  induction ss generalizing offset with
  | nil => rfl
  | cons s ss ih =>
    cases s with
    | char c =>
      rw [locatedFrom, locatedFrom, Nat.add_right_comm, ih]
    | command c =>
      rw [locatedFrom, locatedFrom, Nat.add_right_comm, List.map_cons, ih, Located.movedUp]
      simp

/-! ## 3. Commands between the stretches -/

/-- The commands of the body texts of parts, each text read by itself, when the first begins at a
    byte. -/
def keptFrom (offset : Nat) : List Part → List Located
  | [] => []
  | p :: ps => locatedFrom offset (segments p.behind) ++ keptFrom (offset + byteLength p.behind) ps

/-- The bytes at which the body texts of parts begin. -/
def jointsAt (offset : Nat) : List Part → List Nat
  | [] => []
  | p :: ps => offset :: jointsAt (offset + byteLength p.behind) ps

theorem stretchesAt_cons (offset : Nat) (p : Part) (ps : List Part) :
    stretchesAt offset (p :: ps) = ⟨offset, offset + byteLength p.argument.source⟩ ::
      stretchesAt (offset + byteLength p.argument.source + byteLength p.behind) ps := by
  rw [stretchesAt, Part.source, byteLength_append, Nat.add_assoc]

/-- The bytes at which stretches were are those at which the body texts begin, when `place` is the
    byte of the body that `offset` becomes. -/
theorem map_joints (ps : List Part) {offset place removed : Nat}
    (hplace : offset = place + removed) :
    ((stretchesAt offset ps).map fun s =>
      s.start - (removed + removedBefore (stretchesAt offset ps) s.start)) = jointsAt place ps := by
  induction ps generalizing offset place removed with
  | nil => rfl
  | cons p ps ih =>
    have hrest := @ih (offset + byteLength p.argument.source + byteLength p.behind)
      (place + byteLength p.behind) (removed + byteLength p.argument.source) (by omega)
    rw [stretchesAt_cons, List.map_cons, jointsAt, ← hrest]
    congr 1
    · have hnone : ∀ s ∈ stretchesAt offset (p :: ps), offset < s.stop := fun s hs => by
        have := start_lt_stop_of_mem_stretchesAt s hs
        omega
      rw [stretchesAt_cons] at hnone
      rw [removedBefore_eq_zero hnone]
      show offset - (removed + 0) = place
      omega
    · refine List.map_congr_left fun s hs => ?_
      have hstart := (start_lt_stop_of_mem_stretchesAt s hs).1
      have hbefore : offset + byteLength p.argument.source ≤ s.start := by omega
      rw [removedBefore_cons hbefore, Stretch.length, Nat.add_sub_cancel_left,
        Nat.add_assoc removed]

/-- The commands outside of the stretches, moved up by `removed` and by the stretches before
    them. -/
def outsideMoved (removed : Nat) (ss : List Stretch) (ls : List Located) : List Located :=
  (outside ss ls).map fun l => l.movedUp (removed + removedBefore ss l.start)

theorem outsideMoved_nil (removed : Nat) (ls : List Located) :
    outsideMoved removed [] ls = ls.map (Located.movedUp removed) := by
  have hall : outside [] ls = ls := List.filter_eq_self.2 fun _ _ => rfl
  rw [outsideMoved, hall]
  rfl

/-- Of commands before a stretch, in it and behind it, the first are only moved up by `removed`, and
    the last by the stretch, too. -/
theorem outsideMoved_cons (removed : Nat) {s : Stretch} {ss : List Stretch}
    {before inside behind : List Located}
    (hbefore : ∀ l ∈ before, ∀ t ∈ s :: ss, l.stop ≤ t.start ∧ l.start < t.stop)
    (hinside : ∀ l ∈ inside, l.Within s ∧ l.start < l.stop)
    (hbehind : ∀ l ∈ behind, s.stop ≤ l.start) :
    outsideMoved removed (s :: ss) (before ++ (inside ++ behind)) =
      before.map (Located.movedUp removed) ++ outsideMoved (removed + s.length) ss behind := by
  have hfirst : outside (s :: ss) before = before := by
    rw [outside, List.filter_eq_self]
    intro l hl
    rw [List.all_eq_true]
    exact fun t ht => decide_eq_true (Or.inl (hbefore l hl t ht).1)
  have hnone : outside (s :: ss) inside = [] := by
    rw [outside, List.filter_eq_nil_iff]
    intro l hl
    obtain ⟨⟨hstart, hstop⟩, hlt⟩ := hinside l hl
    have hno : ¬ l.Apart s := by
      rintro (hleft | hright) <;> omega
    simp [hno]
  have hlast : outside (s :: ss) behind = outside ss behind := by
    refine List.filter_congr fun l hl => ?_
    have hapart : l.Apart s := Or.inr (hbehind l hl)
    simp [hapart]
  have hsplit : outside (s :: ss) (before ++ (inside ++ behind)) =
      outside (s :: ss) before ++ (outside (s :: ss) inside ++ outside (s :: ss) behind) := by
    rw [outside, List.filter_append, List.filter_append]
    rfl
  rw [outsideMoved, hsplit, hfirst, hnone, hlast, List.nil_append, List.map_append]
  refine congrArg₂ (· ++ ·) (List.map_congr_left fun l hl => ?_)
    (List.map_congr_left fun l hl => ?_)
  · rw [removedBefore_eq_zero fun t ht => (hbefore l hl t ht).2]
    rfl
  · rw [removedBefore_cons (hbehind l (List.mem_of_mem_filter hl)), Nat.add_assoc]

theorem Separated.notAcross {ls : List Located} {ss : List Stretch} (h : Separated ls ss)
    {s : Stretch} (hs : s ∈ ss) (hlt : s.start < s.stop) :
    NotAcross ls s.start ∧ NotAcross ls s.stop := by
  refine ⟨fun l hl => ?_, fun l hl => ?_⟩
  all_goals
    rcases h l hl s hs with (hbefore | hbehind) | ⟨hstart, hstop⟩
    · exact Or.inl (by omega)
    · exact Or.inr (by omega)
    · first | exact Or.inl hstop | exact Or.inr hstart

theorem Separated.of_subset {ls ms : List Located} {ss ts : List Stretch} (h : Separated ls ss)
    (hls : ms ⊆ ls) (hss : ts ⊆ ss) : Separated ms ts :=
  fun l hl s hs => h l (hls hl) s (hss hs)

/-- **The commands outside of the stretches are those of the body texts**, moved up by what is taken
    out before them, when `place` is the byte of the body that `offset` becomes. -/
theorem outsideMoved_eq (ps : List Part) (front : List Char) {offset place removed : Nat}
    (hplace : offset = place + removed)
    (h : Separated (locatedFrom offset (segments (front ++ ps.flatMap Part.source)))
      (stretchesAt (offset + byteLength front) ps)) :
    outsideMoved removed (stretchesAt (offset + byteLength front) ps)
        (locatedFrom offset (segments (front ++ ps.flatMap Part.source))) =
      locatedFrom place (segments front) ++ keptFrom (place + byteLength front) ps := by
  induction ps generalizing front offset place removed with
  | nil =>
    rw [stretchesAt, outsideMoved_nil, keptFrom, List.append_nil, List.flatMap_nil,
      List.append_nil, hplace, map_movedUp_locatedFrom]
  | cons p ps ih =>
    have hbounds := @start_lt_stop_of_mem_stretchesAt (p :: ps) (offset + byteLength front)
    have hsource : (p :: ps).flatMap Part.source =
        p.argument.source ++ (p.behind ++ ps.flatMap Part.source) := by
      rw [List.flatMap_cons, Part.source, List.append_assoc]
    rw [stretchesAt_cons] at hbounds h ⊢
    rw [hsource] at h ⊢
    have hlt := (hbounds _ List.mem_cons_self).2
    -- the text is cut before the stretch and behind it
    have hbefore := locatedFrom_segments_append (h.notAcross List.mem_cons_self hlt).1
    have hin : Separated (locatedFrom (offset + byteLength front)
        (segments (p.argument.source ++ (p.behind ++ ps.flatMap Part.source)))) _ :=
      h.of_subset (hbefore ▸ List.subset_append_right _ _) (List.Subset.refl _)
    have hbehind := locatedFrom_segments_append (hin.notAcross List.mem_cons_self hlt).2
    have hrest := @ih p.behind (offset + byteLength front + byteLength p.argument.source)
      (place + byteLength front) (removed + byteLength p.argument.source) (by omega)
      (hin.of_subset (hbehind ▸ List.subset_append_right _ _) (List.subset_cons_self _ _))
    rw [hbefore, hbehind, outsideMoved_cons, Stretch.length, Nat.add_sub_cancel_left, hrest,
      hplace, map_movedUp_locatedFrom]
    · rfl
    · intro l hl t ht
      have hspan := span_of_mem_locatedFrom l hl
      have hbound := hbounds t ht
      omega
    · intro l hl
      have hspan := span_of_mem_locatedFrom l hl
      exact ⟨⟨hspan.1, hspan.2.2⟩, hspan.2.1⟩
    · exact start_le_of_mem_locatedFrom

/-! ## 4. Commands of the body -/

theorem le_of_mem_jointsAt {ps : List Part} {place : Nat} : ∀ j ∈ jointsAt place ps, place ≤ j := by
  induction ps generalizing place with
  | nil => simp [jointsAt]
  | cons p ps ih =>
    intro j hj
    rcases List.mem_cons.1 hj with rfl | hj
    · exact Nat.le_refl _
    · have := ih j hj
      omega

theorem le_start_of_mem_keptFrom {ps : List Part} {place : Nat} :
    ∀ l ∈ keptFrom place ps, place ≤ l.start := by
  induction ps generalizing place with
  | nil => simp [keptFrom]
  | cons p ps ih =>
    intro l hl
    rcases List.mem_append.1 hl with hl | hl
    · exact start_le_of_mem_locatedFrom l hl
    · have := ih l hl
      omega

/-- The commands of body texts that are read by themselves go over no byte at which one begins. -/
theorem notAcross_keptFrom (ps : List Part) (front : List Char) (place : Nat) :
    ∀ j ∈ jointsAt (place + byteLength front) ps,
      NotAcross (locatedFrom place (segments front) ++ keptFrom (place + byteLength front) ps)
        j := by
  induction ps generalizing front place with
  | nil => simp [jointsAt]
  | cons p ps ih =>
    intro j hj l hl
    have hle := le_of_mem_jointsAt j hj
    rcases List.mem_append.1 hl with hl | hl
    · have := span_of_mem_locatedFrom l hl
      exact Or.inl (by omega)
    · rcases List.mem_cons.1 hj with rfl | hj
      · exact Or.inr (le_start_of_mem_keptFrom l hl)
      · exact ih p.behind (place + byteLength front) j hj l hl

/-- **The body texts are read by themselves exactly when no command goes over a joint.** -/
theorem locatedFrom_body_iff (ps : List Part) (front : List Char) (place : Nat) :
    locatedFrom place (segments (front ++ ps.flatMap Part.behind)) =
        locatedFrom place (segments front) ++ keptFrom (place + byteLength front) ps ↔
      ∀ j ∈ jointsAt (place + byteLength front) ps,
        NotAcross (locatedFrom place (segments (front ++ ps.flatMap Part.behind))) j := by
  constructor
  · intro h
    rw [h]
    exact notAcross_keptFrom ps front place
  · intro h
    induction ps generalizing front place with
    | nil => rw [List.flatMap_nil, List.append_nil, keptFrom, List.append_nil]
    | cons p ps ih =>
      rw [List.flatMap_cons] at h ⊢
      have hcut := locatedFrom_segments_append (h _ List.mem_cons_self)
      have hrest := ih p.behind (place + byteLength front) fun j hj l hl =>
        h j (List.mem_cons_of_mem _ hj) l (hcut ▸ List.mem_append_right _ hl)
      rw [hcut, hrest]
      rfl

theorem joints_stretches (cs : List Char) :
    joints (stretches cs) = jointsAt (byteLength (layout cs).front) (layout cs).parts := by
  have h := @map_joints (layout cs).parts (byteLength (layout cs).front) _ 0 rfl
  simp only [Nat.zero_add] at h
  exact h

/-- No command of the body goes over a place where a stretch was. -/
def Unjoined (cs : List Char) : Prop :=
  ∀ j ∈ joints (stretches cs), NotAcross (citationCommands (body cs)) j

instance (cs : List Char) : Decidable (Unjoined cs) :=
  inferInstanceAs (Decidable (∀ j ∈ _, ∀ l ∈ _, _ ∨ _))

/-- **Taking regions out makes and joins no citations exactly where no command of the body goes over
    a joint.** Where every citation command of markup stands apart from all region commands with
    their arguments, or inside of one, the commands of the body are those that stand apart from
    all, each moved up by the bytes that are taken out before it, exactly when no command of the
    body goes over a place where something was taken out. Then the body cites what they cite, and
    the labels that are handed out first are those of what they cite. -/
theorem citationCommands_body_iff {cs : List Char}
    (h : Separated (citationCommands cs) (stretches cs)) :
    (citationCommands (body cs) = outsideMoved 0 (stretches cs) (citationCommands cs) ↔
        Unjoined cs) ∧
      (Unjoined cs →
        let kept := (outside (stretches cs) (citationCommands cs)).flatMap fun l =>
          l.command.occurrences
        citations (body cs) = kept ∧ ∀ f style b,
          bodyHandedOut f style b cs = Disambiguator.run [] (callsFor f style b kept)) := by
  have hlayout := decomposes_layout cs
  have hmoved : outsideMoved 0 (stretches cs) (citationCommands cs) =
      locatedFrom 0 (segments (layout cs).front) ++
        keptFrom (byteLength (layout cs).front) (layout cs).parts := by
    have heq := @outsideMoved_eq (layout cs).parts (layout cs).front 0 0 0 rfl
    simp only [Nat.zero_add] at heq
    rw [← Layout.source, hlayout.source] at heq
    exact heq h
  have hiff : citationCommands (body cs) = outsideMoved 0 (stretches cs) (citationCommands cs) ↔
      Unjoined cs := by
    have hbody := locatedFrom_body_iff (layout cs).parts (layout cs).front 0
    simp only [Nat.zero_add] at hbody
    rw [← Layout.body, ← hlayout.body, ← hmoved, ← joints_stretches] at hbody
    exact hbody
  refine ⟨hiff, fun hunjoined => ?_⟩
  have hkept : citations (body cs) =
      (outside (stretches cs) (citationCommands cs)).flatMap fun l => l.command.occurrences := by
    rw [citations, ← flatMap_locatedFrom _ 0, ← citationCommands, hiff.2 hunjoined, outsideMoved,
      List.flatMap_map]
    rfl
  exact ⟨hkept, fun f style b => by rw [bodyHandedOut, hkept]⟩

/-- A footnote with a citation in it between two citations, and a caption. -/
def betweenMarkup : List Char :=
  ("\\caption[s]\x7bA\x7d\\parencite\x7ba\x7d\\footnote\x7b\\textcite\x7bb\x7d\x7d" ++
    "\\citeyear\x7bc\x7d").toList

/-- What stands outside the regions is cited by the body. -/
theorem citationCommands_body_between :
    Separated (citationCommands betweenMarkup) (stretches betweenMarkup) ∧
      citations (body betweenMarkup) =
        [⟨"a", .paren, .alone, none, none⟩, ⟨"c", .year, .alone, none, none⟩] := by
  have hseparated : Separated (citationCommands betweenMarkup) (stretches betweenMarkup) := by
    decide +kernel
  obtain ⟨hkept, -⟩ := (citationCommands_body_iff hseparated).2 (by decide +kernel)
  exact ⟨hseparated, hkept.trans (by decide +kernel)⟩

/-- **Behind a citation the group that follows a footnote is joined to it**, as one more key. -/
theorem not_citations_body_joined :
    ¬ ∀ cs : List Char, Separated (citationCommands cs) (stretches cs) →
      citations (body cs) =
        (outside (stretches cs) (citationCommands cs)).flatMap fun l => l.command.occurrences := by
  intro h
  have hsame := h "\\parencite\x7ba\x7d\\footnote\x7bx\x7d\x7bb\x7d".toList (by decide +kernel)
  exact absurd hsame (by decide +kernel)

end Galley.Markup
