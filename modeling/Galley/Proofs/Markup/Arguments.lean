import Galley.Proofs.Markup.Depth
import Galley.Proofs.Markup.Layout

/-!
# Arguments and their regions

The argument of a control word reaches from the brace directly behind the word to the matching one.
Its region begins with it, and ends where the next control word begins, if that comes first. So the
region holds all of the argument exactly where it should: when no control word begins in it. Main
statement: `exists_region_of_argument`.
-/

namespace Galley.Markup

open Galley.Text

/-- A text is the argument of a control word: it stands in braces directly behind the word and is
    balanced; `front` is all text up to its opening brace, with that brace. -/
def ArgumentAt (cs front arg : List Char) : Prop :=
  ∃ before kind behind, front = before ++ RegionKind.command kind ++ ['\x7b'] ∧
    cs = front ++ arg ++ '\x7d' :: behind ∧ Balanced arg

/-- No control word begins in an argument of a text. -/
def Unnested (cs : List Char) : Prop :=
  ∀ front arg, ArgumentAt cs front arg → ∀ place ∈ commandPlaces 0 cs,
    ¬ (byteLength front ≤ place.2 ∧ place.2 < byteLength (front ++ arg))

/-! ## 1. The part of a control word -/

theorem mem_commandPlaces (before : List Char) {kind : RegionKind} {rest : List Char}
    (h : nameGoesOn rest = false) (offset : Nat) :
    (kind, offset + byteLength before) ∈
      commandPlaces offset (before ++ (kind.command ++ rest)) := by
  induction before generalizing offset with
  | nil =>
    rw [List.nil_append, commandPlaces_command h]
    exact List.mem_cons_self
  | cons c before ih =>
    have hrest := ih (offset + c.utf8Size)
    rw [Nat.add_assoc] at hrest
    rw [List.cons_append, byteLength_cons]
    cases hc : commandAt? (c :: (before ++ (kind.command ++ rest))) with
    | none => rwa [commandPlaces_cons_none hc]
    | some k =>
      rw [commandPlaces_cons_some hc]
      exact List.mem_cons_of_mem _ hrest

theorem placesAt_append (ps qs : List Part) (offset : Nat) :
    placesAt offset (ps ++ qs) =
      placesAt offset ps ++ placesAt (offset + byteLength (ps.flatMap Part.source)) qs := by
  induction ps generalizing offset with
  | nil => rfl
  | cons p ps ih => simp [placesAt, ih, Nat.add_assoc]

theorem regionsAt_append (ps qs : List Part) (offset : Nat) :
    regionsAt offset (ps ++ qs) =
      regionsAt offset ps ++ regionsAt (offset + byteLength (ps.flatMap Part.source)) qs := by
  induction ps generalizing offset with
  | nil => rfl
  | cons p ps ih => simp [regionsAt, ih, Nat.add_assoc]

/-- A place is the place of a part. -/
theorem exists_part_of_mem_placesAt {ps : List Part} {offset n : Nat} {kind : RegionKind}
    (h : (kind, n) ∈ placesAt offset ps) : ∃ before p behind, ps = before ++ p :: behind ∧
      p.argument.kind = kind ∧ n = offset + byteLength (before.flatMap Part.source) := by
  induction ps generalizing offset with
  | nil => cases h
  | cons p ps ih =>
    rcases List.mem_cons.1 h with he | h
    · cases he
      exact ⟨[], p, ps, rfl, rfl, rfl⟩
    · obtain ⟨before, q, behind, rfl, hkind, rfl⟩ := ih h
      exact ⟨p :: before, q, behind, rfl, hkind, by simp [Nat.add_assoc]⟩

/-- The part of a control word that an argument follows stands where the word does. -/
theorem exists_part_of_argument {cs before arg behind : List Char} {kind : RegionKind}
    (h : cs = before ++ kind.command ++ '\x7b' :: (arg ++ '\x7d' :: behind)) :
    ∃ ps p qs, (layout cs).parts = ps ++ p :: qs ∧ p.argument.kind = kind ∧
      before = (layout cs).front ++ ps.flatMap Part.source ∧
      p.source ++ qs.flatMap Part.source = kind.command ++ '\x7b' :: (arg ++ '\x7d' :: behind) := by
  have hlayout := decomposes_layout cs
  have hplace : (kind, 0 + byteLength before) ∈ (layout cs).places := by
    rw [← hlayout.places, h, List.append_assoc]
    exact mem_commandPlaces before rfl 0
  obtain ⟨ps, p, qs, hparts, hkind, hn⟩ := exists_part_of_mem_placesAt hplace
  have hcs : ((layout cs).front ++ ps.flatMap Part.source) ++ (p.source ++ qs.flatMap Part.source) =
      before ++ (kind.command ++ '\x7b' :: (arg ++ '\x7d' :: behind)) := by
    rw [← List.append_assoc before, ← h]
    conv => rhs; rw [← hlayout.source, Layout.source, hparts]
    simp
  obtain ⟨hbefore, hsource⟩ := append_inj_of_byteLength hcs (by rw [byteLength_append]; omega)
  exact ⟨ps, p, qs, hparts, hkind, hbefore.symm, hsource⟩

section Parts

variable {cs : List Char} {ps qs : List Part} {p : Part}
  (h : (layout cs).parts = ps ++ p :: qs)

include h

/-- A part makes a region. -/
theorem region_of_part :
    (⟨p.argument.kind, p.argument.text,
      byteLength ((layout cs).front ++ ps.flatMap Part.source) + byteLength p.argument.head⟩ :
        Region) ∈ inSourceOrder cs := by
  rw [inSourceOrder_eq_regions, ← regions_layout, Layout.regions, h, regionsAt_append,
    byteLength_append]
  exact List.mem_append_right _ List.mem_cons_self

theorem bracesGroup_text (hg : BracesGroup cs) : BracesGroup p.argument.text := by
  have hlayout := decomposes_layout cs
  have hregion := region_of_part h
  rw [hlayout.regions] at hregion
  obtain ⟨a, b, htext, -⟩ := (spansOf_regions (layout cs)).slice _ hregion
  exact hg.within (hlayout.source.symm.trans htext)

/-- A control word begins where a part ends, if there is one more. -/
theorem place_behind_part (hqs : qs ≠ []) : ∃ kind,
    (kind, byteLength ((layout cs).front ++ ps.flatMap Part.source) + byteLength p.source) ∈
      commandPlaces 0 cs := by
  obtain ⟨q, qs, rfl⟩ := List.exists_cons_of_ne_nil hqs
  refine ⟨q.argument.kind, ?_⟩
  rw [(decomposes_layout cs).places, Layout.places, h, placesAt_append, byteLength_append]
  exact List.mem_append_right _ (List.mem_cons_of_mem _ List.mem_cons_self)

end Parts

/-- What opens the text of an argument. -/
def Argument.opening (a : Argument) : List Char := if a.opened then ['\x7b'] else []

theorem byteLength_opening_le (a : Argument) : byteLength a.opening ≤ byteLength ['\x7b'] := by
  unfold Argument.opening
  split <;> simp

/-- The part of a control word that an argument follows has no gap. -/
theorem Part.Proper.gap_nil {p : Part} (hp : p.Proper) {rest behind : List Char}
    (h : p.argument.gap ++ rest = '\x7b' :: behind) : p.argument.gap = [] := by
  cases hgap : p.argument.gap with
  | nil => rfl
  | cons x gap =>
    rw [hgap] at h
    obtain ⟨rfl, -⟩ := List.cons.inj h
    have hno := hp.gap
    rw [hgap] at hno
    exact absurd (by simp [unescaped]) hno

/-- The text of a part reaches over the argument, unless the part ends within the argument. -/
theorem Part.Proper.reaches {p : Part} (hp : p.Proper) (hg : BracesGroup p.argument.text)
    {arg rest behind : List Char} (hdepth : depthAfter 0 arg = some 0)
    (h : p.argument.opening ++ p.argument.text ++
      ((if p.argument.closed then ['\x7d'] else []) ++ p.behind ++ rest) =
        '\x7b' :: (arg ++ '\x7d' :: behind)) :
    byteLength ('\x7b' :: arg) ≤ byteLength (p.argument.opening ++ p.argument.text) ∨
      p.argument.closed = false ∧ p.behind = [] ∧ ∃ more, more ≠ [] ∧
        '\x7b' :: arg = p.argument.opening ++ p.argument.text ++ more ∧
          rest = more ++ '\x7d' :: behind := by
  rcases Nat.le_total (byteLength ('\x7b' :: arg))
    (byteLength (p.argument.opening ++ p.argument.text)) with hle | hle
  · exact Or.inl hle
  obtain ⟨more, harg, hrest⟩ := exists_append_of_byteLength_le
    (h : _ = '\x7b' :: arg ++ '\x7d' :: behind) hle
  cases more with
  | nil => exact Or.inl (Nat.le_of_eq (by rw [harg, List.append_nil]))
  | cons x more =>
    cases hclosed : p.argument.closed with
    | false =>
      have hbehind := hp.unclosed hclosed
      rw [hclosed, hbehind] at hrest
      exact Or.inr ⟨rfl, hbehind, x :: more, List.cons_ne_nil _ _, harg, hrest⟩
    | true =>
      -- a brace that closes the part's text would close too many braces of the argument
      have hopened : p.argument.opened = true := by
        cases ho : p.argument.opened with
        | true => rfl
        | false => exact absurd ((hp.unopened ho).2.symm.trans hclosed) (by decide)
      rw [hclosed] at hrest
      obtain ⟨rfl, -⟩ := List.cons.inj hrest
      rw [Argument.opening, hopened] at harg
      obtain rfl : arg = p.argument.text ++ '\x7d' :: more := (List.cons.inj harg).2
      have hbalanced := (balanced_iff_depthAfter hg).1 (hp.balanced hclosed)
      rw [depthAfter_append, hbalanced] at hdepth
      cases hdepth

/-- Where a part ends within the argument, behind its opening brace, the next one begins. -/
theorem ends_within {a : Argument} {qs : List Part} {arg more behind : List Char}
    (hmore : more ≠ []) (harg : '\x7b' :: arg = a.opening ++ a.text ++ more)
    (hrest : qs.flatMap Part.source = more ++ behind) :
    byteLength ['\x7b'] ≤ byteLength (a.opening ++ a.text) ∧
      byteLength (a.opening ++ a.text) < byteLength ('\x7b' :: arg) := by
  constructor
  · cases ht : a.opening ++ a.text with
    | nil =>
      -- the next part begins with a backslash and not with the brace of the argument
      rw [ht, List.nil_append] at harg
      rcases source_parts_cases qs with hnil | ⟨rest, hcons⟩
      · rw [hnil, ← harg] at hrest
        cases hrest
      · rw [hcons, ← harg] at hrest
        cases hrest
    | cons x t =>
      rw [ht] at harg
      obtain rfl := (List.cons.inj harg).1
      simp
  · have hpos : byteLength more ≠ 0 := mt byteLength_eq_zero_iff.1 hmore
    rw [harg, byteLength_append (a.opening ++ a.text)]
    omega

/-! ## 2. The region of an argument -/

/-- **The region of an argument in which no control word begins holds all of it.** -/
theorem exists_region_of_argument {cs front arg : List Char} (hg : BracesGroup cs)
    (harg : ArgumentAt cs front arg) (hunnested : ∀ place ∈ commandPlaces 0 cs,
      ¬ (byteLength front ≤ place.2 ∧ place.2 < byteLength (front ++ arg))) :
    ∃ r ∈ inSourceOrder cs, r.start ≤ byteLength front ∧ byteLength (front ++ arg) ≤ r.stop := by
  obtain ⟨before, kind, behind, rfl, hcs, hbalanced⟩ := harg
  have hlayout := decomposes_layout cs
  have hword : cs = before ++ kind.command ++ '\x7b' :: (arg ++ '\x7d' :: behind) := by
    rw [hcs]
    simp
  obtain ⟨ps, p, qs, hparts, rfl, hbefore, hsource⟩ := exists_part_of_argument hword
  have hp : p.Proper := hlayout.proper p (by rw [hparts]; simp)
  -- the word is followed by the text of the part, and its opening brace is that of the argument
  have hfollow : p.argument.gap ++ (p.argument.opening ++ p.argument.text ++
      ((if p.argument.closed then ['\x7d'] else []) ++ p.behind ++ qs.flatMap Part.source)) =
        '\x7b' :: (arg ++ '\x7d' :: behind) := by
    rw [Part.source, Argument.source, Argument.head] at hsource
    simp only [List.append_assoc] at hsource
    simpa [Argument.opening] using List.append_cancel_left hsource
  have hgap := hp.gap_nil hfollow
  rw [hgap, List.nil_append] at hfollow
  have hhead : byteLength p.argument.head =
      byteLength p.argument.kind.command + byteLength p.argument.opening := by
    simp [Argument.head, Argument.opening, hgap]
  have hfront : byteLength (before ++ p.argument.kind.command ++ ['\x7b']) =
      byteLength before + byteLength p.argument.kind.command + byteLength ['\x7b'] := by
    simp [Nat.add_assoc]
  have hregion : (⟨p.argument.kind, p.argument.text, byteLength before + byteLength p.argument.head⟩ :
      Region) ∈ inSourceOrder cs := by
    rw [hbefore]
    exact region_of_part hparts
  have hopening := byteLength_opening_le p.argument
  have hdepth : depthAfter 0 arg = some 0 := (balanced_iff_depthAfter (hg.within hcs)).1 hbalanced
  have hgtext := bracesGroup_text hparts hg
  rcases hp.reaches hgtext hdepth hfollow with hreach | ⟨hclosed, hbehind, more, hmore, harg, hrest⟩
  · refine ⟨_, hregion, ?_, ?_⟩
    · show byteLength before + byteLength p.argument.head ≤ _
      omega
    · simp only [Region.stop]
      rw [byteLength_append, hfront]
      simp only [byteLength_cons, byteLength_append, byteLength_nil] at hreach ⊢
      omega
  · -- the part ends within the argument, so the next one begins there
    obtain ⟨k, hplace⟩ := place_behind_part hparts (by rintro rfl; simp at hrest)
    rw [← hbefore] at hplace
    have hlength : byteLength p.source = byteLength p.argument.kind.command +
        byteLength (p.argument.opening ++ p.argument.text) := by
      rw [Part.source, Argument.source, hclosed, hbehind]
      simp [hhead, Nat.add_assoc]
    obtain ⟨hopen, hend⟩ := ends_within hmore harg hrest
    exfalso
    refine hunnested _ hplace ⟨?_, ?_⟩
    · rw [hfront, hlength]
      omega
    · rw [byteLength_append, hfront, hlength]
      simp only [byteLength_cons, byteLength_nil] at hend ⊢
      omega

end Galley.Markup
