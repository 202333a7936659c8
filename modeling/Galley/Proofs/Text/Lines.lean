import Galley.Text.Blank
import Galley.Text.Scan
import Mathlib.Data.List.TakeWhile

/-!
# Lines

A line feed ends a line, so the lines of two texts with a line feed between them are the lines of
the first and those of the second. A text with something to see in it holds a line that is left when
the lines are trimmed and the empty ones dropped.
-/

namespace Galley.Text

/-! ## 1. Lines -/

/-- The lines of a text without the blanks around them, but for the empty ones. -/
def heldLines (cs : List Char) : List (List Char) :=
  ((splitLines cs).map trimChars).filter fun line => !line.isEmpty

theorem splitLines_cons (c : Char) {cs line : List Char} {rest : List (List Char)}
    (h : splitLines cs = line :: rest) :
    splitLines (c :: cs) = if c = '\n' then [] :: line :: rest else (c :: line) :: rest := by
  rw [splitLines, h]

/-- A line feed ends a line. -/
theorem splitLines_append_lineFeed (a b : List Char) :
    splitLines (a ++ '\n' :: b) = splitLines a ++ splitLines b := by
  obtain ⟨lineb, restb, hb⟩ := List.exists_cons_of_ne_nil (splitLines_ne_nil b)
  induction a with
  | nil => rw [List.nil_append, splitLines_cons '\n' hb, if_pos rfl, hb]; rfl
  | cons c a ih =>
    obtain ⟨line, rest, ha⟩ := List.exists_cons_of_ne_nil (splitLines_ne_nil a)
    rw [ha, List.cons_append] at ih
    rw [List.cons_append, splitLines_cons c ih, splitLines_cons c ha]
    split <;> rfl

theorem splitLines_of_not_mem {cs : List Char} (h : '\n' ∉ cs) : splitLines cs = [cs] := by
  induction cs with
  | nil => rfl
  | cons c cs ih =>
    obtain ⟨hc, hcs⟩ := not_or.1 (mt List.mem_cons.2 h)
    rw [splitLines, ih hcs]
    exact if_neg fun he => hc he.symm

theorem heldLines_append_lineFeed (a b : List Char) :
    heldLines (a ++ '\n' :: b) = heldLines a ++ heldLines b := by
  rw [heldLines, splitLines_append_lineFeed, List.map_append, List.filter_append]
  rfl

theorem heldLines_nil : heldLines [] = [] := rfl

/-- Lines that are joined hold what each of them holds. -/
theorem heldLines_intercalate (lines : List (List Char)) :
    heldLines (['\n'].intercalate lines) = lines.flatMap heldLines := by
  induction lines with
  | nil => rfl
  | cons line lines ih =>
    cases lines with
    | nil => simp
    | cons next lines =>
      rw [List.intercalate_cons_cons, List.append_assoc, List.singleton_append,
        heldLines_append_lineFeed, ih, ← List.flatMap_cons]

/-! ## 2. Trimmed lines -/

theorem trimLeft_cons_of_not_blank {c : Char} (h : isBlank c = false) (cs : List Char) :
    trimLeft (c :: cs) = c :: cs := by
  rw [trimLeft, List.dropWhile_cons_of_neg (by simp [h])]

/-- A text between two characters that can be seen is trimmed down to those. -/
theorem trimChars_framed {blanks : List Char} (hblanks : blanks.all isBlank = true)
    {c d : Char} (hc : isBlank c = false) (hd : isBlank d = false) (inside : List Char) :
    trimChars (blanks ++ c :: (inside ++ [d])) = c :: (inside ++ [d]) := by
  have hback : (c :: (inside ++ [d])).reverse = d :: (c :: inside).reverse := by simp
  rw [trimChars, trimLeft_append_of_blank (List.all_eq_true.1 hblanks),
    trimLeft_cons_of_not_blank hc, trimRight, hback, trimLeft_cons_of_not_blank hd, ← hback,
    List.reverse_reverse]

/-- Text that neither begins nor ends with a blank. -/
structure Trimmed (cs : List Char) : Prop where
  left : ∀ c ∈ cs.head?, isBlank c = false
  right : ∀ c ∈ cs.getLast?, isBlank c = false

instance (cs : List Char) : Decidable (Trimmed cs) :=
  @decidable_of_iff _ ((∀ c ∈ cs.head?, isBlank c = false) ∧ ∀ c ∈ cs.getLast?, isBlank c = false)
    ⟨fun h => ⟨h.1, h.2⟩, fun h => ⟨h.left, h.right⟩⟩
    -- named, since a search over all characters could be found here, which never ends
    (@instDecidableAnd _ _ (Option.decidableForallMem _) (Option.decidableForallMem _))

theorem trimLeft_eq_self {cs : List Char} (h : ∀ c ∈ cs.head?, isBlank c = false) :
    trimLeft cs = cs := by
  cases cs with
  | nil => rfl
  | cons c cs => exact trimLeft_cons_of_not_blank (h c rfl) cs

/-- Trimming leaves text without blanks at its ends as it is. -/
theorem Trimmed.trimChars {cs : List Char} (h : Trimmed cs) : trimChars cs = cs := by
  have hback : trimLeft cs.reverse = cs.reverse := by
    refine trimLeft_eq_self fun c hc => h.right c ?_
    rwa [List.head?_reverse] at hc
  rw [Text.trimChars, trimLeft_eq_self h.left, trimRight, hback, List.reverse_reverse]

/-- Trimming takes only blanks away, from both ends. -/
theorem exists_trimChars (cs : List Char) : ∃ left right,
    cs = left ++ (trimChars cs ++ right) ∧ (∀ c ∈ left, isBlank c = true) ∧
      ∀ c ∈ right, isBlank c = true := by
  refine ⟨cs.takeWhile isBlank, ((trimLeft cs).reverse.takeWhile isBlank).reverse, ?_, ?_, ?_⟩
  · have hright : trimChars cs ++ ((trimLeft cs).reverse.takeWhile isBlank).reverse =
        trimLeft cs := by
      rw [trimChars]
      generalize trimLeft cs = ds
      rw [trimRight, trimLeft, ← List.reverse_append, List.takeWhile_append_dropWhile,
        List.reverse_reverse]
    rw [hright, trimLeft, List.takeWhile_append_dropWhile]
  · exact fun c hc => List.all_eq_true.1 List.all_takeWhile c hc
  · exact fun c hc => List.all_eq_true.1 List.all_takeWhile c (List.mem_reverse.1 hc)

theorem blank_of_trimChars_eq_nil {cs : List Char} (h : trimChars cs = []) {c : Char}
    (hc : c ∈ cs) : isBlank c = true := by
  obtain ⟨left, right, hcs, hleft, hright⟩ := exists_trimChars cs
  rw [h, List.nil_append] at hcs
  rw [hcs] at hc
  rcases List.mem_append.1 hc with hc | hc
  · exact hleft c hc
  · exact hright c hc

/-- Trimming takes away nothing that can be seen. -/
theorem count_trimChars {x : Char} (hx : isBlank x = false) (cs : List Char) :
    (trimChars cs).count x = cs.count x := by
  have hnone : ∀ {blanks : List Char}, (∀ c ∈ blanks, isBlank c = true) → blanks.count x = 0 :=
    fun hblanks => List.count_eq_zero.2 fun hm => Bool.noConfusion (hx.symm.trans (hblanks x hm))
  obtain ⟨left, right, hcs, hleft, hright⟩ := exists_trimChars cs
  have hcount := congrArg (List.count x) hcs
  rw [List.count_append, List.count_append, hnone hleft, hnone hright] at hcount
  omega

/-- The lines of a text hold its characters, but for the line feeds. -/
theorem flatten_splitLines (cs : List Char) :
    (splitLines cs).flatten = cs.filter fun c => c != '\n' := by
  induction cs with
  | nil => rfl
  | cons c cs ih =>
    obtain ⟨line, rest, hlines⟩ := List.exists_cons_of_ne_nil (splitLines_ne_nil cs)
    rw [splitLines_cons c hlines]
    rw [hlines] at ih
    split
    · next hc => rw [List.flatten_cons, ih, hc]; rfl
    · next hc => rw [List.filter_cons_of_pos (by simp [hc]), ← ih]; rfl

/-- A text with something to see in it holds a line. -/
theorem heldLines_ne_nil {cs : List Char} {c : Char} (hmem : c ∈ cs) (hc : isBlank c = false) :
    heldLines cs ≠ [] := fun hempty => by
  have hbreak : c ≠ '\n' := fun he => by
    rw [he] at hc
    cases hc
  have hflat : c ∈ (splitLines cs).flatten := by
    rw [flatten_splitLines]
    exact List.mem_filter.2 ⟨hmem, by simp [hbreak]⟩
  obtain ⟨line, hline, hmem⟩ := List.mem_flatten.1 hflat
  have htrimmed : trimChars line = [] := by
    have hall := List.filter_eq_nil_iff.1 hempty (trimChars line) (List.mem_map_of_mem hline)
    simpa using hall
  have hblank := blank_of_trimChars_eq_nil htrimmed hmem
  rw [hc] at hblank
  cases hblank

/-! ## 3. Where a word stands -/

theorem cutLast?_eq_some {word cs a b : List Char} (h : cutLast? word cs = some (a, b)) :
    cs = a ++ word ++ b := by
  induction cs generalizing a with
  | nil =>
    obtain ⟨rest, hrest, he⟩ := Option.map_eq_some_iff.1 h
    cases he
    simpa using after?_eq_some_iff.1 hrest
  | cons c cs ih =>
    rw [cutLast?] at h
    split at h
    · next p hp => cases h; simp [ih (a := p.1) hp]
    · obtain ⟨rest, hrest, he⟩ := Option.map_eq_some_iff.1 h
      cases he
      simpa using after?_eq_some_iff.1 hrest

/-- Where a text ends with a word, its last occurrence is that one. -/
theorem cutLast?_append_self {word : List Char} (hword : word ≠ []) (front : List Char) :
    cutLast? word (front ++ word) = some (front, []) := by
  induction front with
  | nil =>
    obtain ⟨w, ws, rfl⟩ := List.exists_cons_of_ne_nil hword
    have hshort : cutLast? (w :: ws) ws = none := Option.eq_none_iff_forall_ne_some.2 fun p hp => by
      have hlength := congrArg List.length (cutLast?_eq_some hp)
      simp at hlength
      omega
    have hself : after? (w :: ws) (w :: ws) = some [] := by
      simpa using after?_append (w :: ws) []
    rw [List.nil_append, cutLast?, hshort, hself]
    rfl
  | cons c front ih => rw [List.cons_append, cutLast?, ih]

/-- The first `stop` of a text ends what stands before it, when that is in one line. -/
theorem lineCut?_append {stop : Char} {front : List Char} (hstop : stop ∉ front)
    (hline : '\n' ∉ front) (rest : List Char) :
    lineCut? stop (front ++ stop :: rest) = some (front, rest) := by
  induction front with
  | nil => exact if_pos rfl
  | cons c front ih =>
    obtain ⟨hstop, hfront⟩ := not_or.1 (mt List.mem_cons.2 hstop)
    obtain ⟨hline, hlines⟩ := not_or.1 (mt List.mem_cons.2 hline)
    rw [List.cons_append, lineCut?, if_neg (Ne.symm hstop), if_neg (Ne.symm hline),
      ih hfront hlines]
    rfl

/-- Where the line ends before the first `stop`, nothing is found. -/
theorem lineCut?_eq_none {stop : Char} {front : List Char} (hstop : stop ∉ front)
    (hline : '\n' ∈ front) (rest : List Char) : lineCut? stop (front ++ rest) = none := by
  induction front with
  | nil => cases hline
  | cons c front ih =>
    obtain ⟨hstop, hfront⟩ := not_or.1 (mt List.mem_cons.2 hstop)
    rw [List.cons_append, lineCut?, if_neg (Ne.symm hstop)]
    by_cases hc : c = '\n'
    · rw [if_pos hc]
    · rw [if_neg hc, ih hfront ((List.mem_cons.1 hline).resolve_left (Ne.symm hc))]
      rfl

theorem cut?_append_self {word : List Char} (hword : word ≠ []) (rest : List Char) :
    cut? word (word ++ rest) = some ([], rest) := by
  obtain ⟨w, ws, rfl⟩ := List.exists_cons_of_ne_nil hword
  have hafter := after?_append (w :: ws) rest
  rw [List.cons_append] at hafter ⊢
  rw [cut?, hafter]

end Galley.Text
