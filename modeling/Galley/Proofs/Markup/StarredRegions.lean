import Galley.Proofs.Markup.StarredTokens

/-!
# Regions of unstarred markup

A star is read like any character of an argument: it ends no text, and it may stand in the gap
before a brace. Behind a region command and behind a brace no name begins, so the text of an
argument is unstarred as if it stood alone. The regions of unstarred markup are the regions of the
markup, each with its own text unstarred. Main statement: `contents_unstarredBehind`.
-/

namespace Galley.Markup

open Galley.Text

/-! ## 1. What regions are read as -/

/-- The command of a region and its text. -/
def Piece.content? : Piece → Option (RegionKind × List Char)
  | .body _ => none
  | .region a => some (a.kind, a.text)

theorem content?_region_cons (a : Argument) (ps : List Piece) :
    (Piece.region a :: ps).filterMap Piece.content? =
      (a.kind, a.text) :: ps.filterMap Piece.content? := rfl

/-- What the regions of a text are read as, in order: their commands and their texts. -/
def contents (cs : List Char) : List (RegionKind × List Char) :=
  (pieces cs).filterMap Piece.content?

/-! ## 2. Arguments of unstarred texts -/

/-- The gap before the brace of an argument is unstarred, and what follows it behind it. -/
theorem gap_unstarredTokens (names : List String) (front : List Char) (ts : List Token) :
    (unstarredTokens names front ts).takeWhile isGapToken =
        unstarredTokens names front (ts.takeWhile isGapToken) ∧
      (unstarredTokens names front ts).dropWhile isGapToken =
        unstarredTokens names (front ++ sourceOf (ts.takeWhile isGapToken))
          (ts.dropWhile isGapToken) := by
  induction ts generalizing front with
  | nil => exact ⟨rfl, rfl⟩
  | cons t ts ih =>
    obtain ⟨htake, hdrop⟩ := ih (front ++ t.source)
    rcases dropped_or_kept (t = .char '*') names front with ⟨rfl, hd⟩ | hkept
    · have hgap : isGapToken (.char '*') = true := rfl
      rw [unstarredTokens_star hd, List.takeWhile_cons_of_pos hgap, List.dropWhile_cons_of_pos hgap,
        unstarredTokens_star hd, sourceOf_cons, ← List.append_assoc]
      exact ⟨htake, hdrop⟩
    · rw [unstarredTokens_kept hkept]
      by_cases hgap : isGapToken t = true
      · rw [List.takeWhile_cons_of_pos hgap, List.dropWhile_cons_of_pos hgap,
          List.takeWhile_cons_of_pos hgap, List.dropWhile_cons_of_pos hgap,
          unstarredTokens_kept hkept, sourceOf_cons, ← List.append_assoc, htake]
        exact ⟨rfl, hdrop⟩
      · rw [List.takeWhile_cons_of_neg hgap, List.dropWhile_cons_of_neg hgap,
          List.takeWhile_cons_of_neg hgap, List.dropWhile_cons_of_neg hgap]
        refine ⟨rfl, ?_⟩
        rw [sourceOf, List.flatMap_nil, List.append_nil, unstarredTokens_kept hkept]

/-- An argument without a brace gets none. -/
theorem unopened_unstarredTokens (names : List String) {ts : List Token}
    (hno : ∀ c rest, ts.dropWhile isGapToken ≠ .char c :: rest) (front : List Char) :
    ∀ c rest, (unstarredTokens names front ts).dropWhile isGapToken ≠ .char c :: rest := by
  intro c rest hrest
  rw [(gap_unstarredTokens names front ts).2] at hrest
  cases hd : ts.dropWhile isGapToken with
  | nil => rw [hd] at hrest; cases hrest
  | cons t more =>
    have hkept : t = .char '*' →
        ¬ EndsName names (front ++ sourceOf (ts.takeWhile isGapToken)) :=
      fun ht => absurd (ht ▸ hd) (hno '*' more)
    rw [hd, unstarredTokens_kept hkept] at hrest
    exact hno c more (by rw [hd, (List.cons.inj hrest).1])

section Arguments

variable {names : List String} (h : Harmless names)

include h

/-- A token that is kept keeps its characters. -/
theorem unstarredBehind_source {t : Token} {front : List Char}
    (hkept : t = .char '*' → ¬ EndsName names front) :
    unstarredBehind names front t.source = t.source := by
  cases t with
  | command kind => exact unstarredBehind_of_not_mem (by cases kind <;> decide) front
  | escaped b =>
    have hslash : ¬ EndsName names (front ++ ['\\']) :=
      h.not_endsName (h.fresh_concat rfl front)
    rw [Token.source, unstarredBehind_kept (fun hc => absurd hc (by decide)),
      unstarredBehind_kept fun _ => hslash, unstarredBehind_nil]
  | char c =>
    rw [Token.source, unstarredBehind_kept (fun hc => hkept (hc ▸ rfl)), unstarredBehind_nil]

theorem sourceOf_unstarredTokens (front : List Char) (ts : List Token) :
    sourceOf (unstarredTokens names front ts) = unstarredBehind names front (sourceOf ts) := by
  induction ts generalizing front with
  | nil => rfl
  | cons t ts ih =>
    rw [sourceOf_cons, unstarredBehind_append]
    rcases dropped_or_kept (t = .char '*') names front with ⟨rfl, hd⟩ | hkept
    · rw [unstarredTokens_star hd, ih, Token.source, unstarredBehind_star hd, unstarredBehind_nil,
        List.nil_append]
    · rw [unstarredTokens_kept hkept, sourceOf_cons, ih, unstarredBehind_source h hkept]

/-- **The text of an argument is unstarred**, and closed by the same brace. -/
theorem readText_unstarredTokens (depth : Nat) (front : List Char) (ts : List Token) :
    readText depth (unstarredTokens names front ts) =
      (unstarredBehind names front (readText depth ts).1, (readText depth ts).2.1,
        unstarredTokens names (front ++ ((readText depth ts).1 ++
          if (readText depth ts).2.1 then ['\x7d'] else [])) (readText depth ts).2.2) := by
  induction ts generalizing depth front with
  | nil => rfl
  | cons t ts ih =>
    rcases readText_cons depth t with
      ⟨⟨kind, rfl⟩, hstep⟩ | ⟨rfl, hstep⟩ | ⟨-, inner, hinner, hstep⟩
    · have hkept : Token.command kind = .char '*' → ¬ EndsName names front := fun ht => by cases ht
      rw [hstep, unstarredTokens_kept hkept, hstep]
      show _ = ([], false, unstarredTokens names (front ++ []) (.command kind :: ts))
      rw [List.append_nil, unstarredTokens_kept hkept]
    · have hkept : Token.char '\x7d' = .char '*' → ¬ EndsName names front :=
        fun ht => absurd ht (by decide)
      rw [hstep, unstarredTokens_kept hkept, hstep]
      rfl
    · rw [hstep]
      rcases dropped_or_kept (t = .char '*') names front with ⟨rfl, hd⟩ | hkept
      · rw [unstarredTokens_star hd, ← hinner '*' rfl rfl, ih, Token.source, List.singleton_append,
          unstarredBehind_star hd, List.append_assoc]
        rfl
      · rw [unstarredTokens_kept hkept, hstep, ih, unstarredBehind_append,
          unstarredBehind_source h hkept, List.append_assoc, List.append_assoc]

/-- **An argument behind its command** has the unstarred text, as if the text stood alone. -/
theorem readArgument_unstarredTokens (kind : RegionKind) (front : List Char) (ts : List Token) :
    (readArgument kind (unstarredTokens names (front ++ kind.command) ts)).1.text =
        unstarredBehind names [] (readArgument kind ts).1.text ∧
      (readArgument kind (unstarredTokens names (front ++ kind.command) ts)).2 =
        unstarredTokens names (front ++ (readArgument kind ts).1.source)
          (readArgument kind ts).2 := by
  obtain ⟨htake, hdrop⟩ := gap_unstarredTokens names (front ++ kind.command) ts
  by_cases hopened : ∃ c rest, ts.dropWhile isGapToken = .char c :: rest
  · obtain ⟨c, rest, hrest⟩ := hopened
    have hc : c = '\x7b' := by
      have hhead := List.head?_dropWhile_not isGapToken ts
      rw [hrest] at hhead
      simpa [isGapToken] using hhead
    subst hc
    have hkept : ∀ front, Token.char '\x7b' = .char '*' → ¬ EndsName names front :=
      fun _ ht => absurd ht (by decide)
    rw [hrest, unstarredTokens_kept (hkept _)] at hdrop
    rw [readArgument_opened kind hdrop, readArgument_opened kind hrest, readText_unstarredTokens h]
    refine ⟨(h.fresh_concat rfl _).unstarredBehind_eq _, ?_⟩
    show unstarredTokens names _ _ = unstarredTokens names _ _
    congr 1
    simp only [Argument.source, Argument.head, Token.source, if_true, List.append_assoc]
  · have hno : ∀ c rest, ts.dropWhile isGapToken ≠ .char c :: rest :=
      fun c rest hrest => hopened ⟨c, rest, hrest⟩
    have hno' := unopened_unstarredTokens names hno (front ++ kind.command)
    rw [readArgument_unopened kind hno', readArgument_unopened kind hno, htake,
      sourceOf_unstarredTokens h]
    refine ⟨(h.fresh_command front kind).unstarredBehind_eq _, hdrop.trans ?_⟩
    simp only [Argument.source, Argument.head, Bool.false_eq_true, if_false, List.append_nil,
      List.append_assoc]

/-! ## 3. Regions of unstarred texts -/

theorem content?_unstarredTokens (front : List Char) (ts : List Token) :
    (piecesOf (unstarredTokens names front ts)).filterMap Piece.content? =
      ((piecesOf ts).filterMap Piece.content?).map fun r =>
        (r.1, unstarredBehind names [] r.2) := by
  induction hn : ts.length using Nat.strongRecOn generalizing front ts with
  | ind n ih =>
    subst hn
    cases ts with
    | nil => rw [unstarredTokens, piecesOf]; rfl
    | cons t ts =>
      have hbehind := fun front => ih ts.length (Nat.lt_succ_self _) front ts rfl
      rcases dropped_or_kept (t = .char '*') names front with ⟨rfl, hd⟩ | hkept
      · rw [unstarredTokens_star hd, hbehind, piecesOf]
        rfl
      · rw [unstarredTokens_kept hkept]
        cases t with
        | command kind =>
          obtain ⟨htext, hrest⟩ := readArgument_unstarredTokens h kind front ts
          have hlength : (readArgument kind ts).2.length < (Token.command kind :: ts).length :=
            Nat.lt_succ_of_le (readArgument_length kind ts)
          rw [Token.source, piecesOf, piecesOf, content?_region_cons, content?_region_cons,
            List.map_cons, hrest, ih _ hlength _ _ rfl, htext, kind_readArgument, kind_readArgument]
        | escaped b =>
          rw [piecesOf, piecesOf, List.filterMap_cons_none rfl, List.filterMap_cons_none rfl,
            hbehind]
        | char c =>
          rw [piecesOf, piecesOf, List.filterMap_cons_none rfl, List.filterMap_cons_none rfl,
            hbehind]

/-- **The regions of an unstarred text** are those of the text, each with its text unstarred. -/
theorem contents_unstarredBehind (front cs : List Char) :
    contents (unstarredBehind names front cs) =
      (contents cs).map fun r => (r.1, unstarredBehind names [] r.2) := by
  rw [contents, pieces, tokens_unstarredBehind h, content?_unstarredTokens h]
  rfl

end Arguments

end Galley.Markup
