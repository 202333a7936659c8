import Galley.Proofs.Markup.StarredRegions
import Galley.Proofs.Markup.TableEnvironments

/-!
# Captions of unstarred tables

The commands of a starred table become those of a plain one, and no other text becomes one, unless
there are two stars behind the name. So the tables of unstarred markup are those of the markup,
each with its own caption, which is unstarred. Main statement: `tableCaptions_unstarred`.
-/

namespace Galley.Markup

open Galley.Text

/-! ## 1. The commands of tables -/

/-- What stands behind the name in a command of a table. -/
def tableClose (starred : Bool) : List Char :=
  if starred then ['*', '\x7d'] else ['\x7d']

/-- The end of a command of a table, which comes next: whether it is starred, and what follows. -/
def tableClose? (cs : List Char) : Option (Bool × List Char) :=
  match after? (tableClose false) cs with
  | some rest => some (false, rest)
  | none => (after? (tableClose true) cs).map (true, ·)

theorem tableClose?_eq_some_iff {cs rest : List Char} {starred : Bool} :
    tableClose? cs = some (starred, rest) ↔ cs = tableClose starred ++ rest := by
  constructor
  · intro h
    unfold tableClose? at h
    split at h
    · next more hplain =>
      cases h
      exact after?_eq_some_iff.1 hplain
    · obtain ⟨more, hmore, he⟩ := Option.map_eq_some_iff.1 h
      cases he
      exact after?_eq_some_iff.1 hmore
  · rintro rfl
    cases starred <;> rfl

theorem beginCommand_table (starred : Bool) :
    beginCommand (tableName starred) = beginHead "table" ++ tableClose starred := by
  cases starred <;> decide +kernel

theorem endCommand_table (starred : Bool) :
    endCommand (tableName starred) = endHead "table" ++ tableClose starred := by
  cases starred <;> decide +kernel

theorem tableBegin?_eq (cs : List Char) :
    tableBegin? cs = (after? (beginHead "table") cs).bind tableClose? := by
  refine Option.ext fun p => ?_
  obtain ⟨starred, rest⟩ := p
  rw [tableBegin?_eq_some_iff, Option.bind_eq_some_iff, beginCommand_table, List.append_assoc]
  simp only [after?_eq_some_iff, tableClose?_eq_some_iff]
  exact ⟨fun he => ⟨_, he, rfl⟩, fun ⟨more, he, hmore⟩ => hmore ▸ he⟩

theorem tableEnds_eq (cs : List Char) :
    tableEnds cs = ((after? (endHead "table") cs).bind tableClose?).isSome := by
  rw [Bool.eq_iff_iff, tableEnds_iff, Option.isSome_iff_exists]
  simp only [Option.bind_eq_some_iff, after?_eq_some_iff, endCommand_table]
  constructor
  · rintro ⟨starred, rest, rfl⟩
    exact ⟨(starred, rest), tableClose starred ++ rest, List.append_assoc _ _ _,
      tableClose?_eq_some_iff.2 rfl⟩
  · rintro ⟨⟨starred, rest⟩, more, rfl, hmore⟩
    rw [tableClose?_eq_some_iff.1 hmore]
    exact ⟨starred, rest, List.append_assoc _ _ _⟩

/-! ## 2. Unstarred commands -/

/-- The name of a table with two stars behind it. -/
def doubleStar : List Char := "table**".toList

/-- Among the names is that of a table, and none of them ends within a command of a table. -/
structure HarmlessInTables (names : List String) : Prop extends Harmless names where
  table_mem : "table" ∈ names
  begin_quiet : Quiet names (beginHead "table").tail
  end_quiet : Quiet names (endHead "table").tail

section Commands

variable {names : List String}

theorem tableClose?_of_ne {c : Char} (hstar : c ≠ '*') (hbrace : c ≠ '\x7d') (cs : List Char) :
    tableClose? (c :: cs) = none := by
  unfold tableClose? tableClose
  rw [if_neg (by decide), if_pos rfl, after?, if_neg (Ne.symm hbrace), after?,
    if_neg (Ne.symm hstar)]
  rfl

/-- Behind the name of a table its star is dropped. -/
theorem tableClose?_unstarredBehind (h : Harmless names) {front : List Char}
    (hname : EndsName names front) {cs : List Char} (hno : ¬ ['*', '*'] <+: cs) :
    tableClose? (unstarredBehind names front cs) = (tableClose? cs).map fun p =>
      (false, unstarredBehind names (front ++ tableClose p.1) p.2) := by
  have hbrace : ∀ front cs, unstarredBehind names front ('\x7d' :: cs) =
      '\x7d' :: unstarredBehind names (front ++ ['\x7d']) cs := fun front cs =>
    unstarredBehind_kept (fun hc => absurd hc (by decide)) cs
  have hstar : ¬ EndsName names (front ++ ['*']) :=
    h.not_endsName (fresh_concat h.star_free front)
  cases cs with
  | nil => rfl
  | cons c cs =>
    by_cases hc : c = '*'
    · subst hc
      rw [unstarredBehind_star hname]
      cases cs with
      | nil => rfl
      | cons d cs =>
        by_cases hd : d = '\x7d'
        · subst hd
          rw [hbrace, List.append_assoc]
          rfl
        · have hne : d ≠ '*' := by
            rintro rfl
            exact hno (List.prefix_append ['*', '*'] cs)
          have hnone : tableClose? ('*' :: d :: cs) = none := by
            unfold tableClose? tableClose
            rw [if_neg (by decide), if_pos rfl, after?, if_neg (by decide), after?, if_pos rfl,
              after?, if_neg (Ne.symm hd)]
            rfl
          rw [unstarredBehind_kept fun _ => hstar, tableClose?_of_ne hne hd, hnone]
          rfl
    · by_cases hd : c = '\x7d'
      · subst hd
        rw [hbrace]
        rfl
      · rw [unstarredBehind_kept fun he => absurd he hc, tableClose?_of_ne hc hd,
          tableClose?_of_ne hc hd]
        rfl

end Commands

/-! ## 3. Unstarred tables -/

/-- An entry of a table without its star, and with its caption unstarred. -/
def TableCaption.unstarred (names : List String) (e : TableCaption) : TableCaption :=
  ⟨e.caption.map fun s => String.ofList (unstarredBehind names [] s.toList), false⟩

/-- The first caption is the first region of a caption command. -/
theorem firstCaption?_eq (cs : List Char) :
    firstCaption? cs = ((contents cs).find? fun r => r.1 = .caption).map fun r =>
      String.ofList r.2 := by
  have hregions : ∀ (offset : Nat) (ps : List Piece),
      ps.filterMap Piece.content? = (regionsFrom offset ps).map fun r => (r.kind, r.text) := by
    intro offset ps
    induction ps generalizing offset with
    | nil => rfl
    | cons p ps ih =>
      cases p with
      | body cs => exact ih _
      | region a => rw [content?_region_cons, regionsFrom, List.map_cons, ih]
  rw [firstCaption?, captions, List.head?_filter, contents, hregions 0, List.find?_map,
    Option.map_map]
  rfl

theorem firstCaption?_unstarredBehind {names : List String} (h : Harmless names)
    (front cs : List Char) :
    firstCaption? (unstarredBehind names front cs) =
      (firstCaption? cs).map fun s => String.ofList (unstarredBehind names [] s.toList) := by
  rw [firstCaption?_eq, firstCaption?_eq, contents_unstarredBehind h, List.find?_map,
    Option.map_map, Option.map_map]
  simp only [Function.comp_def, String.toList_ofList]

/-- A text without a doubled star has none behind a name. -/
theorem not_double_of_head {head cs rest : List Char} (hhead : "table".toList <:+ head)
    (hno : ¬ doubleStar <:+: cs) (hcs : cs = head ++ rest) : ¬ ['*', '*'] <+: rest := by
  rintro ⟨more, rfl⟩
  obtain ⟨before, rfl⟩ := hhead
  have hdouble : doubleStar = "table".toList ++ ['*', '*'] := by decide +kernel
  refine hno ⟨before, more, ?_⟩
  rw [hcs, hdouble]
  simp only [List.append_assoc]

section Tables

variable {names : List String} (h : HarmlessInTables names)

include h

/-- **A command of a table is ahead before and after**, if its backslash is ahead: starred or not,
    it becomes the plain one. -/
theorem tableCommand_unstarredBehind {head : List Char}
    (hhead : head = '\\' :: head.tail) (hquiet : Quiet names head.tail)
    (htable : "table".toList <:+ head.tail) {front cs : List Char} {c : Char}
    (hkept : c = '*' → ¬ EndsName names front) (hno : ¬ doubleStar <:+: c :: cs) :
    (after? head (unstarredBehind names front (c :: cs))).bind tableClose? =
      ((after? head (c :: cs)).bind tableClose?).map fun p =>
        (false, unstarredBehind names (front ++ head ++ tableClose p.1) p.2) := by
  rw [unstarredBehind_kept hkept, hhead, after?, after?]
  split
  · next hc =>
    subst hc
    have hslash : Fresh names (front ++ ['\\']) := h.fresh_concat rfl front
    have hahead : after? head.tail (unstarredBehind names (front ++ ['\\']) cs) =
        (after? head.tail cs).map (unstarredBehind names (front ++ ['\\'] ++ head.tail)) := by
      refine after?_unstarredBehind cs fun part rest hword hrest => ?_
      rw [hslash.endsName_append_iff]
      exact hquiet.not_endsName hword hrest
    rw [hahead]
    cases hcs : after? head.tail cs with
    | none => rfl
    | some rest =>
      have hends : EndsName names (front ++ ['\\'] ++ head.tail) :=
        (hslash.endsName_append_iff head.tail).2 ⟨"table", h.table_mem, htable⟩
      have hfollows : '\\' :: cs = '\\' :: head.tail ++ rest := by
        rw [after?_eq_some_iff.1 hcs, List.cons_append]
      have hclose := tableClose?_unstarredBehind h.toHarmless hends
        (not_double_of_head (htable.trans (List.suffix_cons _ _)) hno hfollows)
      rw [Option.map_some, Option.bind_some, hclose, Option.bind_some, List.append_assoc front]
      rfl
  · rfl

theorem tableBegin?_unstarredBehind {front cs : List Char} {c : Char}
    (hkept : c = '*' → ¬ EndsName names front) (hno : ¬ doubleStar <:+: c :: cs) :
    tableBegin? (unstarredBehind names front (c :: cs)) =
      (tableBegin? (c :: cs)).map fun p =>
        (false, unstarredBehind names (front ++ beginHead "table" ++ tableClose p.1) p.2) := by
  rw [tableBegin?_eq, tableBegin?_eq]
  exact tableCommand_unstarredBehind h rfl h.begin_quiet (by decide +kernel) hkept hno

theorem tableEnds_unstarredBehind {front cs : List Char} {c : Char}
    (hkept : c = '*' → ¬ EndsName names front) (hno : ¬ doubleStar <:+: c :: cs) :
    tableEnds (unstarredBehind names front (c :: cs)) = tableEnds (c :: cs) := by
  rw [tableEnds_eq, tableEnds_eq,
    tableCommand_unstarredBehind h rfl h.end_quiet (by decide +kernel) hkept hno, Option.isSome_map]

/-- **The body of a table is unstarred**, and ends where it ended. -/
theorem breakBefore_unstarredBehind (front : List Char) {cs : List Char}
    (hno : ¬ doubleStar <:+: cs) :
    breakBefore tableEnds (unstarredBehind names front cs) =
      (unstarredBehind names front (breakBefore tableEnds cs).1,
        unstarredBehind names (front ++ (breakBefore tableEnds cs).1)
          (breakBefore tableEnds cs).2) := by
  induction cs generalizing front with
  | nil => rfl
  | cons c cs ih =>
    have hbehind : ¬ doubleStar <:+: cs := fun hd => hno (hd.trans (List.suffix_cons c cs).isInfix)
    rcases dropped_or_kept (c = '*') names front with ⟨rfl, hd⟩ | hkept
    · have hends : ¬ tableEnds ('*' :: cs) = true := by
        rw [tableEnds_iff]
        rintro ⟨starred, hword⟩
        obtain ⟨tail, hcommand, -⟩ := isCommand_endTable starred
        rw [hcommand] at hword
        exact absurd (List.cons_prefix_cons.1 hword).1 (by decide)
      rw [unstarredBehind_star hd, ih _ hbehind, breakBefore, if_neg hends, unstarredBehind_star hd,
        List.append_assoc]
      rfl
    · have hends := tableEnds_unstarredBehind h hkept hno
      rw [breakBefore]
      split
      · next hstop =>
        rw [List.append_nil, unstarredBehind_nil]
        rw [hstop, unstarredBehind_kept hkept] at hends
        rw [unstarredBehind_kept hkept, breakBefore, if_pos hends]
      · next hgoes =>
        rw [← hends, unstarredBehind_kept hkept] at hgoes
        rw [unstarredBehind_kept hkept, breakBefore, if_neg hgoes, ih _ hbehind,
          unstarredBehind_kept hkept, List.append_assoc]
        rfl

/-- **The tables of an unstarred text** are those of the text, each with its caption unstarred. -/
theorem tableCaptions_unstarredBehind (front : List Char) {cs : List Char}
    (hno : ¬ doubleStar <:+: cs) :
    tableCaptions (unstarredBehind names front cs) =
      (tableCaptions cs).map (TableCaption.unstarred names) := by
  induction hn : cs.length using Nat.strongRecOn generalizing front cs with
  | ind n ih =>
    subst hn
    cases cs with
    | nil => rw [unstarredBehind_nil, tableCaptions]; rfl
    | cons c cs =>
      have hbehind : ¬ doubleStar <:+: cs := fun hd =>
        hno (hd.trans (List.suffix_cons c cs).isInfix)
      rcases dropped_or_kept (c = '*') names front with ⟨rfl, hd⟩ | hkept
      · have hskip := tableCaptions_of_not_mem (by decide : '\\' ∉ ['*']) cs
        rw [List.singleton_append] at hskip
        rw [unstarredBehind_star hd, ih cs.length (Nat.lt_succ_self _) _ hbehind rfl, hskip]
      · have hbegin := tableBegin?_unstarredBehind h hkept hno
        cases hfound : tableBegin? (c :: cs) with
        | none =>
          rw [hfound, Option.map_none, unstarredBehind_kept hkept] at hbegin
          rw [unstarredBehind_kept hkept, tableCaptions_cons_none hbegin,
            tableCaptions_cons_none hfound, ih cs.length (Nat.lt_succ_self _) _ hbehind rfl]
        | some found =>
          obtain ⟨starred, rest⟩ := found
          have hlength : (breakBefore tableEnds rest).2.length < (c :: cs).length :=
            Nat.lt_of_le_of_lt (breakBefore_length tableEnds rest) (tableBegin?_length hfound)
          rw [hfound, Option.map_some, tableBegin?_eq_some_iff] at hbegin
          rw [tableBegin?_eq_some_iff] at hfound
          have hrest : ¬ doubleStar <:+: rest := fun hd =>
            hno (hfound ▸ hd.trans (List.suffix_append _ rest).isInfix)
          have hlater : ¬ doubleStar <:+: (breakBefore tableEnds rest).2 := fun hd =>
            hrest (breakBefore_append tableEnds rest ▸ hd.trans (List.suffix_append _ _).isInfix)
          rw [hbegin, hfound, tableCaptions_begin, tableCaptions_begin,
            breakBefore_unstarredBehind h _ hrest, firstCaption?_unstarredBehind h.toHarmless,
            ih _ hlength _ hlater rfl]
          rfl

end Tables

/-! ## 4. The environments that lose their star by default -/

/-- The default configuration, but nothing is unwrapped and nothing hoisted. -/
def unstarConfig : PrecleanConfig := { unwrapEnvironments := [], hoistedSections := [] }

theorem harmlessInTables_default : HarmlessInTables unstarConfig.unstarEnvironments where
  plain := by decide +kernel
  star_free := by decide +kernel
  named := by decide +kernel
  command_quiet kind := by cases kind <;> decide +kernel
  command_fresh kind := by cases kind <;> decide +kernel
  table_mem := by decide
  begin_quiet := by decide +kernel
  end_quiet := by decide +kernel

theorem restructure_unstarConfig (cs : List Char) :
    restructure unstarConfig cs = unstarredBehind unstarConfig.unstarEnvironments [] cs :=
  unstar_eq_withoutStars harmlessInTables_default.star_free cs

/-- **Captions are the same before and after unstarring.** Where no name of a table has two stars
    behind it, the unstarred markup has an entry for each entry of the markup, in their order; none
    is starred, and each has the caption of the other one, if there is one, with the stars taken
    off in it as in the markup. -/
theorem tableCaptions_unstarred {cs : List Char} (hno : ¬ "table**".toList <:+: cs) :
    tableCaptions (restructure unstarConfig cs) = (tableCaptions cs).map fun e =>
      ⟨e.caption.map fun s => String.ofList (restructure unstarConfig s.toList), false⟩ := by
  simp only [restructure_unstarConfig]
  exact tableCaptions_unstarredBehind harmlessInTables_default [] hno

/-- Two tables, the first with stars in its caption. -/
def starredTables : List Char :=
  ("figure** \\begin\x7btable*\x7d\\caption*\x7b2*3 in table*\x7d\\end\x7btable\x7d" ++
    "\\begin\x7btable\x7d*\\end\x7btable*\x7d").toList

/-- One table has its caption, and the other none. -/
theorem tableCaptions_unstarred_two :
    ¬ "table**".toList <:+: starredTables ∧
      tableCaptions starredTables = [⟨some "2*3 in table*", true⟩, ⟨none, false⟩] ∧
      tableCaptions (restructure unstarConfig starredTables) =
        [⟨some "2*3 in table", false⟩, ⟨none, false⟩] := by
  have hno : ¬ "table**".toList <:+: starredTables := by decide +kernel
  have hcaptions : tableCaptions starredTables =
      [⟨some "2*3 in table*", true⟩, ⟨none, false⟩] := by
    decide +kernel
  refine ⟨hno, hcaptions, ?_⟩
  rw [tableCaptions_unstarred hno, hcaptions]
  decide +kernel

end Galley.Markup
