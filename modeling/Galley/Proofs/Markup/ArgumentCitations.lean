import Galley.Proofs.Markup.Arguments
import Galley.Proofs.Markup.PlainCitations

/-!
# Citations in arguments

The argument of a footnote or caption reaches from its opening brace to the matching one, whatever
stands in it. A region ends at the next control word, though, so what stands in an argument behind a
control word inside it belongs to no region, and its citations are left in the clean markup. Main
statements: `uncited_clean_iff` says that no argument of the clean markup holds a citation command
exactly when all of those in the arguments of the markup begin in regions, and
`not_uncited_clean_nested` is an input for which they do not.
-/

namespace Galley.Markup

open Galley.Text

/-! ## 1. Citations in arguments -/

/-- No argument of a text holds a citation command. -/
def Uncited (cs : List Char) : Prop :=
  ∀ front arg, ArgumentAt cs front arg → citationCommands ('\x7b' :: arg ++ ['\x7d']) = []

/-- Every citation command in an argument of a text begins in a region. -/
def CitedInRegions (cs : List Char) : Prop :=
  ∀ front arg, ArgumentAt cs front arg → ∀ before c behind, Command.Proper c →
    arg = before ++ c.source ++ behind → InRegion (inSourceOrder cs) (byteLength (front ++ before))

theorem citationCommands_eq_nil_iff {cs : List Char} : citationCommands cs = [] ↔
    ∀ c : Command, c.Proper → ∀ before behind, cs ≠ before ++ c.source ++ behind := by
  have h := commandsOf_citationCommands cs
  constructor
  · intro hnil c hc before behind he
    obtain ⟨l, hl, -⟩ := h.complete c before behind hc he
    rw [hnil] at hl
    cases hl
  · intro hno
    refine List.eq_nil_iff_forall_not_mem.2 fun l hl => ?_
    obtain ⟨hc, before, behind, he, -⟩ := h.slice l hl
    exact hno l.command hc before behind he

/-- A command goes on with a bracket or a brace behind its name. -/
theorem Command.Proper.exists_source {c : Command} (hc : c.Proper) :
    ∃ x more, c.source = '\\' :: c.name ++ x :: more ∧ (x = '[' ∨ x = '\x7b') := by
  obtain ⟨e, es, he⟩ := List.exists_cons_of_ne_nil hc.nonempty
  have hsource : c.source = '\\' :: c.name ++ (e.source ++ es.flatMap Entry.source) := by
    rw [Command.source, he, List.flatMap_cons]
  rcases e.head?_source with h | h
  · obtain ⟨more, hmore⟩ := List.head?_eq_some_iff.1 h
    exact ⟨'[', more ++ es.flatMap Entry.source, by rw [hsource, hmore]; rfl, Or.inl rfl⟩
  · obtain ⟨more, hmore⟩ := List.head?_eq_some_iff.1 h
    exact ⟨'\x7b', more ++ es.flatMap Entry.source, by rw [hsource, hmore]; rfl, Or.inr rfl⟩

/-- The name of a command in braces, and the character behind it, stand between the braces. -/
theorem exists_name_of_source {arg before behind : List Char} {c : Command} (hc : c.Proper)
    (h : '\x7b' :: arg ++ ['\x7d'] = before ++ c.source ++ behind) :
    ∃ front x rest, arg = front ++ ('\\' :: c.name ++ x :: rest) ∧ (x = '[' ∨ x = '\x7b') := by
  obtain ⟨x, more, hsource, hx⟩ := hc.exists_source
  rw [hsource] at h
  cases before with
  | nil => cases (List.cons.inj h).1
  | cons y before =>
    have hsplit : arg ++ ['\x7d'] = before ++ '\\' :: c.name ++ x :: (more ++ behind) := by
      have := (List.cons.inj h).2
      simpa using this
    rcases append_eq_append_cons hsplit with ⟨rest, harg, -⟩ | ⟨between, -, hclose⟩
    · exact ⟨before, x, rest, by rw [harg, List.append_assoc], hx⟩
    · have hmem : x ∈ ['\x7d'] := by rw [hclose]; simp
      obtain rfl := List.mem_singleton.1 hmem
      rcases hx with hx | hx <;> cases hx

/-! ## 2. Citations that are left -/

section Shown

variable {cs : List Char} {text : Command → List Char}
  (h : PlainlyShown text (segmentsOf (pieces cs)))

include h

/-- Where an argument of the shown text holds a citation command, the segments hold an argument
    with a name and the character behind it that are kept. -/
theorem exists_name_of_shown {front arg : List Char}
    (harg : ArgumentAt (shownOf text (segmentsOf (pieces cs))) front arg)
    (hcommand : citationCommands ('\x7b' :: arg ++ ['\x7d']) ≠ []) :
    ∃ kind name x before inBefore inBehind behind, name ∈ commandNames ∧ (x = '[' ∨ x = '\x7b') ∧
      Balanced (writtenOf (inBefore ++ chars ('\\' :: name ++ [x]) ++ inBehind)) ∧
      segmentsOf (pieces cs) = before ++ chars (RegionKind.command kind ++ ['\x7b']) ++
        (inBefore ++ chars ('\\' :: name ++ [x]) ++ inBehind) ++ .char '\x7d' :: behind := by
  obtain ⟨before, kind, behind, rfl, hshown, hbalanced⟩ := harg
  have hex : ∃ c : Command, c.Proper ∧ ∃ b e, '\x7b' :: arg ++ ['\x7d'] = b ++ c.source ++ e := by
    refine Classical.byContradiction fun hno => hcommand (citationCommands_eq_nil_iff.2 ?_)
    exact fun c hc b e he => hno ⟨c, hc, b, e, he⟩
  obtain ⟨c, hc, b, e, he⟩ := hex
  obtain ⟨pre, x, post, harg, hx⟩ := exists_name_of_source hc he
  have hargument : shownOf text (segmentsOf (pieces cs)) =
      before ++ kind.command ++ '\x7b' :: (arg ++ '\x7d' :: behind) := by
    rw [hshown]
    simp
  obtain ⟨ss₁, inner, ss₂, hss, -, hinner, -⟩ := h.exists_argument hargument
  have hinnerShown : PlainlyShown text inner := PlainlyShown.of_append (by rwa [hss] at h)
  have hword : BeginsWord ('\\' :: c.name) :=
    ⟨List.cons_ne_nil _ _, '\\' :: c.name, by simp [controlWords, hc.name], List.prefix_refl _⟩
  have hnext : x ≠ '%' ∧ x ≠ '&' := by rcases hx with rfl | rfl <;> decide
  obtain ⟨in₁, in₂, hin, -, -⟩ := hinnerShown.exists_word hword hnext (hinner.trans harg)
  rw [← hinner, hinnerShown.balanced_shown_iff] at hbalanced
  subst hin
  exact ⟨kind, c.name, x, ss₁, in₁, in₂, ss₂, hc.name, hx, hbalanced, hss⟩

/-- **What is left of citations began outside all regions.** -/
theorem uncited_of_citedInRegions (hcited : PlainlyCited cs) (hin : CitedInRegions cs) :
    Uncited (shownOf text (segmentsOf (pieces cs))) := by
  intro front arg harg
  refine Classical.byContradiction fun hcommand => ?_
  obtain ⟨kind, name, x, before, inBefore, inBehind, behind, hname, hx, hbalanced, hss⟩ :=
    exists_name_of_shown h harg hcommand
  have hinner := (PlainlyShown.of_append (by rwa [hss] at h)).groups
  have hcs := writtenOf_pieces cs
  rw [hss] at hcs
  -- the name is finished in the source, so a plain command stands there
  obtain ⟨⟨c, rest⟩, hread, hp⟩ := hcited.finished name hname
    (x :: writtenOf (inBehind ++ .char '\x7d' :: behind))
    ⟨writtenOf (before ++ chars (kind.command ++ ['\x7b']) ++ inBefore), by rw [← hcs]; simp⟩
    (by rcases hx with rfl | rfl <;> simp)
  have hc := proper_readCommand? hread
  have hsource := readCommand?_eq_some hread
  -- it ends before the argument does
  have hdepth : depthAfter 0
      (writtenOf inBefore ++ ('\\' :: name ++ x :: writtenOf inBehind)) = some 0 := by
    have := (balanced_iff_depthAfter hinner).1 hbalanced
    simpa using this
  have hclosed : c.source <+:
      ('\\' :: name ++ x :: writtenOf inBehind) ++ '\x7d' :: writtenOf behind :=
    ⟨rest, by rw [← hsource]; simp [writtenOf]⟩
  obtain ⟨more, hmore⟩ := prefix_of_closed hc hp hdepth hclosed
  have hregion := hin (writtenOf before ++ kind.command ++ ['\x7b']) _
    ⟨writtenOf before, kind, writtenOf behind, rfl, by rw [← hcs]; simp [writtenOf], hbalanced⟩
    (writtenOf inBefore) c more hc (by rw [List.append_assoc _ c.source, hmore]; simp)
  -- and a command that begins at a kept character is in no region
  have hg : BracesGroup cs := by
    rw [← writtenOf_pieces cs]
    exact h.groups
  have hkept : segmentsOf (pieces cs) =
      (before ++ chars (kind.command ++ ['\x7b']) ++ inBefore) ++
        .char '\\' :: (chars (name ++ [x]) ++ inBehind ++ .char '\x7d' :: behind) := by
    rw [hss]
    simp [chars]
  have hkeptRead : readCommand? ('\\' :: writtenOf
      (chars (name ++ [x]) ++ inBehind ++ .char '\x7d' :: behind)) = some (c, rest) := by
    rw [← hread]
    simp
  exact not_inRegion_of_char hg hkept hkeptRead hp (by simpa using hregion)

/-- **A citation that begins outside all regions is left.** -/
theorem citedInRegions_of_uncited (hcited : PlainlyCited cs)
    (hun : Uncited (shownOf text (segmentsOf (pieces cs)))) : CitedInRegions cs := by
  rintro front arg ⟨before, kind, behind, rfl, hcs, hbalanced⟩ pre c post hc hsplit
  refine Classical.byContradiction fun hno => ?_
  have hwritten : writtenOf (segmentsOf (pieces cs)) =
      before ++ kind.command ++ '\x7b' :: (arg ++ '\x7d' :: behind) := by
    rw [writtenOf_pieces, hcs]
    simp
  obtain ⟨ss₁, inner, ss₂, hss, hbefore, hinner, -⟩ := h.exists_written_argument hbalanced hwritten
  have hinnerShown : PlainlyShown text inner := PlainlyShown.of_append (by rwa [hss] at h)
  have hp : c.IsPlain := by
    have hsuffix : c.source ++ (post ++ '\x7d' :: behind) <:+ cs :=
      ⟨before ++ kind.command ++ ['\x7b'] ++ pre, by rw [hcs, hsplit]; simp⟩
    exact hcited.isPlain hc hsuffix
  -- no command of the segments begins here, for then there would be a region
  have houtside : ∀ b d e, inner = b ++ .command d :: e → writtenOf b ≠ pre := by
    rintro b d e rfl rfl
    refine hno ?_
    have hsegment : segmentsOf (pieces cs) = (ss₁ ++ chars (kind.command ++ ['\x7b']) ++ b) ++
        .command d :: (e ++ .char '\x7d' :: ss₂) := by
      rw [hss]
      simp
    have hregion := inRegion_of_command hsegment
    rw [writtenOf_append, writtenOf_append, writtenOf_chars, hbefore] at hregion
    simpa using hregion
  obtain ⟨in₁, in₂, rfl, -⟩ :=
    hinnerShown.exists_written_command hc hp (hinner.trans hsplit) houtside
  -- so the command is kept, in an argument of the shown text
  have hargument : ArgumentAt (shownOf text (segmentsOf (pieces cs)))
      (shownOf text ss₁ ++ kind.command ++ ['\x7b'])
      (shownOf text (in₁ ++ chars c.source ++ in₂)) := by
    refine ⟨shownOf text ss₁, kind, shownOf text ss₂, rfl, ?_, ?_⟩
    · rw [hss]
      simp
    · rwa [hinnerShown.balanced_shown_iff, hinner]
  refine citationCommands_eq_nil_iff.1 (hun _ _ hargument) c hc
    ('\x7b' :: shownOf text in₁) (shownOf text in₂ ++ ['\x7d']) ?_
  simp

end Shown

/-! ## 3. Clean markup -/

/-- Where no control word begins in an argument, all its citations are in its region. -/
theorem citedInRegions_of_unnested {cs : List Char} (hg : BracesGroup cs) (h : Unnested cs) :
    CitedInRegions cs := by
  intro front arg harg before c behind _ hsplit
  obtain ⟨r, hr, hstart, hstop⟩ := exists_region_of_argument hg harg (h front arg harg)
  have hpos : 0 < byteLength c.source := Nat.add_pos_left (Char.utf8Size_pos _) _
  refine ⟨r, hr, ?_, ?_⟩
  · rw [byteLength_append]
    omega
  · rw [hsplit] at hstop
    simp only [byteLength_append] at hstop ⊢
    omega

/-- **Which citations are left in the arguments of clean markup.** For plainly cited markup in which
    every brace groups, a formatter and a bibliography that give plain text, and a configuration
    that names no environments, cleaning succeeds, and no argument of what it makes holds a citation
    command exactly when all citation commands in the arguments of the markup begin in regions. So
    it is where no control word begins in an argument. -/
theorem uncited_clean_iff (config : Config) (f : Formatter) (b : Bibliography) (tex : String)
    (hconfig : config.preclean = ⟨[], [], []⟩) (hf : f.IsPlain) (hb : b.IsPlain)
    (hg : BracesGroup tex.toList) (hcited : PlainlyCited tex.toList) :
    ∃ run : Logged String, clean config f (some b) tex = .ok run ∧
      (Uncited run.value.toList ↔ CitedInRegions tex.toList) ∧
      (Unnested tex.toList → Uncited run.value.toList) := by
  obtain ⟨run, text, hrun, hshown, hvalue⟩ := exists_clean_shown config hconfig hf hb hg hcited
  have hiff : Uncited run.value.toList ↔ CitedInRegions tex.toList := by
    rw [hvalue]
    exact ⟨citedInRegions_of_uncited hshown hcited, uncited_of_citedInRegions hshown hcited⟩
  exact ⟨run, hrun, hiff, fun h => hiff.2 (citedInRegions_of_unnested hg h)⟩

/-- A formatter that gives every key the same label. -/
def fixedFormatter : Formatter where
  citation _ _ := .ok "(Kay, 1999)"
  bibliography _ _ _ := .ok ""

theorem isPlain_fixedFormatter : fixedFormatter.IsPlain := by
  rintro b r label h
  cases h
  decide

theorem isPlain_kayBibliography : Bibliography.IsPlain kayBibliography := by
  intro key r hr
  by_cases hkey : key = "k"
  · rw [hkey, kayBibliography, Dict.ofList, List.foldl_cons, List.foldl_nil,
      Dict.get?_insert_self] at hr
    cases hr
    exact ⟨by decide, by decide⟩
  · rw [kayBibliography, Dict.ofList, List.foldl_cons, List.foldl_nil,
      Dict.get?_insert_of_ne _ hkey, Dict.get?_empty] at hr
    cases hr

/-- A footnote with a group of citations, and a citation in the body. -/
def flatMarkup : String :=
  "\\footnote\x7bBy \\parencites[see][p. 4]\x7bk\x7d\x7bk\x7d.\x7d \\textcite\x7bk\x7d"

theorem unnested_flatMarkup : Unnested flatMarkup.toList := by
  have hplaces : commandPlaces 0 flatMarkup.toList = [(.footnote, 0)] := by decide +kernel
  rintro front arg ⟨before, kind, behind, rfl, -, -⟩ place hplace ⟨hstart, -⟩
  rw [hplaces, List.mem_singleton] at hplace
  rw [hplace] at hstart
  have hnil := byteLength_eq_zero_iff.1 (Nat.le_zero.1 hstart)
  simp at hnil

/-- Without nesting no citation is left. -/
theorem uncited_clean_flat :
    plainConfig.preclean = ⟨[], [], []⟩ ∧ fixedFormatter.IsPlain ∧
      Bibliography.IsPlain kayBibliography ∧ BracesGroup flatMarkup.toList ∧
      PlainlyCited flatMarkup.toList ∧
      ∃ run : Logged String,
        clean plainConfig fixedFormatter (some kayBibliography) flatMarkup = .ok run ∧
          Uncited run.value.toList := by
  have hgroups : BracesGroup flatMarkup.toList := by decide +kernel
  have hcited : PlainlyCited flatMarkup.toList := by decide +kernel
  obtain ⟨run, hrun, -, huncited⟩ := uncited_clean_iff plainConfig fixedFormatter kayBibliography
    flatMarkup rfl isPlain_fixedFormatter isPlain_kayBibliography hgroups hcited
  exact ⟨rfl, isPlain_fixedFormatter, isPlain_kayBibliography, hgroups, hcited, run, hrun,
    huncited unnested_flatMarkup⟩

/-- Every control word is directly followed by an argument in braces. -/
def ArgumentsBraced (cs : List Char) : Prop :=
  ∀ place ∈ commandPlaces 0 cs, ∃ front arg, ArgumentAt cs front arg ∧
    byteLength front = place.2 + byteLength (place.1.command ++ ['\x7b'])

/-- A caption with a citation behind the footnote inside it. -/
def nestedMarkup : String := "\\caption\x7bA \\footnote\x7bB\x7d \\parencite\x7bk\x7d\x7d"

/-- The caption and the footnote of the nested markup, from brace to brace. -/
theorem argumentAt_nestedMarkup :
    ArgumentAt nestedMarkup.toList "\\caption\x7b".toList
        "A \\footnote\x7bB\x7d \\parencite\x7bk\x7d".toList ∧
      ArgumentAt nestedMarkup.toList "\\caption\x7bA \\footnote\x7b".toList "B".toList := by
  refine ⟨⟨[], .caption, [], by decide +kernel, by decide +kernel, ?_⟩,
    ⟨"\\caption\x7bA ".toList, .footnote, " \\parencite\x7bk\x7d\x7d".toList,
      by decide +kernel, by decide +kernel, ?_⟩⟩
  · exact (balanced_iff_depthAfter (by decide +kernel)).2 (by decide +kernel)
  · exact (balanced_iff_depthAfter (by decide +kernel)).2 (by decide +kernel)

/-- **A citation behind a nested footnote is left**, since it stands in no region. -/
theorem not_uncited_clean_nested :
    plainConfig.preclean = ⟨[], [], []⟩ ∧ fixedFormatter.IsPlain ∧
      Bibliography.IsPlain kayBibliography ∧ ArgumentsBraced nestedMarkup.toList ∧
      BracesGroup nestedMarkup.toList ∧ PlainlyCited nestedMarkup.toList ∧
      ∃ run : Logged String,
        clean plainConfig fixedFormatter (some kayBibliography) nestedMarkup = .ok run ∧
          ¬ Uncited run.value.toList := by
  obtain ⟨hcaption, hfootnote⟩ := argumentAt_nestedMarkup
  have hbraced : ArgumentsBraced nestedMarkup.toList := by
    have hplaces : commandPlaces 0 nestedMarkup.toList = [(.caption, 0), (.footnote, 11)] := by
      decide +kernel
    intro place hplace
    rw [hplaces] at hplace
    rcases List.mem_cons.1 hplace with rfl | hplace
    · exact ⟨_, _, hcaption, by decide⟩
    · obtain rfl := List.mem_singleton.1 hplace
      exact ⟨_, _, hfootnote, by decide⟩
  obtain ⟨run, hrun, hvalue⟩ :=
    clean_eq_ok plainConfig fixedFormatter kayBibliography nestedMarkup rfl
  -- no region holds a citation, so the markup stays as it is
  have hsame : run.value.toList = nestedMarkup.toList := by
    have hnone : regionOccurrences nestedMarkup.toList = [] := by decide +kernel
    rw [hvalue, withRegionLabels, hnone, List.zipWith_nil_left]
    decide +kernel
  refine ⟨rfl, isPlain_fixedFormatter, isPlain_kayBibliography, hbraced, by decide +kernel,
    by decide +kernel, run, hrun, fun huncited => ?_⟩
  have hleft := huncited _ _ (hsame ▸ hcaption)
  revert hleft
  decide +kernel

end Galley.Markup
