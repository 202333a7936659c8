import Galley.Proofs.Render.Leaves
import Galley.Style.AuthorDate
import Mathlib.Data.Prod.Lex

/-!
# One reference list in two renderings

The author-date style sorts the references of a bibliography once and renders the same entries as
HTML and as plain text. The order is fixed by the database and the keys (`SortedBy.unique`). Entries
in HTML stand in a container, one a line, and each of them reads as the entry at its place in the
plain list. Main statement: `renderings_agree`.
-/

namespace Galley.AuthorDate

open Galley.Rich (Bare IsFlat readAsText readAsText_html)

/-! ## 1. Entries -/

/-- What an entry of the reference list says about a work. -/
def content (r : Reference) : Rich :=
  .join (headParts r ++ sourceParts r ++ linkParts r) " "

theorem bare_empty : Bare "" := by decide
theorem bare_blank : Bare " " := by decide
theorem bare_stop : Bare "." := by decide
theorem bare_comma : Bare ", " := by decide

theorem isFlat_styledTitle (r : Reference) : (styledTitle r).IsFlat := by
  rw [styledTitle]
  split
  · exact .text _
  · exact .emph _

theorem isFlat_headParts {r : Reference} {part : Rich} (h : part ∈ headParts r) :
    part.IsFlat := by
  have htitle : (Rich.affix "" (styledTitle r) ".").IsFlat :=
    .affix bare_empty (isFlat_styledTitle r) bare_stop
  rw [headParts] at h
  split at h
  · rcases List.mem_pair.1 h with rfl | rfl
    · exact htitle
    · exact .text _
  · rcases List.mem_append.1 h with h | h
    · rcases List.mem_pair.1 h with rfl | rfl
      · exact .text _
      · exact .text _
    · split at h
      · cases h
      · rw [List.mem_singleton.1 h]
        exact htitle

theorem isFlat_volumeParts {r : Reference} {part : Rich} (h : part ∈ volumeParts r) :
    part.IsFlat := by
  rw [volumeParts] at h
  cases hvolume : r.volume with
  | none => rw [hvolume] at h; cases h
  | some volume =>
    rw [hvolume] at h
    rcases List.mem_cons.1 h with rfl | h
    · exact .emph _
    · cases hissue : r.issue with
      | none => rw [hissue] at h; cases h
      | some issue =>
        rw [hissue] at h
        rw [List.mem_singleton.1 h]
        exact .text _

theorem isFlat_pagesParts {r : Reference} {part : Rich} (h : part ∈ pagesParts r) :
    part.IsFlat := by
  rw [pagesParts] at h
  cases hpages : r.pages with
  | none => rw [hpages] at h; cases h
  | some pages =>
    rw [hpages] at h
    rw [List.mem_singleton.1 h]
    exact .text _

theorem isFlat_sourceParts {r : Reference} {part : Rich} (h : part ∈ sourceParts r) :
    part.IsFlat := by
  rw [sourceParts] at h
  cases hcontainer : r.containerTitle with
  | some container =>
    rw [hcontainer] at h
    rw [List.mem_singleton.1 h]
    refine .affix bare_empty (.join (fun part hpart => ?_) bare_empty) bare_stop
    rcases List.mem_cons.1 hpart with rfl | hpart
    · split
      · exact .affix bare_empty (.emph _) bare_comma
      · exact .emph _
    · rcases List.mem_append.1 hpart with hpart | hpart
      · exact isFlat_volumeParts hpart
      · exact isFlat_pagesParts hpart
  | none =>
    rw [hcontainer] at h
    cases hpublisher : r.publisher with
    | none => rw [hpublisher] at h; cases h
    | some publisher =>
      rw [hpublisher] at h
      rw [List.mem_singleton.1 h]
      exact .text _

theorem isFlat_linkParts {r : Reference} {part : Rich} (h : part ∈ linkParts r) :
    part.IsFlat := by
  rw [linkParts] at h
  cases hdoi : r.doi with
  | some doi =>
    rw [hdoi] at h
    rw [List.mem_singleton.1 h]
    exact .address _
  | none =>
    rw [hdoi] at h
    cases hurl : r.url with
    | none => rw [hurl] at h; cases h
    | some url =>
      rw [hurl] at h
      rw [List.mem_singleton.1 h]
      exact .address _

/-- An entry is flat, whatever its fields hold. -/
theorem isFlat_content (r : Reference) : (content r).IsFlat := by
  refine .join (fun part hpart => ?_) bare_blank
  rcases List.mem_append.1 hpart with hpart | hpart
  · rcases List.mem_append.1 hpart with hpart | hpart
    · exact isFlat_headParts hpart
    · exact isFlat_sourceParts hpart
  · exact isFlat_linkParts hpart

/-- An element of the list around an entry. -/
def elementAround (html : String) : String := "<div class=\"csl-entry\">" ++ html ++ "</div>"

/-- The entry of a work as an element of HTML. -/
def entryElement (r : Reference) : String := elementAround (content r).html

theorem elementAround_eq (html : String) :
    elementAround html = "<div class=\"csl-entry\">" ++ html ++ "</div>" := rfl

theorem blanks_append_elementAround (html : String) :
    "  <div class=\"csl-entry\">" ++ html ++ "</div>" = "  " ++ elementAround html := by
  have hindent : "  <div class=\"csl-entry\">" = "  " ++ "<div class=\"csl-entry\">" := by
    decide +kernel
  rw [elementAround_eq, hindent, String.append_assoc, String.append_assoc, String.append_assoc]

/-- An element stands behind two blanks in its line. -/
theorem html_entry (r : Reference) : (entry r).html = "  " ++ entryElement r :=
  blanks_append_elementAround (content r).html

theorem toList_elementAround (html : String) :
    (elementAround html).toList =
      '<' :: ("div class=\"csl-entry\"".toList ++
        '>' :: (html.toList ++ '<' :: ("/div".toList ++ ['>']))) := by
  have hfront : "<div class=\"csl-entry\">".toList =
      '<' :: ("div class=\"csl-entry\"".toList ++ ['>']) := by decide +kernel
  have hback : "</div>".toList = '<' :: ("/div".toList ++ ['>']) := by decide +kernel
  rw [elementAround_eq, String.toList_append, String.toList_append, hfront, hback]
  simp only [List.cons_append, List.append_assoc, List.nil_append]

theorem readsAs_elementAround {html plain : String} (h : Rich.ReadsAs html plain) :
    Rich.ReadsAs (elementAround html) plain :=
  h.tagged _ _ (by decide) (by decide) (toList_elementAround html)

/-- **The element of a work reads as its plain entry.** -/
theorem readAsText_entryElement (r : Reference) :
    readAsText (entryElement r) = (entry r).plain := by
  exact (readsAs_elementAround (isFlat_content r).isInline.readsAs).readAsText

/-! ## 2. Sorted references -/

/-- `rs` is `database` in the order of `key`: the first components of the keys decide before the
    second ones, and references with one key stand as they do in the database. -/
structure SortedBy (key : Reference → String × String) (database rs : List Reference) : Prop where
  perm : rs.Perm database
  ordered : rs.Pairwise fun x y =>
    (key x).1 < (key y).1 ∨ (key x).1 = (key y).1 ∧ (key x).2 ≤ (key y).2
  ties : ∀ r ∈ database, rs.filter (key · = key r) = database.filter (key · = key r)

/-- The first reference of a list in order has the least key. -/
theorem key_le_of_mem {key : Reference → String × String} {r x : Reference} {rs : List Reference}
    (hordered : (r :: rs).Pairwise fun x y => toLex (key x) ≤ toLex (key y))
    (hx : x ∈ r :: rs) : toLex (key r) ≤ toLex (key x) := by
  rcases List.mem_cons.1 hx with rfl | hx
  · exact le_rfl
  · exact (List.pairwise_cons.1 hordered).1 x hx

/-- Lists in order that agree on the references with any one key are equal. -/
theorem eq_of_ordered {key : Reference → String × String} {rs ss : List Reference}
    (hperm : rs.Perm ss) (hrs : rs.Pairwise fun x y => toLex (key x) ≤ toLex (key y))
    (hss : ss.Pairwise fun x y => toLex (key x) ≤ toLex (key y))
    (hties : ∀ k, rs.filter (key · = k) = ss.filter (key · = k)) : rs = ss := by
  induction rs generalizing ss with
  | nil => exact hperm.nil_eq
  | cons r rs ih =>
    cases ss with
    | nil => exact absurd hperm.symm.nil_eq (List.cons_ne_nil r rs).symm
    | cons s ss =>
      -- each head is in the other list, so their keys are equal, and the ties give one reference
      have hkey : key r = key s := toLex.injective <| le_antisymm
        (key_le_of_mem hrs (hperm.mem_iff.2 List.mem_cons_self))
        (key_le_of_mem hss (hperm.mem_iff.1 List.mem_cons_self))
      have hfirst := hties (key s)
      simp only [List.filter_cons, hkey, decide_true, if_true, List.cons.injEq] at hfirst
      obtain rfl : r = s := hfirst.1
      refine congrArg (r :: ·) (ih hperm.cons_inv hrs.tail hss.tail fun k => ?_)
      have hrest := hties k
      by_cases hk : key r = k
      · simp only [List.filter_cons, hk, decide_true, if_true, List.cons.injEq, true_and] at hrest
        exact hrest
      · simpa only [List.filter_cons, hk, decide_false, Bool.false_eq_true, if_false] using hrest

namespace SortedBy

variable {key : Reference → String × String} {database rs ss : List Reference}

theorem lex_ordered (h : SortedBy key database rs) :
    rs.Pairwise fun x y => toLex (key x) ≤ toLex (key y) :=
  h.ordered.imp fun hxy => Prod.Lex.toLex_le_toLex.2 hxy

/-- The references with one key, whether the database has any or not. -/
theorem filter_eq (h : SortedBy key database rs) (k : String × String) :
    rs.filter (key · = k) = database.filter (key · = k) := by
  by_cases hk : ∃ r ∈ database, key r = k
  · obtain ⟨r, hr, rfl⟩ := hk
    exact h.ties r hr
  · have hnone : ∀ r ∈ database, ¬decide (key r = k) = true := fun r hr hrk =>
      hk ⟨r, hr, of_decide_eq_true hrk⟩
    rw [List.filter_eq_nil_iff.2 hnone,
      List.filter_eq_nil_iff.2 fun r hr => hnone r (h.perm.mem_iff.1 hr)]

/-- **The keys and the database leave one order only.** -/
theorem unique (h : SortedBy key database rs) (h' : SortedBy key database ss) : rs = ss :=
  eq_of_ordered (h.perm.trans h'.perm.symm) h.lex_ordered h'.lex_ordered fun k =>
    (h.filter_eq k).trans (h'.filter_eq k).symm

end SortedBy

/-! ## 3. The order of the list -/

/-- Editors come up where there are no authors. -/
theorem firstName?_eq (r : Reference) : r.firstName? = (r.authors ++ r.editors).head? := by
  rw [Reference.firstName?, Reference.names]
  cases r.authors <;> rfl

/-- A reference is sorted by the family name of its first author, or else of its first editor, or
    else by its title, all in small letters, and then by its year. -/
theorem sortKey_eq : sortKey = fun r =>
    (Text.toLower (((r.authors ++ r.editors).head?.map Name.family).getD (r.title.getD "")),
      r.year.getD "") := by
  funext r
  rw [sortKey, firstName?_eq]

/-- The order of sort keys is that of pairs, the first component first. -/
theorem keyLe_iff {a b : String × String} : keyLe a b = true ↔ toLex a ≤ toLex b := by
  rw [Prod.Lex.toLex_le_toLex, keyLe]
  simp only [Bool.or_eq_true, Bool.and_eq_true, decide_eq_true_eq, beq_iff_eq, le_iff_lt_or_eq]

theorem keyLe_trans (x y z : (String × String) × Reference) (hxy : keyLe x.1 y.1 = true)
    (hyz : keyLe y.1 z.1 = true) : keyLe x.1 z.1 = true := by
  rw [keyLe_iff] at hxy hyz ⊢
  exact hxy.trans hyz

theorem keyLe_total (x y : (String × String) × Reference) :
    (keyLe x.1 y.1 || keyLe y.1 x.1) = true := by
  rw [Bool.or_eq_true, keyLe_iff, keyLe_iff]
  exact le_total _ _

/-- The references of a bibliography with their sort keys. -/
def keyed (b : Bibliography) : List ((String × String) × Reference) :=
  b.values.map fun r => (sortKey r, r)

theorem map_snd_keyed (b : Bibliography) : (keyed b).map Prod.snd = b.values := by
  rw [keyed, List.map_map]
  exact List.map_id _

/-- The same references in the order of their keys. -/
def keyedInOrder (b : Bibliography) : List ((String × String) × Reference) :=
  (keyed b).mergeSort fun x y => keyLe x.1 y.1

theorem sorted_eq (b : Bibliography) : sorted b = (keyedInOrder b).map Prod.snd := rfl

theorem keyedInOrder_perm (b : Bibliography) : (keyedInOrder b).Perm (keyed b) :=
  List.mergeSort_perm _ _

theorem sorted_perm (b : Bibliography) : (sorted b).Perm b.values := by
  rw [sorted_eq, ← map_snd_keyed]
  exact (keyedInOrder_perm b).map Prod.snd

/-- A reference stands beside its own key. -/
theorem fst_of_mem_keyed {b : Bibliography} {x : (String × String) × Reference}
    (h : x ∈ keyed b) : x.1 = sortKey x.2 := by
  obtain ⟨r, -, rfl⟩ := List.mem_map.1 h
  rfl

theorem fst_of_mem_keyedInOrder {b : Bibliography} {x : (String × String) × Reference}
    (h : x ∈ keyedInOrder b) : x.1 = sortKey x.2 :=
  fst_of_mem_keyed ((keyedInOrder_perm b).mem_iff.1 h)

theorem pairwise_sorted (b : Bibliography) :
    (sorted b).Pairwise fun x y => toLex (sortKey x) ≤ toLex (sortKey y) := by
  rw [sorted_eq, List.pairwise_map]
  refine (List.pairwise_mergeSort keyLe_trans keyLe_total (keyed b)).imp_of_mem ?_
  intro x y hx hy hle
  rw [← fst_of_mem_keyedInOrder hx, ← fst_of_mem_keyedInOrder hy]
  exact keyLe_iff.1 hle

/-- Sorting leaves the entries with one key as they stand. -/
theorem filter_keyedInOrder (b : Bibliography) (key : String × String) :
    (keyedInOrder b).filter (fun x => x.1 = key) = (keyed b).filter fun x => x.1 = key := by
  -- equal keys stand in order as they are, so sorting keeps them as a sublist
  have hordered : ((keyed b).filter fun x => x.1 = key).Pairwise
      fun x y => keyLe x.1 y.1 = true := by
    refine List.pairwise_iff_forall_sublist.2 fun {x y} hxy => ?_
    have hx := List.of_mem_filter (hxy.subset (List.mem_pair.2 (Or.inl rfl)))
    have hy := List.of_mem_filter (hxy.subset (List.mem_pair.2 (Or.inr rfl)))
    rw [keyLe_iff, of_decide_eq_true hx, of_decide_eq_true hy]
  have hsub := (List.sublist_mergeSort keyLe_trans keyLe_total hordered
    List.filter_sublist).filter fun x => x.1 = key
  simp only [List.filter_filter, Bool.and_self] at hsub
  exact (hsub.eq_of_length ((keyedInOrder_perm b).filter _).length_eq.symm).symm

/-- References that stand beside their keys are found by either. -/
theorem filter_map_snd {xs : List ((String × String) × Reference)}
    (h : ∀ x ∈ xs, x.1 = sortKey x.2) (key : String × String) :
    (xs.map Prod.snd).filter (fun r => sortKey r = key) =
      (xs.filter fun x => x.1 = key).map Prod.snd := by
  rw [List.filter_map]
  refine congrArg (List.map Prod.snd) (List.filter_congr fun x hx => ?_)
  rw [h x hx, Function.comp_apply]

/-- References with one sort key keep the order of the database. -/
theorem filter_sorted (b : Bibliography) (key : String × String) :
    (sorted b).filter (fun r => sortKey r = key) =
      b.values.filter fun r => sortKey r = key := by
  rw [sorted_eq, filter_map_snd (fun _ => fst_of_mem_keyedInOrder), filter_keyedInOrder,
    ← filter_map_snd (fun _ => fst_of_mem_keyed), map_snd_keyed]

/-- **The list is sorted by its sort keys.** -/
theorem sortedBy_sorted (b : Bibliography) : SortedBy sortKey b.values (sorted b) :=
  ⟨sorted_perm b, (pairwise_sorted b).imp fun h => Prod.Lex.toLex_le_toLex.1 h,
    fun r _ => filter_sorted b (sortKey r)⟩

/-! ## 4. The two renderings -/

/-- The list in HTML: a container with one element a line. -/
theorem bibliography_html (b : Bibliography) (style : String) :
    formatter.bibliography b style .html =
      .ok ("<div class=\"csl-bib-body\">\n" ++
        "\n".intercalate ((sorted b).map fun r => "  " ++ entryElement r) ++ "\n</div>") := by
  have hentries : ((sorted b).map entry).map Rich.html =
      (sorted b).map fun r => "  " ++ entryElement r := by
    rw [List.map_map]
    exact List.map_congr_left fun r _ => html_entry r
  have hhtml := Rich.html_bibliography ((sorted b).map entry)
  rw [hentries] at hhtml
  exact congrArg Except.ok hhtml

theorem bibliography_text (b : Bibliography) (style : String) :
    formatter.bibliography b style .text =
      .ok ("\n".intercalate ((sorted b).map fun r => (entry r).plain)) := by
  have hplain := Rich.plain_bibliography ((sorted b).map entry)
  rw [List.map_map] at hplain
  exact congrArg Except.ok hplain

/-- **HTML and plain text say the same.** Formatted text in a line reads in HTML as it reads in
    plain text. Both forms of a reference list come from one sequence of references, which is the
    bibliography in the order of the first family name in small letters (the title, where there
    is no name) and then of the year, with ties in the order of the database, and the element at
    each place reads as the plain entry at that place. -/
theorem renderings_agree :
    (∀ r : Rich, r.IsInline → readAsText r.html = r.plain) ∧
      ∀ (b : Bibliography) (style : String), ∃ rs : List Reference,
        SortedBy (fun r => (Text.toLower (((r.authors ++ r.editors).head?.map Name.family).getD
          (r.title.getD "")), r.year.getD "")) b.values rs ∧
        formatter.bibliography b style .html =
          .ok ("<div class=\"csl-bib-body\">\n" ++
            "\n".intercalate (rs.map fun r => "  " ++ entryElement r) ++ "\n</div>") ∧
        formatter.bibliography b style .text =
          .ok ("\n".intercalate (rs.map fun r => (entry r).plain)) ∧
        ∀ r ∈ rs, readAsText (entryElement r) = (entry r).plain :=
  ⟨fun _ h => readAsText_html h, fun b style => ⟨sorted b, sortKey_eq ▸ sortedBy_sorted b,
    bibliography_html b style, bibliography_text b style, fun r _ => readAsText_entryElement r⟩⟩

/-- A link around joined items, with the characters of markup in its text and in its address. -/
def markedLink : Rich :=
  .link "https://a.b/?x=\"1\"&y"
    (.join [.emph (.text "A <b> & \"c\""), .emph (.text ""), .affix "(" (.text "1 > 0") ")"] ", ")

theorem isInline_markedLink : markedLink.IsInline := by
  refine .link _ (.join (fun r hr => ?_) bare_comma)
  simp only [List.mem_cons, List.not_mem_nil, or_false] at hr
  rcases hr with rfl | rfl | rfl
  · exact .emph (.text _)
  · exact .emph (.text _)
  · exact .affix (by decide) (.text _) (by decide)

/-- A work with the family names of its people. -/
def listed (id : String) (authors editors : List String) (title year : Option String) :
    String × Reference :=
  let person := fun family => (⟨family, "Ann"⟩ : Name)
  (id, { (default : Reference) with
    id := id, authors := authors.map person, editors := editors.map person,
    title := title, year := year })

/-- Works by authors, by an editor and by nobody, with capital letters, a missing year and two
    works of one name and year. -/
def mixedList : Bibliography :=
  Dict.ofList [
    listed "late" ["Lee"] [] (some "Zebras") (some "2021"),
    listed "prefixed" ["de Vries"] ["Abel"] none (some "2022"),
    listed "undated" ["LEE", "Abel"] [] none none,
    listed "edited" [] ["Kim"] (some "Abacus") (some "2023"),
    listed "early" ["Lee"] [] none (some "2019"),
    listed "anonymous" [] [] (some "apples & pears") none,
    listed "tied" ["lee"] [] (some "Apes") (some "2021")]

/-- The works of `mixedList` as its reference list has them. -/
def mixedOrder : List Reference :=
  ["anonymous", "prefixed", "edited", "undated", "early", "late", "tied"].filterMap mixedList.get?

theorem sortedBy_mixedOrder : SortedBy sortKey mixedList.values mixedOrder :=
  ⟨by decide +kernel, by decide +kernel, by decide +kernel⟩

theorem renderings_agree_on_mixedList :
    (markedLink.IsInline ∧
      markedLink.html =
        "<a href=\"https://a.b/?x=&quot;1&quot;&amp;y\">" ++
          "<i>A &lt;b&gt; &amp; \"c\"</i>, , (1 &gt; 0)</a>" ∧
      markedLink.plain = "A <b> & \"c\", , (1 > 0)" ∧
      readAsText markedLink.html = markedLink.plain) ∧
    formatter.bibliography mixedList "apa" .text = .ok (
      "apples & pears. (n.d.).\n" ++
      "de Vries, A. (2022).\n" ++
      "Kim, A. (Ed.) (2023). Abacus.\n" ++
      "LEE, A., & Abel, A. (n.d.).\n" ++
      "Lee, A. (2019).\n" ++
      "Lee, A. (2021). Zebras.\n" ++
      "lee, A. (2021). Apes.") ∧
    formatter.bibliography mixedList "apa" .html = .ok (
      "<div class=\"csl-bib-body\">\n" ++
      "  <div class=\"csl-entry\"><i>apples &amp; pears</i>. (n.d.).</div>\n" ++
      "  <div class=\"csl-entry\">de Vries, A. (2022).</div>\n" ++
      "  <div class=\"csl-entry\">Kim, A. (Ed.) (2023). <i>Abacus</i>.</div>\n" ++
      "  <div class=\"csl-entry\">LEE, A., &amp; Abel, A. (n.d.).</div>\n" ++
      "  <div class=\"csl-entry\">Lee, A. (2019).</div>\n" ++
      "  <div class=\"csl-entry\">Lee, A. (2021). <i>Zebras</i>.</div>\n" ++
      "  <div class=\"csl-entry\">lee, A. (2021). <i>Apes</i>.</div>\n" ++
      "</div>") := by
  have hinline := renderings_agree.1 markedLink isInline_markedLink
  obtain ⟨rs, hsorted, hhtml, htext, -⟩ := renderings_agree.2 mixedList "apa"
  obtain rfl : rs = mixedOrder := hsorted.unique (sortKey_eq ▸ sortedBy_mixedOrder)
  rw [hhtml, htext]
  exact ⟨⟨isInline_markedLink, by decide +kernel, by decide +kernel, hinline⟩,
    by decide +kernel, by decide +kernel⟩

end Galley.AuthorDate
