import Galley.Finish.Assembly
import Galley.Proofs.Html.Paragraph
import Galley.Proofs.Style.ReferenceList
import Galley.Proofs.Text.Lines

/-!
# The lines of a reference list

Before its lines are imported, a reference list in HTML loses the division around it, and the
divisions in it become paragraphs. Where a list of entries is written one a line, the lines that
hold anything are those of its entries, and an entry without a line feed is one of them. Main
statements: `entryLines_of_bibliography`, `heldLines_oneLine`, `one_lt_length_heldLines`.
-/

namespace Galley

open Galley.Text
open Galley.Rich (Leaf escapedTextChar)
open Galley.Html (paragraphHtml paragraphHtml_eq)

/-! ## 1. The division around the list -/

/-- A list loses the division around it. -/
theorem unwrapOuterDiv_list (inside : List Char) :
    unwrapOuterDiv ("<div class=\"csl-bib-body\">\n".toList ++ (inside ++ "\n</div>".toList)) =
      '\n' :: (inside ++ ['\n']) := by
  let attrs := " class=\"csl-bib-body\"".toList
  let content := '\n' :: (inside ++ ['\n'])
  have hopening : "<div class=\"csl-bib-body\">\n".toList =
      "<div".toList ++ (attrs ++ ['>', '\n']) := by decide +kernel
  have hlist : "<div class=\"csl-bib-body\">\n".toList ++ (inside ++ "\n</div>".toList) =
      "<div".toList ++ (attrs ++ '>' :: (content ++ "</div>".toList)) := by
    rw [hopening]
    simp [content]
  have hattrs : cut? ['>'] (attrs ++ '>' :: (content ++ "</div>".toList)) =
      some (attrs, content ++ "</div>".toList) :=
    cut?_char_eq_some_iff.2 ⟨rfl, by decide⟩
  rw [unwrapOuterDiv, hlist, cut?_append_self (by decide)]
  simp only [Option.bind_eq_bind, Option.bind_some, hattrs]
  rw [cutLast?_append_self (by decide)]
  simp [content]

/-! ## 2. Divisions within the list -/

/-- The rule by which divisions become paragraphs. -/
def divisionRule : Rule :=
  (renameTag "<div".toList "<p".toList).orElse (renameTag "</div".toList "</p".toList)

theorem divsToParagraphs_eq (cs : List Char) :
    divsToParagraphs cs = replaceAll divisionRule cs := rfl

/-- Whatever follows it, the text `a` becomes `b`. -/
def BecomesText (a b : List Char) : Prop :=
  ∀ rest, divsToParagraphs (a ++ rest) = b ++ divsToParagraphs rest

theorem BecomesText.append {a b c d : List Char} (hab : BecomesText a b) (hcd : BecomesText c d) :
    BecomesText (a ++ c) (b ++ d) := fun rest => by
  rw [List.append_assoc, hab, hcd, List.append_assoc]

theorem becomesText_nil : BecomesText [] [] := fun _ => rfl

/-- Text in which no tag begins stays as it is. -/
theorem becomesText_of_not_mem {a : List Char} (h : '<' ∉ a) : BecomesText a a := fun rest => by
  induction a with
  | nil => rfl
  | cons c a ih =>
    obtain ⟨hc, ha⟩ := not_or.1 (mt List.mem_cons.2 h)
    have hrule : divisionRule (c :: (a ++ rest)) = none := by
      simp [divisionRule, Rule.orElse, renameTag, after?, hc]
    rw [List.cons_append, divsToParagraphs_eq, replaceAll_cons_none hrule, ← divsToParagraphs_eq,
      ih ha, List.cons_append]

/-- A tag that the rule does not know stays as it is. -/
theorem becomesText_tag {a : List Char} (hrule : ∀ rest, divisionRule ('<' :: (a ++ rest)) = none)
    (h : '<' ∉ a) : BecomesText ('<' :: a) ('<' :: a) := fun rest => by
  rw [List.cons_append, divsToParagraphs_eq, replaceAll_cons_none (hrule rest),
    ← divsToParagraphs_eq, becomesText_of_not_mem h, List.cons_append]

/-- The name of a tag that the rule knows is written anew. -/
theorem becomesText_renamed {old new attrs : List Char}
    (hrule : ∀ rest, divisionRule ('<' :: (old ++ (attrs ++ rest))) = some (new, attrs ++ rest))
    (h : '<' ∉ attrs) : BecomesText ('<' :: (old ++ attrs)) (new ++ attrs) := fun rest => by
  rw [List.cons_append, List.append_assoc, divsToParagraphs_eq,
    replaceAll_cons_some (hrule rest) (by simp), ← divsToParagraphs_eq, becomesText_of_not_mem h,
    List.append_assoc]

theorem bracket_not_mem_escapedText (s : List Char) : '<' ∉ s.flatMap escapedTextChar := fun h => by
  obtain ⟨c, -, hc⟩ := List.mem_flatMap.1 h
  exact (Rich.bracket_not_mem_escapedTextChar hc).1 rfl

theorem bracket_not_mem_escapedAttribute (s : List Char) :
    '<' ∉ s.flatMap Rich.escapedAttributeChar := fun h => by
  obtain ⟨c, -, hc⟩ := List.mem_flatMap.1 h
  exact (Rich.bracket_not_mem_escapedAttributeChar hc).1 rfl

theorem becomesText_leaf (leaf : Leaf) : BecomesText leaf.html leaf.html := by
  have htext (s : List Char) := becomesText_of_not_mem (bracket_not_mem_escapedText s)
  cases leaf with
  | text s => exact htext s
  | emph s =>
    have hopening : BecomesText "<i>".toList "<i>".toList :=
      becomesText_tag (fun _ => rfl) (by decide)
    have hclosing : BecomesText "</i>".toList "</i>".toList :=
      becomesText_tag (fun _ => rfl) (by decide)
    rw [Leaf.html]
    split
    · exact becomesText_nil
    · exact hopening.append ((htext s).append hclosing)
  | link url s =>
    have hopening : BecomesText "<a href=\"".toList "<a href=\"".toList :=
      becomesText_tag (fun _ => rfl) (by decide)
    have hurl := becomesText_of_not_mem (bracket_not_mem_escapedAttribute url)
    have hend : BecomesText "\">".toList "\">".toList := becomesText_of_not_mem (by decide)
    have hclosing : BecomesText "</a>".toList "</a>".toList :=
      becomesText_tag (fun _ => rfl) (by decide)
    rw [Leaf.html]
    split
    · exact becomesText_nil
    · exact hopening.append (hurl.append (hend.append ((htext s).append hclosing)))

theorem becomesText_leaves (leaves : List Leaf) :
    BecomesText (leaves.flatMap Leaf.html) (leaves.flatMap Leaf.html) := by
  induction leaves with
  | nil => exact becomesText_nil
  | cons leaf leaves ih => exact (becomesText_leaf leaf).append ih

theorem becomesText_intercalate {α : Type} {f g : α → List Char} {xs : List α}
    (h : ∀ x ∈ xs, BecomesText (f x) (g x)) :
    BecomesText (['\n'].intercalate (xs.map f)) (['\n'].intercalate (xs.map g)) := by
  induction xs with
  | nil => exact becomesText_nil
  | cons x xs ih =>
    obtain ⟨hx, hxs⟩ := List.forall_mem_cons.1 h
    cases xs with
    | nil => simpa using hx
    | cons y ys =>
      simp only [List.map_cons, List.intercalate_cons_cons]
      exact (hx.append (becomesText_of_not_mem (by decide))).append (ih hxs)

/-! ## 3. The lines of the list -/

namespace AuthorDate

/-- The line of a work in the list whose divisions have become paragraphs. -/
def paragraphLine (r : Reference) : List Char :=
  "  ".toList ++ paragraphHtml (content r).leaves

theorem becomesText_entry (r : Reference) :
    BecomesText ("  " ++ entryElement r).toList (paragraphLine r) := by
  let attrs := " class=\"csl-entry\">".toList
  have hblanks : BecomesText "  ".toList "  ".toList := becomesText_of_not_mem (by decide)
  have hopening : BecomesText ('<' :: ("div".toList ++ attrs)) ("<p".toList ++ attrs) :=
    becomesText_renamed (fun _ => rfl) (by decide)
  have hclosing : BecomesText ('<' :: ("/div".toList ++ ">".toList)) ("</p".toList ++ ">".toList) :=
    becomesText_renamed (fun _ => rfl) (by decide)
  have hline := hblanks.append
    (hopening.append ((becomesText_leaves (content r).leaves).append hclosing))
  have hdivision : "div class=\"csl-entry\"".toList ++ ['>'] = "div".toList ++ attrs := by
    decide +kernel
  have hparagraph : "<p class=\"csl-entry\">".toList = "<p".toList ++ attrs := by decide +kernel
  have hentry : ("  " ++ entryElement r).toList = "  ".toList ++ ('<' :: ("div".toList ++ attrs) ++
      ((content r).leaves.flatMap Leaf.html ++ '<' :: ("/div".toList ++ ">".toList))) := by
    rw [String.toList_append, entryElement, toList_elementAround,
      Rich.html_eq_leaves (isFlat_content r), ← hdivision]
    simp only [List.cons_append, List.append_assoc, List.nil_append]
    rfl
  rw [hentry, paragraphLine, paragraphHtml_eq, hparagraph]
  exact hline

/-- The text of a list: its lines between the tags of the container. -/
theorem toList_container (lines : List String) :
    ("<div class=\"csl-bib-body\">\n" ++ "\n".intercalate lines ++ "\n</div>").toList =
      "<div class=\"csl-bib-body\">\n".toList ++
        (['\n'].intercalate (lines.map String.toList) ++ "\n</div>".toList) := by
  rw [String.toList_append, String.toList_append, String.toList_intercalate, List.append_assoc]
  rfl

/-- **The lines of a reference list are those of its entries.** -/
theorem entryLines_of_bibliography {b : Bibliography} {style html : String}
    (h : formatter.bibliography b style .html = .ok html) :
    entryLines html =
      ((sorted b).flatMap fun r => heldLines (paragraphLine r)).map String.ofList := by
  let body := ['\n'].intercalate ((sorted b).map fun r => ("  " ++ entryElement r).toList)
  let body' := ['\n'].intercalate ((sorted b).map paragraphLine)
  have hhtml : html.toList = "<div class=\"csl-bib-body\">\n".toList ++
      (body ++ "\n</div>".toList) := by
    rw [← Except.ok.inj ((bibliography_html b style).symm.trans h), toList_container, List.map_map]
    rfl
  have hdivisions : divsToParagraphs ('\n' :: (body ++ ['\n'])) = '\n' :: (body' ++ ['\n']) := by
    have hbreak : BecomesText ['\n'] ['\n'] := becomesText_of_not_mem (by decide)
    have hbody : BecomesText body body' := becomesText_intercalate fun r _ => becomesText_entry r
    have hall := (hbreak.append (hbody.append hbreak)) []
    have hnil : divsToParagraphs [] = [] := replaceAll_nil _
    rwa [List.append_nil, hnil, List.append_nil] at hall
  have hheld : heldLines ('\n' :: (body' ++ ['\n'])) =
      (sorted b).flatMap fun r => heldLines (paragraphLine r) := by
    have hfront := heldLines_append_lineFeed [] (body' ++ ['\n'])
    rw [List.nil_append] at hfront
    rw [hfront, heldLines_append_lineFeed, heldLines_nil, List.nil_append, List.append_nil,
      heldLines_intercalate, List.flatMap_map]
  have hlines : entryLines html =
      (heldLines (divsToParagraphs (unwrapOuterDiv html.toList))).map String.ofList := rfl
  rw [hlines, hhtml, unwrapOuterDiv_list, hdivisions, hheld]

/-! ## 4. The lines of an entry -/

/-- The entry of a work is written on one line. -/
def OneLine (r : Reference) : Prop := '\n' ∉ (entry r).plain.toList

instance (r : Reference) : Decidable (OneLine r) :=
  inferInstanceAs (Decidable ('\n' ∉ (entry r).plain.toList))

/-- The paragraph of an entry is on one line exactly when its text is. -/
theorem lineFeed_mem_paragraphHtml_iff (r : Reference) :
    '\n' ∈ paragraphHtml (content r).leaves ↔ '\n' ∈ (entry r).plain.toList := by
  have hplain : (entry r).plain = (content r).plain := rfl
  have hopening : '\n' ∉ "<p class=\"csl-entry\">".toList := by decide +kernel
  have hclosing : '\n' ∉ "</p>".toList := by decide
  rw [paragraphHtml_eq, ← Rich.html_eq_leaves (isFlat_content r), List.mem_append, List.mem_append,
    Rich.lineFeed_mem_html_iff (isFlat_content r), hplain]
  simp only [hopening, hclosing, false_or, or_false]

/-- An entry on one line is one line of the list. -/
theorem heldLines_oneLine {r : Reference} (h : OneLine r) :
    heldLines (paragraphLine r) = [paragraphHtml (content r).leaves] := by
  have hline : '\n' ∉ paragraphLine r := fun hmem => by
    rcases List.mem_append.1 hmem with hmem | hmem
    · revert hmem; decide
    · exact h ((lineFeed_mem_paragraphHtml_iff r).1 hmem)
  have hframed : paragraphHtml (content r).leaves =
      '<' :: (("p class=\"csl-entry\">".toList ++
        ((content r).leaves.flatMap Leaf.html ++ "</p".toList)) ++ ['>']) := by
    rw [paragraphHtml_eq, List.append_assoc, List.append_assoc]
    rfl
  have htrimmed : trimChars (paragraphLine r) = paragraphHtml (content r).leaves := by
    rw [paragraphLine, hframed]
    exact trimChars_framed (by decide) rfl rfl _
  rw [heldLines, splitLines_of_not_mem hline, List.map_singleton, htrimmed, hframed]
  rfl

/-- An entry with a line feed is more than one line: its tags stand on different ones. -/
theorem one_lt_length_heldLines {r : Reference} (h : ¬OneLine r) :
    1 < (heldLines (paragraphLine r)).length := by
  have hmem : '\n' ∈ (content r).html.toList :=
    (Rich.lineFeed_mem_html_iff (isFlat_content r)).2 (Decidable.not_not.1 h)
  obtain ⟨front, back, hsplit⟩ := List.append_of_mem hmem
  have hline : paragraphLine r = ("  ".toList ++ ("<p class=\"csl-entry\">".toList ++ front)) ++
      '\n' :: (back ++ "</p>".toList) := by
    rw [paragraphLine, paragraphHtml_eq, ← Rich.html_eq_leaves (isFlat_content r), hsplit]
    simp only [List.append_assoc, List.cons_append]
  have hfront : heldLines ("  ".toList ++ ("<p class=\"csl-entry\">".toList ++ front)) ≠ [] :=
    heldLines_ne_nil (List.mem_append_right _ (List.mem_append_left _ List.mem_cons_self))
      (rfl : isBlank '<' = false)
  have hback : heldLines (back ++ "</p>".toList) ≠ [] :=
    heldLines_ne_nil (List.mem_append_right _ List.mem_cons_self) (rfl : isBlank '<' = false)
  rw [hline, heldLines_append_lineFeed, List.length_append]
  have hfront := List.length_pos_of_ne_nil hfront
  have hback := List.length_pos_of_ne_nil hback
  omega

end AuthorDate

end Galley
