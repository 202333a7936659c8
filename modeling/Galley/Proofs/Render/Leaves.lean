import Galley.Proofs.Render.Reading
import Mathlib.Data.String.Basic

/-!
# Flat formatted text

Formatted text is flat when its emphasis and its links stand right around text. It is then a
sequence of leaves, and both its HTML and its plain text are written leaf by leaf. Main statements:
`html_eq_leaves`, `lineFeed_mem_html_iff`.
-/

namespace Galley.Rich

/-! ## 1. Leaves -/

/-- Running text without anything in it: text, emphasised text, or the text of a link. -/
inductive Leaf where
  | text (s : List Char)
  | emph (s : List Char)
  | link (url s : List Char)

namespace Leaf

/-- A leaf in HTML; formatting of no text is not written. -/
def html : Leaf → List Char
  | .text s => s.flatMap escapedTextChar
  | .emph s =>
    if s.isEmpty then [] else "<i>".toList ++ (s.flatMap escapedTextChar ++ "</i>".toList)
  | .link url s =>
    if s.isEmpty then []
    else "<a href=\"".toList ++ (url.flatMap escapedAttributeChar ++ ("\">".toList ++
      (s.flatMap escapedTextChar ++ "</a>".toList)))

/-- The text of a leaf. -/
def plain : Leaf → List Char
  | .text s | .emph s | .link _ s => s

end Leaf

mutual

/-- The leaves of formatted text, where formatting within formatting counts as text. -/
def leaves : Rich → List Leaf
  | .text s => [.text s.toList]
  | .emph content => [.emph content.plain.toList]
  | .link url content => [.link url.toList content.plain.toList]
  | .affix before content after =>
    .text before.toList :: (leaves content ++ [.text after.toList])
  | .join items delimiter => leavesAmong delimiter items
  | .entry _ content => leaves content
  | .bibliography entries => leavesAmong "\n" entries

/-- The leaves of items, with a string between them. -/
def leavesAmong (delimiter : String) : List Rich → List Leaf
  | [] => []
  | r :: rs =>
    leaves r ++ if rs.isEmpty then [] else .text delimiter.toList :: leavesAmong delimiter rs

end

/-- Formatted text in a line whose emphasis stands right around text and whose links are addresses
that show themselves. The strings that are written as they are hold no markup. -/
inductive IsFlat : Rich → Prop where
  | text (s : String) : IsFlat (.text s)
  | emph (s : String) : IsFlat (.emph (.text s))
  | address (url : String) : IsFlat (.link url (.text url))
  | affix {before after : String} {content : Rich} (hbefore : Bare before) (h : IsFlat content)
      (hafter : Bare after) : IsFlat (.affix before content after)
  | join {items : List Rich} {delimiter : String} (h : ∀ r ∈ items, IsFlat r)
      (hdelimiter : Bare delimiter) : IsFlat (.join items delimiter)

theorem IsFlat.isInline {r : Rich} (h : IsFlat r) : IsInline r := by
  induction h with
  | text s => exact .text s
  | emph s => exact .emph (.text s)
  | address url => exact .link url (.text url)
  | affix hbefore _ hafter ih => exact .affix hbefore ih hafter
  | join _ hdelimiter ih => exact .join ih hdelimiter

/-! ## 2. Writing leaf by leaf -/

/-- What is written leaf by leaf for each item is written leaf by leaf for joined items. -/
theorem toList_intercalate {write : Rich → String} {writeLeaf : Leaf → List Char}
    {delimiter : String} (hdelimiter : writeLeaf (.text delimiter.toList) = delimiter.toList)
    {items : List Rich} (h : ∀ r ∈ items, (write r).toList = (leaves r).flatMap writeLeaf) :
    (delimiter.intercalate (items.map write)).toList =
      (leavesAmong delimiter items).flatMap writeLeaf := by
  induction items with
  | nil => rw [List.map_nil, String.intercalate_nil, leavesAmong]; rfl
  | cons r rs ih =>
    obtain ⟨hr, hrs⟩ := List.forall_mem_cons.1 h
    cases rs with
    | nil =>
      rw [List.map_singleton, String.intercalate_singleton, hr, leavesAmong, List.isEmpty_nil,
        if_pos rfl, List.append_nil]
    | cons s rs =>
      rw [leavesAmong, List.isEmpty_cons, if_neg Bool.false_ne_true, List.flatMap_append,
        List.flatMap_cons, hdelimiter, ← hr, ← ih hrs, List.map_cons, List.map_cons,
        String.intercalate_cons_cons, String.toList_append, String.toList_append, List.append_assoc]

theorem Bare.html_text {s : String} (h : Bare s) : (Leaf.text s.toList).html = s.toList :=
  h.flatMap_escapedTextChar

theorem html_text (s : String) : (text s).html = escapeText s := rfl
theorem html_emph (r : Rich) : (emph r).html = htmlEmph r.html := rfl
theorem html_link (url : String) (r : Rich) : (link url r).html = htmlLink url r.html := rfl
theorem html_affix (a b : String) (r : Rich) : (affix a r b).html = a ++ r.html ++ b := rfl
theorem plain_affix (a b : String) (r : Rich) : (affix a r b).plain = a ++ r.plain ++ b := rfl

/-- Nothing else than the empty text is written as nothing. -/
theorem isEmpty_escapeText (s : String) : (escapeText s).isEmpty = s.toList.isEmpty := by
  rw [Bool.eq_iff_iff, String.isEmpty_iff, ← String.toList_eq_nil_iff, toList_escapeText,
    List.isEmpty_iff]
  cases s.toList with
  | nil => exact iff_of_true rfl rfl
  | cons c cs => simp [escapedTextChar_ne_nil]

/-- **HTML is written leaf by leaf.** -/
theorem html_eq_leaves {r : Rich} (h : IsFlat r) : r.html.toList = r.leaves.flatMap Leaf.html := by
  induction h with
  | text s => rw [html_text, toList_escapeText, leaves, List.flatMap_singleton]; rfl
  | emph s =>
    rw [html_emph, html_text, htmlEmph, isEmpty_escapeText, leaves, List.flatMap_singleton,
      Leaf.html]
    show _ = if s.toList.isEmpty then [] else _
    split
    · next h => rw [toList_escapeText, List.isEmpty_iff.1 h]; rfl
    · rw [String.toList_append, String.toList_append, toList_escapeText, List.append_assoc]
      rfl
  | address url =>
    rw [html_link, html_text, htmlLink, isEmpty_escapeText, leaves, List.flatMap_singleton,
      Leaf.html]
    show _ = if url.toList.isEmpty then [] else _
    split
    · next h => rw [toList_escapeText, List.isEmpty_iff.1 h]; rfl
    · simp only [String.toList_append, toList_escapeText, toList_escapeAttribute,
        List.append_assoc]
      rfl
  | affix hbefore _ hafter ih =>
    rw [html_affix, String.toList_append, String.toList_append, ih, leaves, List.flatMap_cons,
      List.flatMap_append, List.flatMap_singleton, hbefore.html_text, hafter.html_text,
      List.append_assoc]
  | join _ hdelimiter ih =>
    rw [html_join, leaves]
    exact toList_intercalate hdelimiter.html_text ih

/-- Plain text is written leaf by leaf. -/
theorem plain_eq_leaves {r : Rich} (h : IsFlat r) :
    r.plain.toList = r.leaves.flatMap Leaf.plain := by
  induction h with
  | text s | emph s | address url => rw [leaves, List.flatMap_singleton]; rfl
  | affix _ _ _ ih =>
    rw [plain_affix, String.toList_append, String.toList_append, ih, leaves, List.flatMap_cons,
      List.flatMap_append, List.flatMap_singleton, List.append_assoc]
    rfl
  | join _ _ ih =>
    rw [plain_join, leaves]
    exact toList_intercalate rfl ih

/-! ## 3. Line feeds -/

theorem lineFeed_mem_escapedTextChar {c : Char} : '\n' ∈ escapedTextChar c ↔ c = '\n' := by
  rcases escapedTextChar_cases c with ⟨rfl, he⟩ | ⟨rfl, he⟩ | ⟨rfl, he⟩ | ⟨-, he⟩ <;> rw [he]
  · decide
  · decide
  · decide
  · rw [List.mem_singleton, eq_comm]

theorem lineFeed_mem_escapedAttributeChar {c : Char} :
    '\n' ∈ escapedAttributeChar c ↔ c = '\n' := by
  rw [escapedAttributeChar]
  split
  · next h => rw [h]; decide
  · exact lineFeed_mem_escapedTextChar

/-- Markup holds no line feed, so a leaf holds one where its text or its address does. -/
theorem lineFeed_mem_html_leaf {leaf : Leaf} (h : ∀ url s, leaf = .link url s → url = s) :
    '\n' ∈ leaf.html ↔ '\n' ∈ leaf.plain := by
  have htext (s : List Char) : '\n' ∈ s.flatMap escapedTextChar ↔ '\n' ∈ s := by
    simp [List.mem_flatMap, lineFeed_mem_escapedTextChar]
  have hurl (s : List Char) : '\n' ∈ s.flatMap escapedAttributeChar ↔ '\n' ∈ s := by
    simp [List.mem_flatMap, lineFeed_mem_escapedAttributeChar]
  cases leaf with
  | text s => exact htext s
  | emph s =>
    rw [Leaf.html, Leaf.plain]
    split
    · next hs => rw [List.isEmpty_iff.1 hs]
    · rw [List.mem_append, List.mem_append, htext]
      simp
  | link url s =>
    rw [h url s rfl, Leaf.html, Leaf.plain]
    split
    · next hs => rw [List.isEmpty_iff.1 hs]
    · rw [List.mem_append, List.mem_append, List.mem_append, List.mem_append, htext, hurl]
      simp

theorem mem_leavesAmong {delimiter : String} {items : List Rich} {leaf : Leaf}
    (h : leaf ∈ leavesAmong delimiter items) :
    leaf = .text delimiter.toList ∨ ∃ r ∈ items, leaf ∈ r.leaves := by
  induction items with
  | nil => cases h
  | cons r rs ih =>
    rcases List.mem_append.1 h with h | h
    · exact .inr ⟨r, List.mem_cons_self, h⟩
    · split at h
      · cases h
      · rcases List.mem_cons.1 h with h | h
        · exact .inl h
        · exact (ih h).imp_right fun ⟨s, hs, hleaf⟩ => ⟨s, List.mem_cons_of_mem r hs, hleaf⟩

/-- The links of flat text are addresses that show themselves. -/
theorem eq_of_link_mem_leaves {r : Rich} (h : IsFlat r) {url s : List Char}
    (hmem : .link url s ∈ r.leaves) : url = s := by
  induction h with
  | text _ | emph _ => cases List.mem_singleton.1 hmem
  | address _ =>
    cases List.mem_singleton.1 hmem
    rfl
  | affix _ _ _ ih =>
    rcases List.mem_cons.1 hmem with hmem | hmem
    · cases hmem
    · rcases List.mem_append.1 hmem with hmem | hmem
      · exact ih hmem
      · cases List.mem_singleton.1 hmem
  | join _ _ ih =>
    rcases mem_leavesAmong hmem with hmem | ⟨r, hr, hmem⟩
    · cases hmem
    · exact ih r hr hmem

/-- **Flat text holds a line feed in HTML exactly when it does in plain text.** -/
theorem lineFeed_mem_html_iff {r : Rich} (h : IsFlat r) :
    '\n' ∈ r.html.toList ↔ '\n' ∈ r.plain.toList := by
  rw [html_eq_leaves h, plain_eq_leaves h, List.mem_flatMap, List.mem_flatMap]
  exact exists_congr fun leaf => and_congr_right fun hleaf =>
    lineFeed_mem_html_leaf fun url s he => eq_of_link_mem_leaves h (he ▸ hleaf)

end Galley.Rich
