import Galley.Render.Rich
import Galley.Text.Scan
import Mathlib.Data.List.Basic

/-!
# Reading HTML as text

HTML is read as text by deleting its tags and then writing the characters for their entities, once.
What is read from formatted text is the text without its formatting, however the formatting is
nested, as long as the strings that are written as they are hold no markup. Main statement:
`readAsText_html`.
-/

namespace Galley.Rich

open Galley.Text

/-! ## 1. Deleting tags and decoding entities -/

/-- A tag, from its opening bracket up to the next closing one, gives nothing. -/
def tagRule : Rule := fun cs => (between? '<' '>' cs).map fun p => ([], p.2)

/-- HTML without its tags. -/
def withoutTags (cs : List Char) : List Char := replaceAll tagRule cs

/-- An entity gives its character. -/
def entityRule : Rule :=
  (Rule.word "&lt;".toList ['<']).orElse
    ((Rule.word "&gt;".toList ['>']).orElse (Rule.word "&amp;".toList ['&']))

/-- Text with the characters in place of their entities, from left to right and once. -/
def decoded (cs : List Char) : List Char := replaceAll entityRule cs

/-- HTML read as text. -/
def readAsText (html : String) : String :=
  String.ofList (decoded (withoutTags html.toList))

/-! ## 2. Text without markup -/

/-- A character that HTML does not write as it is. -/
def isMarkup (c : Char) : Bool := c = '&' || c = '<' || c = '>'

/-- A string without the characters that HTML writes as entities. -/
def Bare (s : String) : Prop := ∀ c ∈ s.toList, isMarkup c = false

instance (s : String) : Decidable (Bare s) :=
  decidable_of_iff (s.toList.all fun c => !isMarkup c) (by simp [Bare])

theorem escapedTextChar_of_bare {c : Char} (h : isMarkup c = false) :
    escapedTextChar c = [c] := by
  simp only [isMarkup, Bool.or_eq_false_iff, decide_eq_false_iff_not] at h
  simp [escapedTextChar, h.1.1, h.1.2, h.2]

/-- What is written for a character of running text. -/
theorem escapedTextChar_cases (c : Char) :
    (c = '&' ∧ escapedTextChar c = "&amp;".toList) ∨
      (c = '<' ∧ escapedTextChar c = "&lt;".toList) ∨
      (c = '>' ∧ escapedTextChar c = "&gt;".toList) ∨
      (isMarkup c = false ∧ escapedTextChar c = [c]) := by
  by_cases hamp : c = '&'
  · exact Or.inl ⟨hamp, by rw [hamp]; rfl⟩
  by_cases hlt : c = '<'
  · exact Or.inr (Or.inl ⟨hlt, by rw [hlt]; rfl⟩)
  by_cases hgt : c = '>'
  · exact Or.inr (Or.inr (Or.inl ⟨hgt, by rw [hgt]; rfl⟩))
  · have hbare : isMarkup c = false := by simp [isMarkup, hamp, hlt, hgt]
    exact Or.inr (Or.inr (Or.inr ⟨hbare, escapedTextChar_of_bare hbare⟩))

theorem escapedTextChar_ne_nil (c : Char) : escapedTextChar c ≠ [] := by
  rcases escapedTextChar_cases c with ⟨-, he⟩ | ⟨-, he⟩ | ⟨-, he⟩ | ⟨-, he⟩ <;> rw [he] <;> simp

/-- A character of a text without angle brackets is none. -/
theorem not_bracket_of_all {cs : List Char} {d : Char}
    (hcs : (cs.all fun c => c != '<' && c != '>') = true) (h : d ∈ cs) : d ≠ '<' ∧ d ≠ '>' := by
  simpa using List.all_eq_true.1 hcs d h

theorem bracket_not_mem_escapedTextChar {c d : Char} (h : d ∈ escapedTextChar c) :
    d ≠ '<' ∧ d ≠ '>' := by
  rcases escapedTextChar_cases c with ⟨-, he⟩ | ⟨-, he⟩ | ⟨-, he⟩ | ⟨hbare, he⟩ <;> rw [he] at h
  · exact not_bracket_of_all (by decide) h
  · exact not_bracket_of_all (by decide) h
  · exact not_bracket_of_all (by decide) h
  · rw [List.mem_singleton.1 h]
    simp only [isMarkup, Bool.or_eq_false_iff, decide_eq_false_iff_not] at hbare
    exact ⟨hbare.1.2, hbare.2⟩

theorem bracket_not_mem_escapedAttributeChar {c d : Char} (h : d ∈ escapedAttributeChar c) :
    d ≠ '<' ∧ d ≠ '>' := by
  rw [escapedAttributeChar] at h
  split at h
  · exact not_bracket_of_all (by decide) h
  · exact bracket_not_mem_escapedTextChar h

@[simp] theorem toList_escapeText (s : String) :
    (escapeText s).toList = s.toList.flatMap escapedTextChar := by
  rw [escapeText, String.toList_ofList]

@[simp] theorem toList_escapeAttribute (s : String) :
    (escapeAttribute s).toList = s.toList.flatMap escapedAttributeChar := by
  rw [escapeAttribute, String.toList_ofList]

/-- A string without markup is written as it is. -/
theorem Bare.flatMap_escapedTextChar {s : String} (h : Bare s) :
    s.toList.flatMap escapedTextChar = s.toList := by
  calc s.toList.flatMap escapedTextChar
      = s.toList.flatMap fun c => [c] :=
        List.flatMap_congr fun c hc => escapedTextChar_of_bare (h c hc)
    _ = s.toList := by simp

/-! ## 3. Decoding undoes escaping -/

theorem decoded_cons_of_ne {c : Char} (h : c ≠ '&') (cs : List Char) :
    decoded (c :: cs) = c :: decoded cs := by
  refine replaceAll_cons_none ?_
  have hamp : '&' ≠ c := fun he => h he.symm
  simp [entityRule, Rule.orElse, Rule.word, after?, hamp]

theorem decoded_entity (word : List Char) {c : Char} {rest : List Char}
    (h : entityRule ('&' :: (word ++ rest)) = some ([c], rest)) :
    decoded ('&' :: (word ++ rest)) = c :: decoded rest := by
  rw [decoded, replaceAll_cons_some h (by simp)]
  rfl

theorem decoded_escapedTextChar (c : Char) (rest : List Char) :
    decoded (escapedTextChar c ++ rest) = c :: decoded rest := by
  rcases escapedTextChar_cases c with ⟨rfl, he⟩ | ⟨rfl, he⟩ | ⟨rfl, he⟩ | ⟨hbare, he⟩ <;> rw [he]
  · exact decoded_entity "amp;".toList rfl
  · exact decoded_entity "lt;".toList rfl
  · exact decoded_entity "gt;".toList rfl
  · refine decoded_cons_of_ne (fun h => ?_) rest
    rw [h] at hbare
    cases hbare

/-- **Decoding gives back what was escaped.** -/
theorem decoded_flatMap_escapedTextChar (s : List Char) :
    decoded (s.flatMap escapedTextChar) = s := by
  induction s with
  | nil => exact replaceAll_nil _
  | cons c s ih => rw [List.flatMap_cons, decoded_escapedTextChar, ih]

/-! ## 4. Deleting tags -/

theorem withoutTags_cons_of_ne {c : Char} (h : c ≠ '<') (cs : List Char) :
    withoutTags (c :: cs) = c :: withoutTags cs :=
  replaceAll_cons_none (by simp [tagRule, between?, h])

theorem withoutTags_append_of_ne {a : List Char} (h : ∀ c ∈ a, c ≠ '<') (rest : List Char) :
    withoutTags (a ++ rest) = a ++ withoutTags rest := by
  induction a with
  | nil => rfl
  | cons c a ih =>
    obtain ⟨hc, ha⟩ := List.forall_mem_cons.1 h
    rw [List.cons_append, withoutTags_cons_of_ne hc, ih ha, List.cons_append]

/-- A tag goes, up to its first closing bracket. -/
theorem withoutTags_tag {tag : List Char} (h : '>' ∉ tag) (rest : List Char) :
    withoutTags ('<' :: (tag ++ '>' :: rest)) = withoutTags rest := by
  have hrule : tagRule ('<' :: (tag ++ '>' :: rest)) = some ([], rest) := by
    rw [tagRule, between?_eq_some_iff.2 ⟨rfl, h⟩]
    rfl
  rw [withoutTags, replaceAll_cons_some hrule (by simp; omega)]
  rfl

/-- Escaped text holds no tag. -/
theorem withoutTags_flatMap_escapedTextChar (s rest : List Char) :
    withoutTags (s.flatMap escapedTextChar ++ rest) =
      s.flatMap escapedTextChar ++ withoutTags rest := by
  refine withoutTags_append_of_ne (fun d hd => ?_) rest
  obtain ⟨c, -, hc⟩ := List.mem_flatMap.1 hd
  exact (bracket_not_mem_escapedTextChar hc).1

/-! ## 5. Formatted text -/

theorem html_join (items : List Rich) (delimiter : String) :
    (join items delimiter).html = delimiter.intercalate (items.map html) := by
  show delimiter.intercalate (htmls items) = _
  rw [htmls_eq_map]

theorem plain_join (items : List Rich) (delimiter : String) :
    (join items delimiter).plain = delimiter.intercalate (items.map plain) := by
  show delimiter.intercalate (plains items) = _
  rw [plains_eq_map]

theorem html_bibliography (entries : List Rich) :
    (bibliography entries).html =
      "<div class=\"csl-bib-body\">\n" ++ "\n".intercalate (entries.map html) ++ "\n</div>" := by
  show "<div class=\"csl-bib-body\">\n" ++ "\n".intercalate (htmls entries) ++ "\n</div>" = _
  rw [htmls_eq_map]

theorem plain_bibliography (entries : List Rich) :
    (bibliography entries).plain = "\n".intercalate (entries.map plain) := by
  show "\n".intercalate (plains entries) = _
  rw [plains_eq_map]

/-- Formatted text that stands in a line, made of text, emphasis, links, joined items and content
    between strings. The strings that are written as they are hold no markup. -/
inductive IsInline : Rich → Prop where
  | text (s : String) : IsInline (.text s)
  | emph {content : Rich} (h : IsInline content) : IsInline (.emph content)
  | link (url : String) {content : Rich} (h : IsInline content) : IsInline (.link url content)
  | affix {before after : String} {content : Rich} (hbefore : Bare before) (h : IsInline content)
      (hafter : Bare after) : IsInline (.affix before content after)
  | join {items : List Rich} {delimiter : String} (h : ∀ r ∈ items, IsInline r)
      (hdelimiter : Bare delimiter) : IsInline (.join items delimiter)

/-- HTML whose tags are deleted gives the escaped form of the text `plain`, whatever follows. -/
def ReadsAs (html plain : String) : Prop :=
  ∀ rest, withoutTags (html.toList ++ rest) =
    plain.toList.flatMap escapedTextChar ++ withoutTags rest

section ReadsAs

variable {a b x y : String}

theorem Bare.readsAs (h : Bare a) : ReadsAs a a := fun rest => by
  have hescaped := withoutTags_flatMap_escapedTextChar a.toList rest
  rw [h.flatMap_escapedTextChar] at hescaped
  rw [hescaped, h.flatMap_escapedTextChar]

theorem readsAs_escapeText (s : String) : ReadsAs (escapeText s) s := fun rest => by
  rw [toList_escapeText]
  exact withoutTags_flatMap_escapedTextChar s.toList rest

theorem ReadsAs.append (ha : ReadsAs a x) (hb : ReadsAs b y) : ReadsAs (a ++ b) (x ++ y) :=
  fun rest => by
    rw [String.toList_append, List.append_assoc, ha, hb, String.toList_append,
      List.flatMap_append, List.append_assoc]

/-- An element reads as what is in it. -/
theorem ReadsAs.tagged (h : ReadsAs a x) (front back : List Char) (hfront : '>' ∉ front)
    (hback : '>' ∉ back) {html : String}
    (hhtml : html.toList = '<' :: (front ++ '>' :: (a.toList ++ '<' :: (back ++ ['>'])))) :
    ReadsAs html x := fun rest => by
  have hinside := h ('<' :: (back ++ '>' :: rest))
  rw [withoutTags_tag hback] at hinside
  rw [hhtml]
  simp only [List.cons_append, List.append_assoc, List.nil_append]
  rw [withoutTags_tag hfront, hinside]

theorem ReadsAs.htmlEmph (h : ReadsAs a x) : ReadsAs (htmlEmph a) x := by
  rw [Rich.htmlEmph]
  split
  · exact h
  · refine h.tagged ['i'] ['/', 'i'] (by decide) (by decide) ?_
    simp [String.toList_append]

theorem ReadsAs.htmlLink (h : ReadsAs a x) (url : String) : ReadsAs (htmlLink url a) x := by
  rw [Rich.htmlLink]
  split
  · exact h
  · have hfront : '>' ∉ "a href=\"".toList ++ (escapeAttribute url).toList ++ ['"'] := by
      rw [toList_escapeAttribute]
      simp only [List.mem_append, List.mem_flatMap]
      rintro ((hm | ⟨c, -, hc⟩) | hm)
      · revert hm; decide
      · exact (bracket_not_mem_escapedAttributeChar hc).2 rfl
      · revert hm; decide
    refine h.tagged _ ['/', 'a'] hfront (by decide) ?_
    simp [String.toList_append]

theorem readsAs_intercalate {delimiter : String} (hdelimiter : Bare delimiter) {items : List Rich}
    (h : ∀ r ∈ items, ReadsAs r.html r.plain) :
    ReadsAs (delimiter.intercalate (items.map html)) (delimiter.intercalate (items.map plain)) := by
  induction items with
  | nil =>
    have hempty : Bare "" := by decide +kernel
    rw [List.map_nil, List.map_nil, String.intercalate_nil]
    exact hempty.readsAs
  | cons r rs ih =>
    obtain ⟨hr, hrs⟩ := List.forall_mem_cons.1 h
    cases rs with
    | nil =>
      rw [List.map_singleton, List.map_singleton, String.intercalate_singleton,
        String.intercalate_singleton]
      exact hr
    | cons s rs =>
      simp only [List.map_cons, String.intercalate_cons_cons]
      exact (hr.append hdelimiter.readsAs).append (ih hrs)

/-- With the tags deleted, decoding gives the text. -/
theorem ReadsAs.readAsText (h : ReadsAs a x) : readAsText a = x := by
  have hread := h []
  have hnil : withoutTags [] = [] := replaceAll_nil _
  rw [List.append_nil, hnil, List.append_nil] at hread
  rw [Rich.readAsText, hread, decoded_flatMap_escapedTextChar, String.ofList_toList]

end ReadsAs

theorem IsInline.readsAs {r : Rich} (h : IsInline r) : ReadsAs r.html r.plain := by
  induction h with
  | text s => exact readsAs_escapeText s
  | emph _ ih => exact ih.htmlEmph
  | link url _ ih => exact ih.htmlLink url
  | affix hbefore _ hafter ih => exact (hbefore.readsAs.append ih).append hafter.readsAs
  | join _ hdelimiter ih =>
    rw [html_join, plain_join]
    exact readsAs_intercalate hdelimiter ih

/-- **HTML reads as the text without its formatting.** -/
theorem readAsText_html {r : Rich} (h : IsInline r) : readAsText r.html = r.plain :=
  h.readsAs.readAsText

end Galley.Rich
