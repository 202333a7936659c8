import Galley.Html.Token
import Galley.Proofs.Render.Reading

/-!
# Tokens of what was written

What formatted text writes is read back as tokens: a character of running text as itself, whether it
stands for itself or is written as a reference, the value of an attribute as it was before it was
escaped, and the tags of emphasis, links and paragraphs. Main statements:
`attributeValue_escaped`, `readTag?_link`.
-/

namespace Galley.Html

open Galley.Text
open Galley.Rich (escapedTextChar escapedAttributeChar escapedTextChar_cases
  escapedTextChar_ne_nil isMarkup)

/-! ## 1. References -/

/-- A name with a semicolon is a reference, whatever follows. -/
theorem readReference?_named {name chars : List Char} (hchars : charsNamed? name = some chars)
    (hname : name.all Char.isAlphanum = true) (hne : name ≠ []) (inAttribute : Bool)
    (rest : List Char) :
    readReference? inAttribute (name ++ ';' :: rest) = some (chars, rest) := by
  have htake : (name ++ ';' :: rest).takeWhile Char.isAlphanum = name := by
    rw [List.takeWhile_append_of_pos (List.all_eq_true.1 hname),
      List.takeWhile_cons_of_neg (by decide), List.append_nil]
  have hdrop : (name ++ ';' :: rest).dropWhile Char.isAlphanum = ';' :: rest := by
    rw [List.dropWhile_append_of_pos (List.all_eq_true.1 hname),
      List.dropWhile_cons_of_neg (by decide)]
  obtain ⟨c, cs, rfl⟩ := List.exists_cons_of_ne_nil hne
  have hc : c ≠ '#' := fun h => by
    have hhash := List.all_eq_true.1 hname c List.mem_cons_self
    rw [h] at hhash
    exact absurd hhash (by decide)
  have hnamed : readReference? inAttribute (c :: cs ++ ';' :: rest) =
      readNamed? inAttribute (c :: cs ++ ';' :: rest) := if_neg hc
  rw [hnamed, readNamed?, htake, hdrop]
  simp [hchars]

theorem charsNamed?_amp : charsNamed? "amp".toList = some ['&'] := by decide +kernel
theorem charsNamed?_lt : charsNamed? "lt".toList = some ['<'] := by decide +kernel
theorem charsNamed?_gt : charsNamed? "gt".toList = some ['>'] := by decide +kernel
theorem charsNamed?_quot : charsNamed? "quot".toList = some ['"'] := by decide +kernel

/-- A character that is written as a reference is the character of that reference. -/
theorem escapedTextChar_of_markup {c : Char} (h : isMarkup c = true) :
    ∃ name, escapedTextChar c = '&' :: (name ++ [';']) ∧
      ∀ inAttribute rest, readReference? inAttribute (name ++ ';' :: rest) = some ([c], rest) := by
  rcases escapedTextChar_cases c with ⟨rfl, he⟩ | ⟨rfl, he⟩ | ⟨rfl, he⟩ | ⟨hbare, -⟩
  · exact ⟨"amp".toList, he, readReference?_named charsNamed?_amp (by decide) (by decide)⟩
  · exact ⟨"lt".toList, he, readReference?_named charsNamed?_lt (by decide) (by decide)⟩
  · exact ⟨"gt".toList, he, readReference?_named charsNamed?_gt (by decide) (by decide)⟩
  · rw [h] at hbare
    cases hbare

theorem escapedAttributeChar_of_quote :
    escapedAttributeChar '"' = '&' :: ("quot".toList ++ [';']) := rfl

/-! ## 2. The values of attributes -/

/-- A character as the value of an attribute shows it. -/
def attributeChar (c : Char) : Char := if c = '\x00' then replacement else c

/-- What stands for one character in an attribute is read back as that character. -/
theorem attributeValue_escapedChar (fuel : Nat) (c : Char) (rest : List Char) :
    attributeValue (fuel + 1) (escapedAttributeChar c ++ rest) =
      attributeChar c :: attributeValue fuel rest := by
  have hreference {name : List Char} (hread : readReference? true (name ++ ';' :: rest) =
      some ([c], rest)) (hc : c ≠ '\x00') :
      attributeValue (fuel + 1) ('&' :: (name ++ [';']) ++ rest) =
        attributeChar c :: attributeValue fuel rest := by
    rw [List.cons_append, List.append_assoc, List.singleton_append, attributeValue, if_pos rfl,
      hread, attributeChar, if_neg hc]
    rfl
  by_cases hquote : c = '"'
  · subst hquote
    rw [escapedAttributeChar_of_quote]
    exact hreference (readReference?_named charsNamed?_quot (by decide) (by decide) true rest)
      (by decide)
  · have htext : escapedAttributeChar c = escapedTextChar c := if_neg hquote
    rw [htext]
    cases hmarkup : isMarkup c with
    | true =>
      obtain ⟨name, he, hread⟩ := escapedTextChar_of_markup hmarkup
      rw [he]
      refine hreference (hread true rest) fun hnull => ?_
      rw [hnull] at hmarkup
      cases hmarkup
    | false =>
      have hamp : c ≠ '&' := fun hamp => by
        rw [hamp] at hmarkup
        cases hmarkup
      rw [Rich.escapedTextChar_of_bare hmarkup, List.singleton_append, attributeValue, if_neg hamp,
        attributeChar]
      split <;> rfl

/-- **The value of an attribute is read back as it was before it was escaped.** -/
theorem attributeValue_escaped (url : List Char) {fuel : Nat} (h : url.length ≤ fuel) :
    attributeValue fuel (url.flatMap escapedAttributeChar) = url.map attributeChar := by
  induction url generalizing fuel with
  | nil => cases fuel <;> rfl
  | cons c url ih =>
    obtain ⟨fuel, rfl⟩ := Nat.exists_eq_add_of_le' (Nat.le_trans (Nat.succ_pos _) h)
    rw [List.flatMap_cons, attributeValue_escapedChar, ih (Nat.le_of_succ_le_succ h), List.map_cons]

theorem quote_not_mem_escapedAttributeChar {c : Char} : '"' ∉ escapedAttributeChar c := by
  intro h
  rw [escapedAttributeChar] at h
  split at h
  · revert h; decide
  · next hc =>
    rcases escapedTextChar_cases c with ⟨-, he⟩ | ⟨-, he⟩ | ⟨-, he⟩ | ⟨-, he⟩ <;> rw [he] at h
    · revert h; decide
    · revert h; decide
    · revert h; decide
    · exact hc (List.mem_singleton.1 h).symm

theorem length_le_escaped (url : List Char) :
    url.length ≤ (url.flatMap escapedAttributeChar).length := by
  induction url with
  | nil => exact Nat.le_refl _
  | cons c url ih =>
    have hc : 0 < (escapedAttributeChar c).length := by
      rw [escapedAttributeChar]
      split
      · decide
      · exact List.length_pos_of_ne_nil (escapedTextChar_ne_nil c)
    rw [List.flatMap_cons, List.length_append, List.length_cons]
    omega

/-! ## 3. Tags -/

/-- The tag of emphasis. -/
def emphTag : Tag := ⟨"i", [], false⟩

/-- The tag of a link. -/
def linkTag (url : List Char) : Tag :=
  ⟨"a", [("href", String.ofList (url.map attributeChar))], false⟩

/-- A tag behind a bracket is a token. -/
theorem readToken_start {c : Char} {cs rest : List Char} {tag : Tag} (hc : c.isAlpha = true)
    (hread : readTag? (c :: cs) = some (tag, rest)) :
    readToken .data false '<' (c :: cs) = (some (.start tag), rest) := by
  simp only [readToken, if_pos, readMarkup, hc, hread]

theorem readTag?_link (url rest : List Char) :
    readTag? ("a href=\"".toList ++ (url.flatMap escapedAttributeChar ++ '"' :: '>' :: rest)) =
      some (linkTag url, rest) := by
  let written := url.flatMap escapedAttributeChar
  have hquote : '"' ∉ written := fun h => by
    obtain ⟨c, -, hc⟩ := List.mem_flatMap.1 h
    exact quote_not_mem_escapedAttributeChar hc
  have hcut : cut? ['"'] (written ++ '"' :: '>' :: rest) = some (written, '>' :: rest) :=
    cut?_char_eq_some_iff.2 ⟨rfl, hquote⟩
  have hread : readAttributeValue? ('"' :: (written ++ '"' :: '>' :: rest)) =
      some (String.ofList (url.map attributeChar), '>' :: rest) := by
    have hvalue : attributeValue (written.length + 1) written = url.map attributeChar :=
      attributeValue_escaped url (Nat.le_succ_of_le (length_le_escaped url))
    have hquoted : readAttributeValue? ('"' :: (written ++ '"' :: '>' :: rest)) =
        (cut? ['"'] (written ++ '"' :: '>' :: rest)).map fun p =>
          (String.ofList (attributeValue (p.1.length + 1) p.1), p.2) := rfl
    rw [hquoted, hcut, Option.map_some, hvalue]
  have hattrs (fuel : Nat) : readAttributes? (fuel + 2) []
      (" href=\"".toList ++ (written ++ '"' :: '>' :: rest)) =
        some ([("href", String.ofList (url.map attributeChar))], false, rest) := by
    have hfirst : readAttributes? (fuel + 2) []
        (" href=\"".toList ++ (written ++ '"' :: '>' :: rest)) =
          (readAttributeValue? ('"' :: (written ++ '"' :: '>' :: rest))).bind fun p =>
            readAttributes? (fuel + 1) (addAttribute [] "href" p.1) p.2 := rfl
    rw [hfirst, hread]
    rfl
  have htag : readTag? ("a href=\"".toList ++ (written ++ '"' :: '>' :: rest)) =
      (readAttributes? ((" href=\"".toList ++ (written ++ '"' :: '>' :: rest)).length + 2) []
        (" href=\"".toList ++ (written ++ '"' :: '>' :: rest))).bind fun p =>
          some (⟨"a", p.1, p.2.1⟩, p.2.2) := rfl
  rw [htag, hattrs]
  rfl

/-- The start tag of the paragraph of an entry. -/
theorem readTag?_paragraph (rest : List Char) :
    readTag? ("p class=\"csl-entry\">".toList ++ rest) =
      some (⟨"p", [("class", "csl-entry")], false⟩, rest) := rfl

end Galley.Html
