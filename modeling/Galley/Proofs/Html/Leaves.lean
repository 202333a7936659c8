import Galley.Proofs.Html.Page
import Galley.Proofs.Html.Tokens
import Galley.Proofs.Render.Leaves

/-!
# Reading running text

Running text is written as its leaves, one behind the other: text, emphasised text and links.
Reading goes from leaf to leaf, and each adds its piece to the page. A run of text is read as one
token wherever its leaves end, so text is followed character by character: a token for several
characters does to the page what tokens for the single characters do. Main statement:
`leads_leaves`.
-/

namespace Galley.Html

open Galley.Text
open Galley.Rich (Leaf escapedTextChar escapedAttributeChar isMarkup)

/-! ## 1. Pieces of leaves -/

/-- Text as a document shows it, which is without null characters. -/
def shown (s : List Char) : List Char := s.filter fun c => c != '\x00'

/-- Pieces with a leaf behind them. -/
def addLeaf (pieces : List Piece) : Leaf → List Piece
  | .text s => addText pieces (shown s)
  | .emph s => if s.isEmpty then pieces else pieces ++ [.element emphTag (shown s)]
  | .link url s => if s.isEmpty then pieces else pieces ++ [.element (linkTag url) (shown s)]

/-- The pieces that leaves make. -/
def piecesOf (leaves : List Leaf) : List Piece := leaves.foldl addLeaf []

namespace Builder

/-! ## 2. Reading on -/

/-- Reading goes on from the builder `b` with the text `cs` to `b'` with `cs'`. -/
def Leads (b : Builder) (cs : List Char) (b' : Builder) (cs' : List Char) : Prop :=
  ∀ fuel, cs.length < fuel → ∃ fuel', cs'.length < fuel' ∧ takeAll b fuel cs = takeAll b' fuel' cs'

theorem Leads.refl (b : Builder) (cs : List Char) : Leads b cs b cs :=
  fun fuel hfuel => ⟨fuel, hfuel, rfl⟩

theorem Leads.trans {b b' b'' : Builder} {cs cs' cs'' : List Char} (h : Leads b cs b' cs')
    (h' : Leads b' cs' b'' cs'') : Leads b cs b'' cs'' := fun fuel hfuel => by
  obtain ⟨fuel', hfuel', heq⟩ := h fuel hfuel
  obtain ⟨fuel'', hfuel'', heq'⟩ := h' fuel' hfuel'
  exact ⟨fuel'', hfuel'', heq.trans heq'⟩

theorem takeAll_token {b b' : Builder} {c : Char} {cs rest : List Char} {token : Token}
    (hread : readToken b.textMode b.inForeign c cs = (some token, rest))
    (htake : (take token).run b = ((), b')) (fuel : Nat) :
    takeAll b (fuel + 1) (c :: cs) = takeAll b' fuel rest := by
  rw [takeAll, hread]
  simp only [htake]

/-- One token is read. -/
theorem leads_token {b b' : Builder} {c : Char} {cs rest : List Char} {token : Token}
    (hread : readToken b.textMode b.inForeign c cs = (some token, rest))
    (hlength : rest.length ≤ cs.length) (htake : (take token).run b = ((), b')) :
    Leads b (c :: cs) b' rest := fun fuel hfuel => by
  rw [List.length_cons] at hfuel
  obtain ⟨fuel, rfl⟩ := Nat.exists_eq_add_of_le' (Nat.le_trans (Nat.succ_pos _) hfuel)
  exact ⟨fuel, by omega, takeAll_token hread htake fuel⟩

/-! ## 3. Running text -/

/-- A place where running text stands, as a builder for every text that is there already. -/
structure TextPlace (place : List Char → Bool → Builder) : Prop where
  textMode : ∀ s frames, (place s frames).textMode = .data
  foreign : ∀ s frames, (place s frames).inForeign = false
  null : ∀ s frames, (take .null).run (place s frames) = ((), place s frames)
  text : ∀ s frames cs, cs ≠ [] → (take (.text cs)).run (place s frames) =
    ((), place (s ++ cs) (frames && cs.all isSpace))

theorem textPlace_page (pieces : List Piece) :
    TextPlace fun s frames => page (addText pieces s) frames where
  textMode _ _ := rfl
  foreign _ _ := rfl
  null _ _ := page_null
  text s frames cs hcs := by rw [page_text hcs, addText_append]

theorem textPlace_inside (pieces : List Piece) (tag : Tag) : TextPlace (inside pieces tag) where
  textMode _ _ := rfl
  foreign _ _ := inBody_inside.foreign
  null _ _ := inside_null
  text _ _ _ hcs := inside_text hcs

/-- A character that begins a token of its own. -/
def isMark (c : Char) : Bool := c = '<' || c = '&' || c = '\x00'

/-- The character `d` is read in one run with `c`. -/
def joins (c d : Char) : Bool := !isMark d && isSpace d == isSpace c

theorem readToken_run {c : Char} (h : isMark c = false) (cs : List Char) :
    readToken .data false c cs =
      (some (.text (c :: cs.takeWhile (joins c))), cs.dropWhile (joins c)) := by
  have hmark := h
  simp only [isMark, Bool.or_eq_false_iff, decide_eq_false_iff_not] at hmark
  simp only [readToken, if_neg hmark.1.1, if_neg hmark.1.2, if_neg hmark.2]
  rfl

section TextPlace

variable {place : List Char → Bool → Builder}

/-- A token of text is put behind the text that is there. -/
theorem TextPlace.takeAll_text (h : TextPlace place) {c : Char} {cs text rest : List Char}
    (hread : readToken .data false c cs = (some (.text text), rest)) (hne : text ≠ [])
    (s : List Char) (frames : Bool) (fuel : Nat) :
    takeAll (place s frames) (fuel + 1) (c :: cs) =
      takeAll (place (s ++ text) (frames && text.all isSpace)) fuel rest := by
  refine takeAll_token ?_ (h.text s frames text hne) fuel
  rw [h.textMode, h.foreign, hread]

/-- A character that stands for itself is read on its own, also in the middle of a run. -/
theorem TextPlace.leads_bare (h : TextPlace place) {c : Char} (hc : isMark c = false)
    (s : List Char) (frames : Bool) (cs : List Char) :
    Leads (place s frames) (c :: cs) (place (s ++ [c]) (frames && isSpace c)) cs := by
  intro fuel hfuel
  obtain ⟨fuel, rfl⟩ := Nat.exists_eq_add_of_le' (Nat.le_trans (Nat.succ_pos _) hfuel)
  rw [List.length_cons] at hfuel
  have hall : [c].all isSpace = isSpace c := Bool.and_true _
  rw [h.takeAll_text (readToken_run hc cs) (List.cons_ne_nil _ _)]
  cases cs with
  | nil => exact ⟨fuel, by omega, by rw [← hall]; rfl⟩
  | cons d ds =>
    cases hd : joins c d with
    | false =>
      rw [List.takeWhile_cons_of_neg (by simp [hd]), List.dropWhile_cons_of_neg (by simp [hd]),
        hall]
      exact ⟨fuel, by omega, rfl⟩
    | true =>
      -- The run goes on, and what follows is the same run without its first character.
      obtain ⟨hmark, hspace⟩ := Bool.and_eq_true_iff.1 hd
      rw [Bool.not_eq_true'] at hmark
      have hjoins : joins d = joins c := funext fun e => by
        rw [joins, joins, eq_of_beq hspace]
      refine ⟨fuel + 1, by rw [List.length_cons] at *; omega, ?_⟩
      rw [h.takeAll_text (readToken_run hmark ds) (List.cons_ne_nil _ _),
        List.takeWhile_cons_of_pos hd, List.dropWhile_cons_of_pos hd, hjoins, List.append_assoc,
        List.all_cons, Bool.and_assoc]
      rfl

/-- What stands for one character is read as that character. -/
theorem TextPlace.leads_char (h : TextPlace place) (c : Char) (s : List Char) (frames : Bool)
    (cs : List Char) :
    ∃ frames', Leads (place s frames) (escapedTextChar c ++ cs) (place (s ++ shown [c]) frames')
      cs := by
  cases hmarkup : isMarkup c with
  | true =>
    obtain ⟨name, he, hread⟩ := escapedTextChar_of_markup hmarkup
    have hnull : c ≠ '\x00' := fun hnull => by
      rw [hnull] at hmarkup
      cases hmarkup
    have htoken : readToken (place s frames).textMode (place s frames).inForeign '&'
        (name ++ ';' :: cs) = (some (.text [c]), cs) := by
      rw [h.textMode, h.foreign]
      simp only [readToken, hread]
      rfl
    have hshown : shown [c] = [c] := by simp [shown, hnull]
    rw [he, List.cons_append, List.append_assoc, List.singleton_append, hshown]
    exact ⟨_, leads_token htoken (by simp; omega) (h.text s frames [c] (List.cons_ne_nil _ _))⟩
  | false =>
    rw [Rich.escapedTextChar_of_bare hmarkup, List.singleton_append]
    by_cases hnull : c = '\x00'
    · subst hnull
      have htoken : readToken (place s frames).textMode (place s frames).inForeign '\x00' cs =
          (some .null, cs) := by
        rw [h.textMode, h.foreign]
        rfl
      have hshown : s ++ shown ['\x00'] = s := List.append_nil s
      rw [hshown]
      exact ⟨frames, leads_token htoken (Nat.le_refl _) (h.null s frames)⟩
    · have hmark : isMark c = false := by
        simp only [isMarkup, Bool.or_eq_false_iff, decide_eq_false_iff_not] at hmarkup
        simp [isMark, hmarkup.1.1, hmarkup.1.2, hnull]
      have hshown : shown [c] = [c] := by simp [shown, hnull]
      rw [hshown]
      exact ⟨_, h.leads_bare hmark s frames cs⟩

/-- **Escaped text is read as the text it shows.** -/
theorem TextPlace.leads_text (h : TextPlace place) (t s : List Char) (frames : Bool)
    (cs : List Char) :
    ∃ frames', Leads (place s frames) (t.flatMap escapedTextChar ++ cs)
      (place (s ++ shown t) frames') cs := by
  induction t generalizing s frames with
  | nil => exact ⟨frames, by rw [shown, List.filter_nil, List.append_nil]; exact .refl _ _⟩
  | cons c t ih =>
    obtain ⟨frames', hc⟩ := h.leads_char c s frames (t.flatMap escapedTextChar ++ cs)
    obtain ⟨frames'', ht⟩ := ih (s ++ shown [c]) frames'
    refine ⟨frames'', ?_⟩
    have hshown : shown (c :: t) = shown [c] ++ shown t := List.filter_append [c] t
    rw [List.flatMap_cons, List.append_assoc, hshown, ← List.append_assoc s]
    exact hc.trans ht

end TextPlace

/-! ## 4. Leaves -/

section Leaves

variable (pieces : List Piece) (frames : Bool) (cs : List Char)

/-- Text between the tags of a kind of formatting is one piece of that kind. -/
theorem leads_formatted {tag : Tag} (h : tag.name = "a" ∨ tag.name = "i")
    {opening closing : List Char}
    (hopening : ∀ cs, readToken .data false '<' (opening ++ cs) = (some (.start tag), cs))
    (hclosing : ∀ cs, readToken .data false '<' (closing ++ cs) = (some (.stop tag.name), cs))
    (s : List Char) :
    ∃ frames', Leads (page pieces frames)
      ('<' :: (opening ++ (s.flatMap escapedTextChar ++ '<' :: (closing ++ cs))))
      (page (pieces ++ [.element tag (shown s)]) frames') cs := by
  obtain ⟨frames', htext⟩ := (textPlace_inside pieces tag).leads_text s [] frames
    ('<' :: (closing ++ cs))
  refine ⟨frames', (leads_token ?_ (by simp) (page_start h)).trans (htext.trans ?_)⟩
  · exact hopening _
  · refine leads_token ?_ (by simp) (inside_stop h)
    rw [inBody_inside.foreign]
    exact hclosing cs

theorem leads_leaf (leaf : Leaf) :
    ∃ frames', Leads (page pieces frames) (leaf.html ++ cs) (page (addLeaf pieces leaf) frames')
      cs := by
  cases leaf with
  | text s => exact (textPlace_page pieces).leads_text s [] frames cs
  | emph s =>
    rw [Leaf.html, addLeaf]
    split
    · exact ⟨frames, .refl _ _⟩
    · have hopening (cs : List Char) :
          readToken .data false '<' ("i>".toList ++ cs) = (some (.start emphTag), cs) := rfl
      have hclosing (cs : List Char) :
          readToken .data false '<' ("/i>".toList ++ cs) = (some (.stop emphTag.name), cs) := rfl
      have hhtml : "<i>".toList ++ (s.flatMap escapedTextChar ++ "</i>".toList) ++ cs =
          '<' :: ("i>".toList ++ (s.flatMap escapedTextChar ++ '<' :: ("/i>".toList ++ cs))) := by
        simp
      rw [hhtml]
      exact leads_formatted pieces frames cs (.inr rfl) hopening hclosing s
  | link url s =>
    rw [Leaf.html, addLeaf]
    split
    · exact ⟨frames, .refl _ _⟩
    · let opening := "a href=\"".toList ++ (url.flatMap escapedAttributeChar ++ "\">".toList)
      have hopening (cs : List Char) :
          readToken .data false '<' (opening ++ cs) = (some (.start (linkTag url)), cs) := by
        rw [List.append_assoc, List.append_assoc]
        exact readToken_start (by decide) (readTag?_link url cs)
      have hclosing (cs : List Char) :
          readToken .data false '<' ("/a>".toList ++ cs) = (some (.stop (linkTag url).name), cs) :=
        rfl
      have hhtml : "<a href=\"".toList ++ (url.flatMap escapedAttributeChar ++ ("\">".toList ++
          (s.flatMap escapedTextChar ++ "</a>".toList))) ++ cs =
          '<' :: (opening ++ (s.flatMap escapedTextChar ++ '<' :: ("/a>".toList ++ cs))) := by
        simp [opening]
      rw [hhtml]
      exact leads_formatted pieces frames cs (.inl rfl) hopening hclosing s

/-- **Leaves are read as the pieces they make.** -/
theorem leads_leaves (leaves : List Leaf) :
    ∃ frames', Leads (page pieces frames) (leaves.flatMap Leaf.html ++ cs)
      (page (leaves.foldl addLeaf pieces) frames') cs := by
  induction leaves generalizing pieces frames with
  | nil => exact ⟨frames, .refl _ _⟩
  | cons leaf leaves ih =>
    obtain ⟨frames', hleaf⟩ := leads_leaf pieces frames (leaves.flatMap Leaf.html ++ cs) leaf
    obtain ⟨frames'', hleaves⟩ := ih (addLeaf pieces leaf) frames'
    rw [List.flatMap_cons, List.append_assoc]
    exact ⟨frames'', hleaf.trans hleaves⟩

end Leaves

end Builder

end Galley.Html
