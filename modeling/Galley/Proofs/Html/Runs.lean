import Galley.Proofs.Html.VisibleText

/-!
# Runs of text

What an import puts into a paragraph is runs of text with at most one mark: emphasis, the link of an
anchor to a web address, or the link of the first web address in running text to itself. Main
statement: `runFrom_of_mem_inlineNodes`.
-/

namespace Galley.Html

open Galley.Text

/-! ## 1. Nodes of a document -/

namespace Dom

mutual

/-- All nodes of a document, in the order of the text. -/
def nodesOf : List Dom → List Dom
  | [] => []
  | d :: ds => nodesIn d ++ nodesOf ds

/-- A node and all nodes below it. -/
def nodesIn : Dom → List Dom
  | .element name attrs children => .element name attrs children :: nodesOf children
  | .text s => [.text s]
  | .comment => [.comment]

end

theorem self_mem_nodesIn (d : Dom) : d ∈ nodesIn d := by
  cases d <;> rw [nodesIn] <;> exact List.mem_cons_self

theorem mem_nodesOf {d : Dom} {ds : List Dom} (h : d ∈ ds) : d ∈ nodesOf ds := by
  induction ds with
  | nil => cases h
  | cons e ds ih =>
    rw [nodesOf]
    rcases List.mem_cons.1 h with rfl | h
    · exact List.mem_append_left _ (self_mem_nodesIn d)
    · exact List.mem_append_right _ (ih h)

mutual

theorem nodesIn_subset_nodesOf : ∀ (ds : List Dom) (e : Dom), e ∈ nodesOf ds →
    nodesIn e ⊆ nodesOf ds
  | [], e, h => by
    rw [nodesOf] at h
    cases h
  | d :: ds, e, h => by
    rw [nodesOf] at h ⊢
    rcases List.mem_append.1 h with h | h
    · exact List.Subset.trans (nodesIn_subset_nodesIn d e h) (List.subset_append_left _ _)
    · exact List.Subset.trans (nodesIn_subset_nodesOf ds e h) (List.subset_append_right _ _)

theorem nodesIn_subset_nodesIn : ∀ d e : Dom, e ∈ nodesIn d → nodesIn e ⊆ nodesIn d
  | .text s, e, h => by
    rw [nodesIn] at h
    rw [List.mem_singleton.1 h]
    exact List.Subset.refl _
  | .comment, e, h => by
    rw [nodesIn] at h
    rw [List.mem_singleton.1 h]
    exact List.Subset.refl _
  | .element name attrs children, e, h => by
    rw [nodesIn] at h
    rcases List.mem_cons.1 h with rfl | h
    · exact List.Subset.refl _
    · rw [nodesIn]
      exact List.Subset.trans (nodesIn_subset_nodesOf children e h) (List.subset_cons_self _ _)

end

/-- What stands below the children of a node of a document is in the document. -/
theorem mem_nodesOf_of_children {d : Dom} {name : String} {attrs : List (String × String)}
    {children ds : List Dom} (h : d ∈ nodesOf children)
    (hparent : .element name attrs children ∈ nodesOf ds) : d ∈ nodesOf ds := by
  refine nodesIn_subset_nodesOf ds _ hparent ?_
  rw [nodesIn]
  exact List.mem_cons_of_mem _ h

theorem mem_nodesOf_child {d p : Dom} {ds : List Dom} (h : d ∈ p.children)
    (hp : p ∈ nodesOf ds) : d ∈ nodesOf ds := by
  cases p with
  | element name attrs children => exact mem_nodesOf_of_children (mem_nodesOf h) hp
  | text s => cases h
  | comment => cases h

end Dom

/-- An element with the name of paragraphs. -/
def Dom.isParagraph : Dom → Bool
  | .element name _ _ => name.toLower == "p"
  | _ => false

/-- No paragraph stands directly in a paragraph. -/
def NoDirectParagraphs (ds : List Dom) : Prop :=
  ∀ p ∈ Dom.nodesOf ds, p.isParagraph = true → ∀ child ∈ p.children, child.isParagraph = false

instance (ds : List Dom) : Decidable (NoDirectParagraphs ds) :=
  inferInstanceAs (Decidable (∀ p ∈ Dom.nodesOf ds, _ → ∀ child ∈ p.children, _))

/-! ## 2. The first address -/

/-- What a web address begins with. -/
def schemes : List (List Char) := ["http://".toList, "https://".toList]

/-- A web address begins the text: a scheme with something other than a blank behind it. -/
def BeginsAddress (cs : List Char) : Prop :=
  ∃ scheme ∈ schemes, ∃ c rest, cs = scheme ++ c :: rest ∧ isBlank c = false

/-- The first web address in a text: what begins with an address, where none begins before, goes on
    up to the next blank. -/
structure FirstAddress (cs : List Char) (t : LinkedText) : Prop where
  split : cs = t.before ++ (t.address ++ t.after)
  begins : BeginsAddress t.address
  noBlank : ∀ c ∈ t.address, isBlank c = false
  ends : ∀ c ∈ t.after.head?, isBlank c = true
  first : ∀ front rest, cs = front ++ rest → BeginsAddress rest →
    t.before.length ≤ front.length

/-- Behind a scheme an address is read up to the next blank. -/
theorem addressAhead?_scheme {scheme : List Char} (h : scheme ∈ schemes) (rest : List Char) :
    addressAhead? (scheme ++ rest) =
      if (breakAt isBlank rest).1.isEmpty then none
      else some (scheme ++ (breakAt isBlank rest).1, (breakAt isBlank rest).2) := by
  have htake : (scheme ++ rest).take ((scheme ++ rest).length - (breakAt isBlank rest).2.length) =
      scheme ++ (breakAt isBlank rest).1 := by
    have hsplit := breakAt_append isBlank rest
    generalize breakAt isBlank rest = path at hsplit
    rw [← hsplit, ← List.append_assoc, List.length_append, Nat.add_sub_cancel, List.take_left]
  rcases List.mem_pair.1 h with rfl | rfl
  · have hhttp := after?_append "http://".toList rest
    simp only [addressAhead?, hhttp, htake]
  · have hhttp : after? "http://".toList ("https://".toList ++ rest) = none := rfl
    have hhttps := after?_append "https://".toList rest
    simp only [addressAhead?, hhttp, hhttps, htake]

/-- A text begins with a scheme, or no address is read. -/
theorem scheme_cases (cs : List Char) :
    (∃ scheme ∈ schemes, ∃ rest, cs = scheme ++ rest) ∨ addressAhead? cs = none := by
  cases hhttp : after? "http://".toList cs with
  | some rest => exact Or.inl ⟨_, List.mem_cons_self, rest, after?_eq_some_iff.1 hhttp⟩
  | none =>
    cases hhttps : after? "https://".toList cs with
    | some rest =>
      exact Or.inl ⟨_, List.mem_cons_of_mem _ List.mem_cons_self, rest, after?_eq_some_iff.1 hhttps⟩
    | none => exact Or.inr (by simp only [addressAhead?, hhttp, hhttps])

theorem not_blank_of_mem_scheme {scheme : List Char} (h : scheme ∈ schemes) :
    ∀ c ∈ scheme, isBlank c = false := by
  have hall : (schemes.all fun scheme => scheme.all fun c => !isBlank c) = true := by decide
  intro c hc
  simpa using List.all_eq_true.1 (List.all_eq_true.1 hall scheme h) c hc

/-- What is read as an address is one, and goes on up to the next blank. -/
theorem addressAhead?_eq_some {cs address after : List Char}
    (h : addressAhead? cs = some (address, after)) :
    BeginsAddress address ∧ (∀ c ∈ address, isBlank c = false) ∧
      ∀ c ∈ after.head?, isBlank c = true := by
  rcases scheme_cases cs with ⟨scheme, hscheme, rest, rfl⟩ | hnone
  · rw [addressAhead?_scheme hscheme] at h
    have hpath : ∀ c ∈ (breakAt isBlank rest).1, isBlank c = false := fun c hc => by
      simpa using List.all_eq_true.1 List.all_takeWhile c hc
    split at h
    · cases h
    · next hne =>
      cases h
      obtain ⟨c, path, hcons⟩ := List.exists_cons_of_ne_nil (mt List.isEmpty_iff.2 hne)
      refine ⟨⟨scheme, hscheme, c, path, by rw [hcons], hpath c (by rw [hcons]; simp)⟩, ?_, ?_⟩
      · exact List.forall_mem_append.2 ⟨not_blank_of_mem_scheme hscheme, hpath⟩
      · intro c hc
        have hstop := List.head?_dropWhile_not (fun c => !isBlank c) rest
        rw [breakAt, Option.mem_def] at hc
        rw [hc] at hstop
        simpa using hstop
  · rw [hnone] at h
    cases h

theorem not_beginsAddress {cs : List Char} (h : addressAhead? cs = none) : ¬BeginsAddress cs := by
  rintro ⟨scheme, hscheme, c, rest, rfl, hc⟩
  rw [addressAhead?_scheme hscheme, breakAt, List.takeWhile_cons_of_pos (by simp [hc])] at h
  cases h

/-- **What is linked in running text is its first web address.** -/
theorem firstAddress_of_find? {cs : List Char} {t : LinkedText}
    (h : LinkedText.find? cs = some t) : FirstAddress cs t := by
  have hsplit := (append_of_find? h).symm
  induction cs generalizing t with
  | nil => cases h
  | cons c cs ih =>
    rw [LinkedText.find?] at h
    split at h
    · next address after hahead =>
      cases h
      obtain ⟨hbegins, hblank, hends⟩ := addressAhead?_eq_some hahead
      exact ⟨hsplit, hbegins, hblank, hends, fun _ _ _ _ => Nat.zero_le _⟩
    · next hnone =>
      obtain ⟨u, hu, rfl⟩ := Option.map_eq_some_iff.1 h
      have hrest := ih hu (append_of_find? hu).symm
      refine ⟨hsplit, hrest.begins, hrest.noBlank, hrest.ends, fun front rest he hbegins => ?_⟩
      cases front with
      | nil =>
        rw [he] at hnone
        exact absurd hbegins (not_beginsAddress hnone)
      | cons d front => exact Nat.succ_le_succ (hrest.first front rest (List.cons.inj he).2 hbegins)

/-! ## 3. Runs of text -/

/-- The marks that a run of text can have. -/
inductive MarkFrom (ds : List Dom) (text : String) : Mark → Prop
  | em : MarkFrom ds text .em
  | strong : MarkFrom ds text .strong
  /-- The text of an anchor is linked to its target, which is a web address. -/
  | anchor {name href : String} {attrs : List (String × String)} {children : List Dom}
      (hmem : Dom.element name attrs children ∈ Dom.nodesOf ds) (hname : name.toLower = "a")
      (htext : Dom.textOf children = text) (hhref : attrs.lookup "href" = some href)
      (haddress : Web.isAddress href = true) : MarkFrom ds text (.external href)
  /-- The first web address in running text is linked to itself. -/
  | address {s : String} {t : LinkedText} (hmem : Dom.text s ∈ Dom.nodesOf ds)
      (hfirst : FirstAddress s.toList t) (htext : String.ofList t.address = text) :
      MarkFrom ds text (.href text)

/-- A run of text that has something in it and at most one mark. -/
inductive RunFrom (ds : List Dom) : Node → Prop
  | plain {text : String} (h : text ≠ "") : RunFrom ds (.text text [])
  | marked {text : String} {mark : Mark} (h : text ≠ "") (hmark : MarkFrom ds text mark) :
      RunFrom ds (.text text [mark])

variable {ds es : List Dom}

theorem RunFrom.mono (h : Dom.nodesOf ds ⊆ Dom.nodesOf es) {n : Node} (hn : RunFrom ds n) :
    RunFrom es n := by
  cases hn with
  | plain hne => exact .plain hne
  | marked hne hmark =>
    refine .marked hne ?_
    cases hmark with
    | em => exact .em
    | strong => exact .strong
    | anchor hmem hname htext hhref haddress =>
      exact .anchor (h hmem) hname htext hhref haddress
    | address hmem hfirst htext => exact .address (h hmem) hfirst htext

theorem runFrom_of_mem_runOf {cs : List Char} {n : Node} (h : n ∈ runOf cs) : RunFrom ds n := by
  rw [runOf] at h
  split at h
  · cases h
  · next hne =>
    rw [List.mem_singleton.1 h]
    exact .plain fun he => hne (by rw [String.ofList_eq_empty_iff.1 he]; rfl)

/-- Running text becomes runs of text. -/
theorem runFrom_of_mem_textNodes {s : String} (hs : .text s ∈ Dom.nodesOf ds) {n : Node}
    (h : n ∈ textNodes s) : RunFrom ds n := by
  rw [textNodes] at h
  split at h
  · exact runFrom_of_mem_runOf h
  · next t ht =>
    have hfirst := firstAddress_of_find? ht
    rcases List.mem_append.1 h with h | h
    · exact runFrom_of_mem_runOf h
    · rcases List.mem_cons.1 h with rfl | h
      · refine .marked (fun he => ?_) (.address hs hfirst rfl)
        obtain ⟨scheme, -, c, rest, haddress, -⟩ := hfirst.begins
        rw [String.ofList_eq_empty_iff.1 he] at haddress
        simp at haddress
      · exact runFrom_of_mem_runOf h

theorem inlineNode_of_isParagraph {name : String} (h : name.toLower = "p")
    (attrs : List (String × String)) (children : List Dom) :
    inlineNode (.element name attrs children) = [.paragraph (inlineNodes children)] := by
  rw [inlineNode, importElement?_of_isParagraph h]

/-- What is made of a text with something in it. -/
theorem exists_of_ite_isEmpty {text : String} {x : Option Imported} {i : Imported}
    (h : (if text.isEmpty then none else x) = some i) : text ≠ "" ∧ x = some i := by
  split at h
  · cases h
  · next hne => exact ⟨fun he => hne (by rw [he]; rfl), h⟩

theorem importAnchor?_eq_some {href : Option String} {i : Imported}
    (h : importAnchor? href = some i) :
    ∃ target, href = some target ∧ Web.isAddress target = true ∧
      i = .mark (.external target) := by
  cases href with
  | none => cases h
  | some target =>
    rw [importAnchor?] at h
    split at h
    · next haddress => exact ⟨target, rfl, haddress, (Option.some.inj h).symm⟩
    · cases h

/-- An element that is no paragraph becomes its text with a mark, or a mark for its text. -/
theorem importElement?_eq_some {name : String} (hp : name.toLower ≠ "p")
    {attrs : List (String × String)} {children : List Dom} {i : Imported}
    (h : importElement? (.element name attrs children) = some i) :
    Dom.textOf children ≠ "" ∧ ∃ mark,
      MarkFrom [.element name attrs children] (Dom.textOf children) mark ∧
        (i = .node (.text (Dom.textOf children) [mark]) ∨ i = .mark mark) := by
  rw [importElement?] at h
  split at h
  · next hname => exact absurd hname hp
  · obtain ⟨hne, hi⟩ := exists_of_ite_isEmpty h
    exact ⟨hne, .em, .em, Or.inl (Option.some.inj hi).symm⟩
  · obtain ⟨hne, hi⟩ := exists_of_ite_isEmpty h
    exact ⟨hne, .em, .em, Or.inl (Option.some.inj hi).symm⟩
  · obtain ⟨hne, hi⟩ := exists_of_ite_isEmpty h
    exact ⟨hne, .strong, .strong, Or.inl (Option.some.inj hi).symm⟩
  · obtain ⟨hne, hi⟩ := exists_of_ite_isEmpty h
    exact ⟨hne, .strong, .strong, Or.inl (Option.some.inj hi).symm⟩
  · next hname =>
    obtain ⟨hne, hi⟩ := exists_of_ite_isEmpty h
    obtain ⟨href, hhref, haddress, rfl⟩ := importAnchor?_eq_some hi
    have hself := Dom.mem_nodesOf (List.mem_singleton_self (Dom.element name attrs children))
    exact ⟨hne, .external href, .anchor hself hname rfl hhref haddress, Or.inr rfl⟩
  · cases h

/-- In running text, an element that is no paragraph becomes its text with one mark, or
    nothing. -/
theorem inlineNode_cases {name : String} (hp : name.toLower ≠ "p")
    (attrs : List (String × String)) (children : List Dom) :
    (∃ mark, Dom.textOf children ≠ "" ∧
        MarkFrom [.element name attrs children] (Dom.textOf children) mark ∧
        inlineNode (.element name attrs children) = [.text (Dom.textOf children) [mark]]) ∨
      inlineNode (.element name attrs children) = [] := by
  rw [inlineNode]
  cases hi : importElement? (.element name attrs children) with
  | none => exact Or.inr rfl
  | some i =>
    obtain ⟨hne, mark, hmark, rfl | rfl⟩ := importElement?_eq_some hp hi
    · exact Or.inl ⟨mark, hne, hmark, rfl⟩
    · exact Or.inl ⟨mark, hne, hmark, rfl⟩

theorem isParagraph_element {name : String} {attrs : List (String × String)}
    {children : List Dom} :
    (Dom.element name attrs children).isParagraph = true ↔ name.toLower = "p" := by
  rw [Dom.isParagraph, beq_iff_eq]

theorem name_ne_of_not_isParagraph {name : String} {attrs : List (String × String)}
    {children : List Dom} (h : (Dom.element name attrs children).isParagraph = false) :
    name.toLower ≠ "p" :=
  mt isParagraph_element.2 (Bool.eq_false_iff.1 h)

/-- **Running content becomes runs of text**, where no paragraph stands directly in it. -/
theorem runFrom_of_mem_inlineNode {d : Dom} (hp : d.isParagraph = false) (hd : d ∈ Dom.nodesOf ds)
    {n : Node} (h : n ∈ inlineNode d) : RunFrom ds n := by
  cases d with
  | text s =>
    rw [inlineNode] at h
    exact runFrom_of_mem_textNodes hd h
  | comment =>
    rw [inlineNode] at h
    cases h
  | element name attrs children =>
    have hname := name_ne_of_not_isParagraph hp
    rcases inlineNode_cases hname attrs children with ⟨mark, hne, hmark, hnodes⟩ | hnone
    · rw [hnodes, List.mem_singleton] at h
      rw [h]
      refine (RunFrom.marked hne hmark).mono ?_
      rw [Dom.nodesOf, Dom.nodesOf, List.append_nil]
      exact Dom.nodesIn_subset_nodesOf ds _ hd
    · rw [hnone] at h
      cases h

theorem runFrom_of_mem_inlineNodes (hp : ∀ d ∈ ds, d.isParagraph = false)
    (hmem : ∀ d ∈ ds, d ∈ Dom.nodesOf es) {n : Node} (h : n ∈ inlineNodes ds) : RunFrom es n := by
  induction ds with
  | nil =>
    rw [inlineNodes] at h
    cases h
  | cons d ds ih =>
    obtain ⟨hd, hds⟩ := List.forall_mem_cons.1 hp
    obtain ⟨hb, hbs⟩ := List.forall_mem_cons.1 hmem
    rw [inlineNodes] at h
    rcases List.mem_append.1 h with h | h
    · exact runFrom_of_mem_inlineNode hd hb h
    · exact ih hds hbs h

end Galley.Html
