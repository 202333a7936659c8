import Galley.Proofs.Markup.Braces

/-!
# The layout of markup

Markup is body text, and then any number of *parts*: a region command with its argument, and the
body text behind it. The layout of a text says how its body and its regions come about: the body
is all body text joined, every part gives one region, and every control word begins one part. Main
statement: `layout_decomposes`.
-/

namespace Galley.Markup

open Galley.Text

/-! ## 1. Layouts -/

/-- A region command with its argument, and the body text behind it. -/
structure Part where
  argument : Argument
  behind : List Char
  deriving DecidableEq, Repr

/-- The text of a part. -/
def Part.source (p : Part) : List Char := p.argument.source ++ p.behind

/-- Body text and the parts behind it. -/
structure Layout where
  front : List Char
  parts : List Part
  deriving DecidableEq, Repr

/-- The regions of parts that begin at a byte. -/
def regionsAt (offset : Nat) : List Part → List Region
  | [] => []
  | p :: ps =>
    ⟨p.argument.kind, p.argument.text, offset + byteLength p.argument.head⟩ ::
      regionsAt (offset + byteLength p.source) ps

/-- The control words of parts that begin at a byte. -/
def placesAt (offset : Nat) : List Part → List (RegionKind × Nat)
  | [] => []
  | p :: ps => (p.argument.kind, offset) :: placesAt (offset + byteLength p.source) ps

namespace Layout

/-- The text that is laid out. -/
def source (l : Layout) : List Char := l.front ++ l.parts.flatMap Part.source

/-- The body text, without the regions. -/
def body (l : Layout) : List Char := l.front ++ l.parts.flatMap Part.behind

/-- One region for every part, with the byte at which its text begins. -/
def regions (l : Layout) : List Region := regionsAt (byteLength l.front) l.parts

/-- The control word of every part, with the byte at which it stands. -/
def places (l : Layout) : List (RegionKind × Nat) := placesAt (byteLength l.front) l.parts

end Layout

/-- The layout that pieces make: body pieces join what stands before them. -/
def layoutOf : List Piece → Layout
  | [] => ⟨[], []⟩
  | .body cs :: ps => ⟨cs ++ (layoutOf ps).front, (layoutOf ps).parts⟩
  | .region a :: ps => ⟨[], ⟨a, (layoutOf ps).front⟩ :: (layoutOf ps).parts⟩

/-- The layout of a text. -/
def layout (cs : List Char) : Layout := layoutOf (pieces cs)

theorem source_layoutOf (ps : List Piece) : (layoutOf ps).source = ps.flatMap Piece.source := by
  induction ps with
  | nil => rfl
  | cons p ps ih =>
    rw [List.flatMap_cons, ← ih]
    cases p <;> simp [layoutOf, Layout.source, Part.source, Piece.source]

/-- A part begins with the backslash of its control word. -/
theorem source_parts_cases (ps : List Part) :
    ps.flatMap Part.source = [] ∨ ∃ rest, ps.flatMap Part.source = '\\' :: rest := by
  cases ps with
  | nil => exact Or.inl rfl
  | cons p ps =>
    refine Or.inr ?_
    rw [List.flatMap_cons, Part.source, Argument.source, Argument.head]
    cases p.argument.kind <;> exact ⟨_, rfl⟩

theorem body_layoutOf (ps : List Piece) : (layoutOf ps).body = ps.flatMap Piece.body? := by
  induction ps with
  | nil => rfl
  | cons p ps ih =>
    rw [List.flatMap_cons, ← ih]
    cases p <;> simp [layoutOf, Layout.body, Piece.body?]

theorem regionsAt_layoutOf (ps : List Piece) (offset : Nat) :
    regionsAt (offset + byteLength (layoutOf ps).front) (layoutOf ps).parts =
      regionsFrom offset ps := by
  induction ps generalizing offset with
  | nil => rfl
  | cons p ps ih =>
    cases p with
    | body cs =>
      rw [regionsFrom, ← ih]
      simp [layoutOf, Nat.add_assoc]
    | region a =>
      rw [regionsFrom, ← ih]
      simp [layoutOf, regionsAt, Part.source, Nat.add_assoc]

/-! ## 2. The places of parts -/

theorem tokenPlaces_append {used : List Token} (h : ∀ kind, Token.command kind ∉ used)
    (offset : Nat) (rest : List Token) :
    tokenPlaces offset (used ++ rest) =
      tokenPlaces (offset + byteLength (sourceOf used)) rest := by
  induction used generalizing offset with
  | nil => rfl
  | cons t used ih =>
    have hused : ∀ kind, Token.command kind ∉ used := fun kind hm =>
      h kind (List.mem_cons_of_mem t hm)
    cases t with
    | command kind => exact absurd List.mem_cons_self (h kind)
    | escaped b =>
      rw [List.cons_append, tokenPlaces, ih hused]
      simp [sourceOf, Token.source, Nat.add_assoc]
    | char c =>
      rw [List.cons_append, tokenPlaces, ih hused]
      simp [sourceOf, Token.source, Nat.add_assoc]

theorem readText_used (ts : List Token) (depth : Nat) :
    ∃ used, ts = used ++ (readText depth ts).2.2 ∧ ∀ kind, Token.command kind ∉ used := by
  induction ts generalizing depth with
  | nil => exact ⟨[], rfl, by simp⟩
  | cons t ts ih =>
    rcases readText_cons depth t with ⟨-, hstep⟩ | ⟨rfl, hstep⟩ | ⟨hno, inner, -, hstep⟩
    · rw [hstep]
      exact ⟨[], rfl, by simp⟩
    · rw [hstep]
      exact ⟨[.char '\x7d'], rfl, by simp⟩
    · obtain ⟨used, he, hu⟩ := ih inner
      rw [hstep]
      refine ⟨t :: used, by rw [List.cons_append, ← he], fun kind hm => ?_⟩
      rcases List.mem_cons.1 hm with ht | hm
      · exact hno kind ht.symm
      · exact hu kind hm

/-- An argument is read from tokens that are no commands. -/
theorem readArgument_used (kind : RegionKind) (ts : List Token) :
    ∃ used, ts = used ++ (readArgument kind ts).2 ∧ (∀ k, Token.command k ∉ used) ∧
      (readArgument kind ts).1.source = kind.command ++ sourceOf used := by
  have hused : ∃ used, ts = used ++ (readArgument kind ts).2 ∧
      ∀ k, Token.command k ∉ used := by
    have hgap : ∀ k, Token.command k ∉ ts.takeWhile isGapToken := by
      intro k hk
      have hall := List.all_takeWhile (p := isGapToken) (l := ts)
      exact absurd (List.all_eq_true.1 hall _ hk) (by simp [isGapToken])
    have hts := List.takeWhile_append_dropWhile (p := isGapToken) (l := ts)
    unfold readArgument
    split
    · next c rest h =>
      obtain ⟨used, he, hu⟩ := readText_used rest 1
      refine ⟨ts.takeWhile isGapToken ++ .char c :: used, ?_, ?_⟩
      · rw [List.append_assoc, List.cons_append, ← he, ← h, hts]
      · intro k
        simpa using ⟨hgap k, hu k⟩
    · exact ⟨_, hts.symm, hgap⟩
  obtain ⟨used, he, hu⟩ := hused
  refine ⟨used, he, hu, ?_⟩
  have hs := readArgument_source kind ts
  have hsplit : sourceOf ts = sourceOf used ++ sourceOf (readArgument kind ts).2 := by
    conv => lhs; rw [he]
    exact List.flatMap_append
  rw [hsplit, ← List.append_assoc] at hs
  exact List.append_cancel_right hs

theorem placesAt_layoutOf (ts : List Token) (offset : Nat) :
    placesAt (offset + byteLength (layoutOf (piecesOf ts)).front) (layoutOf (piecesOf ts)).parts =
      tokenPlaces offset ts := by
  -- an argument takes many tokens at once, so the induction is on how many are left
  induction h : ts.length using Nat.strongRecOn generalizing ts offset with
  | _ n ih =>
    match ts with
    | [] => simp [piecesOf, layoutOf, placesAt, tokenPlaces]
    | .command kind :: ts =>
      obtain ⟨used, he, hu, hs⟩ := readArgument_used kind ts
      have hl : (readArgument kind ts).2.length < n := by
        rw [← h]
        exact Nat.lt_succ_of_le (readArgument_length kind ts)
      have hrest := ih _ hl (readArgument kind ts).2
        (offset + byteLength (readArgument kind ts).1.source) rfl
      have hkind : (readArgument kind ts).1.kind = kind := by
        unfold readArgument
        split <;> rfl
      have hplaces : tokenPlaces (offset + byteLength kind.command) ts =
          tokenPlaces (offset + byteLength (readArgument kind ts).1.source)
            (readArgument kind ts).2 := by
        conv => lhs; rw [he]
        rw [tokenPlaces_append hu, hs, byteLength_append, Nat.add_assoc]
      rw [tokenPlaces, hplaces, ← hrest, piecesOf]
      simp [layoutOf, placesAt, Part.source, hkind, Nat.add_assoc]
    | .escaped b :: ts =>
      rw [tokenPlaces, ← ih ts.length (h ▸ Nat.lt_succ_self _) ts _ rfl, piecesOf]
      simp [layoutOf, Nat.add_assoc]
    | .char c :: ts =>
      rw [tokenPlaces, ← ih ts.length (h ▸ Nat.lt_succ_self _) ts _ rfl, piecesOf]
      simp [layoutOf, Nat.add_assoc]

/-! ## 3. The shape of a part -/

/-- What a part looks like: what its argument has and has not, and where it ends. -/
structure Part.Proper (p : Part) : Prop where
  /-- Without an opening brace there is no gap before the text and no closing brace behind it. -/
  unopened : p.argument.opened = false → p.argument.gap = [] ∧ p.argument.closed = false
  /-- No opening brace that groups stands before the text. -/
  gap : '\x7b' ∉ unescaped ' ' p.argument.gap
  /-- An argument that a brace closes has balanced text. -/
  balanced : p.argument.closed = true → Balanced p.argument.text
  /-- An argument that no brace closes goes on to the next part, or to the end. -/
  unclosed : p.argument.closed = false → p.behind = []

/-- No body text comes before the next command. -/
def AtCommand (ts : List Token) : Prop := ts = [] ∨ ∃ kind rest, ts = .command kind :: rest

theorem front_of_atCommand {ts : List Token} (h : AtCommand ts) :
    (layoutOf (piecesOf ts)).front = [] := by
  rcases h with rfl | ⟨kind, rest, rfl⟩
  · simp [piecesOf, layoutOf]
  · simp [piecesOf, layoutOf]

theorem readText_atCommand {ts : List Token} {depth : Nat}
    (h : (readText depth ts).2.1 = false) : AtCommand (readText depth ts).2.2 := by
  induction ts generalizing depth with
  | nil => exact Or.inl rfl
  | cons t ts ih =>
    rcases readText_cons depth t with ⟨⟨kind, rfl⟩, hstep⟩ | ⟨-, hstep⟩ | ⟨-, inner, -, hstep⟩
    · rw [hstep]
      exact Or.inr ⟨kind, ts, rfl⟩
    · rw [hstep] at h
      cases h
    · rw [hstep] at h ⊢
      exact ih h

theorem wellSpelled_suffix {used rest : List Token} {previous : Char}
    (h : WellSpelled previous (used ++ rest)) : ∃ q, WellSpelled q rest := by
  induction used generalizing previous with
  | nil => exact ⟨previous, h⟩
  | cons t used ih =>
    cases t with
    | command kind => exact ih h
    | escaped b => exact ih h.2
    | char c => exact ih h.2

/-- **The part that begins with a command is proper.** -/
theorem proper_readArgument (kind : RegionKind) {ts : List Token} {previous : Char}
    (hw : WellSpelled previous ts) :
    Part.Proper
      ⟨(readArgument kind ts).1, (layoutOf (piecesOf (readArgument kind ts).2)).front⟩ := by
  have hgap := opening_not_mem_gap ts ' '
  have hts := List.takeWhile_append_dropWhile (p := isGapToken) (l := ts)
  unfold readArgument
  split
  · next c rest h =>
    have hrest : ∃ q, WellSpelled q rest := by
      rw [h] at hts
      obtain ⟨q, hq⟩ := wellSpelled_suffix (hts ▸ hw)
      exact ⟨c, hq.2⟩
    obtain ⟨q, hq⟩ := hrest
    exact
      { unopened := fun ho => by cases ho
        gap := hgap
        balanced := fun hc => balanced_readText hq hc
        unclosed := fun hc => front_of_atCommand (readText_atCommand hc) }
  · next hno =>
    have hat : AtCommand (ts.dropWhile isGapToken) := by
      cases hd : ts.dropWhile isGapToken with
      | nil => exact Or.inl rfl
      | cons t rest =>
        have hhead := List.head?_dropWhile_not isGapToken ts
        rw [hd] at hhead
        cases t with
        | command k => exact Or.inr ⟨k, rest, rfl⟩
        | escaped b => simp [isGapToken] at hhead
        | char c => exact absurd hd (hno c rest)
    exact
      { unopened := fun _ => ⟨rfl, rfl⟩
        gap := by simp [unescaped]
        balanced := fun hc => by cases hc
        unclosed := fun _ => front_of_atCommand hat }

theorem proper_layoutOf {ts : List Token} {previous : Char} (hw : WellSpelled previous ts) :
    ∀ p ∈ (layoutOf (piecesOf ts)).parts, p.Proper := by
  induction h : ts.length using Nat.strongRecOn generalizing ts previous with
  | _ n ih =>
    match ts, hw with
    | [], _ => simp [piecesOf, layoutOf]
    | .command kind :: ts, hw =>
      have hl : (readArgument kind ts).2.length < n := by
        rw [← h]
        exact Nat.lt_succ_of_le (readArgument_length kind ts)
      have hts : WellSpelled ' ' ts := hw
      obtain ⟨used, he, -, -⟩ := readArgument_used kind ts
      obtain ⟨q, hq⟩ := wellSpelled_suffix (he ▸ hts)
      rw [piecesOf]
      intro p hp
      rcases List.mem_cons.1 hp with rfl | hp
      · exact proper_readArgument kind hts
      · exact ih _ hl hq rfl p hp
    | .escaped b :: ts, hw =>
      rw [piecesOf]
      exact ih ts.length (h ▸ Nat.lt_succ_self _) hw.2 rfl
    | .char c :: ts, hw =>
      rw [piecesOf]
      exact ih ts.length (h ▸ Nat.lt_succ_self _) hw.2 rfl

/-! ## 4. The spans of regions -/

theorem regionsAt_bounds {ps : List Part} {offset : Nat} :
    ∀ r ∈ regionsAt offset ps, offset < r.start := by
  induction ps generalizing offset with
  | nil => simp [regionsAt]
  | cons p ps ih =>
    intro r hr
    rcases List.mem_cons.1 hr with rfl | hr
    · have hk : 0 < byteLength p.argument.kind.command := by
        cases p.argument.kind <;> decide
      simp only [Argument.head, byteLength_append]
      omega
    · have := ih r hr
      omega

/-- Regions follow one another without overlap. -/
theorem regionsAt_pairwise (ps : List Part) (offset : Nat) :
    (regionsAt offset ps).Pairwise fun r s => r.stop < s.start := by
  induction ps generalizing offset with
  | nil => exact List.Pairwise.nil
  | cons p ps ih =>
    refine List.Pairwise.cons (fun s hs => ?_) (ih _)
    have hlt := regionsAt_bounds s hs
    simp only [Region.stop]
    simp only [Part.source, Argument.source, byteLength_append] at hlt
    omega

/-- The text of a region stands in the source where its span says. -/
theorem regionsAt_slice (ps : List Part) (offset : Nat) :
    ∀ r ∈ regionsAt offset ps, ∃ before behind,
      ps.flatMap Part.source = before ++ r.text ++ behind ∧
        offset + byteLength before = r.start := by
  induction ps generalizing offset with
  | nil => simp [regionsAt]
  | cons p ps ih =>
    intro r hr
    rw [List.flatMap_cons]
    rcases List.mem_cons.1 hr with rfl | hr
    · refine ⟨p.argument.head, (if p.argument.closed then ['\x7d'] else []) ++ p.behind ++
        ps.flatMap Part.source, ?_, rfl⟩
      simp [Part.source, Argument.source]
    · obtain ⟨before, behind, he, hb⟩ := ih _ r hr
      refine ⟨p.source ++ before, behind, ?_, ?_⟩
      · rw [he]
        simp
      · rw [byteLength_append, ← Nat.add_assoc, hb]

theorem start_le_stop (r : Region) : r.start ≤ r.stop := Nat.le_add_right _ _

/-- Of regions that do not overlap, each is told by the byte at which it begins. -/
theorem eq_of_start_eq {rs : List Region} (h : rs.Pairwise fun r s => r.stop < s.start)
    {r s : Region} (hr : r ∈ rs) (hs : s ∈ rs) (he : r.start = s.start) : r = s := by
  induction rs with
  | nil => cases hr
  | cons x rs ih =>
    obtain ⟨hx, hrest⟩ := List.pairwise_cons.1 h
    have hle := start_le_stop x
    rcases List.mem_cons.1 hr with hrx | hr'
    · rcases List.mem_cons.1 hs with hsx | hs'
      · rw [hrx, hsx]
      · have := hx s hs'
        rw [hrx] at he
        omega
    · rcases List.mem_cons.1 hs with hsx | hs'
      · have := hx r hr'
        rw [hsx] at he
        omega
      · exact ih hrest hr' hs'

theorem footnotes_append_captions_perm (cs : List Char) :
    (footnotes cs ++ captions cs).Perm (regions cs) := by
  have hc : captions cs = (regions cs).filter fun r => !(decide (r.kind = .footnote)) := by
    refine List.filter_congr fun r _ => ?_
    cases r.kind <;> rfl
  rw [hc]
  exact List.filter_append_perm _ _

theorem regions_layout (cs : List Char) : (layout cs).regions = regions cs := by
  have h := regionsAt_layoutOf (pieces cs) 0
  rwa [Nat.zero_add] at h

/-- Footnotes and captions sorted by their bytes are the regions as they are read. -/
theorem inSourceOrder_eq_regions (cs : List Char) : inSourceOrder cs = regions cs := by
  have hord : (regions cs).Pairwise fun r s => r.stop < s.start :=
    regions_layout cs ▸ regionsAt_pairwise _ _
  have hperm := footnotes_append_captions_perm cs
  have hle : (regions cs).Pairwise fun r s => decide (r.start ≤ s.start) = true :=
    hord.imp fun {r s} h => decide_eq_true (by have := start_le_stop r; omega)
  refine List.Perm.eq_of_pairwise (fun r s hr hs h1 h2 => ?_) ?_ hle
    ((List.mergeSort_perm _ _).trans hperm)
  · have hr : r ∈ regions cs := hperm.subset (List.mem_mergeSort.1 hr)
    exact eq_of_start_eq hord hr hs (Nat.le_antisymm (of_decide_eq_true h1) (of_decide_eq_true h2))
  · refine List.pairwise_mergeSort (fun r s t h1 h2 => ?_) (fun r s => ?_) _
    · exact decide_eq_true (Nat.le_trans (of_decide_eq_true h1) (of_decide_eq_true h2))
    · simpa using Nat.le_total r.start s.start

/-! ## 5. The decomposition -/

/-- What it means that a layout takes a text apart. -/
structure Layout.Decomposes (l : Layout) (cs : List Char) : Prop where
  /-- Front, parts and what stands between them are the whole text. -/
  source : l.source = cs
  /-- The body is what no part's argument takes. -/
  body : Markup.body cs = l.body
  /-- The regions are the arguments of the parts, in their order. -/
  regions : inSourceOrder cs = l.regions
  /-- Every control word of the text begins a part, and nothing else does. -/
  places : commandPlaces 0 cs = l.places
  proper : ∀ p ∈ l.parts, p.Proper

/-- The spans of regions cut out of a text what the regions hold. -/
structure SpansOf (rs : List Region) (cs : List Char) : Prop where
  disjoint : rs.Pairwise fun r s => r.stop < s.start
  slice : ∀ r ∈ rs, ∃ before behind, cs = before ++ r.text ++ behind ∧
    byteLength before = r.start ∧ byteLength (before ++ r.text) = r.stop

theorem decomposes_layout (cs : List Char) : (layout cs).Decomposes cs where
  source := (source_layoutOf (pieces cs)).trans (source_pieces cs)
  body := (body_layoutOf (pieces cs)).symm
  regions := (inSourceOrder_eq_regions cs).trans (regions_layout cs).symm
  places := by
    have h := placesAt_layoutOf (tokens cs) 0
    rw [Nat.zero_add] at h
    exact (commandPlaces_eq cs 0).trans h.symm
  proper := by
    have hw : WellSpelled ' ' (tokens cs) := wellSpelled_tokens cs (fun h => by cases h)
    exact proper_layoutOf hw

theorem spansOf_regions (l : Layout) : SpansOf l.regions l.source where
  disjoint := regionsAt_pairwise _ _
  slice r hr := by
    obtain ⟨before, behind, hs, hb⟩ := regionsAt_slice l.parts _ r hr
    refine ⟨l.front ++ before, behind, ?_, ?_, ?_⟩
    · rw [Layout.source, hs]
      simp
    · rw [byteLength_append, hb]
    · rw [byteLength_append, byteLength_append, hb, Region.stop]

/-- **Every text is laid out as body text and parts, with nothing lost**: its body is the body
    text of the layout, its regions in source order are the arguments of the parts, one for every
    control word, and their spans are apart and cut out what the regions hold. -/
theorem layout_decomposes (cs : List Char) :
    ∃ l : Layout, l.Decomposes cs ∧ SpansOf (inSourceOrder cs) cs := by
  have h := decomposes_layout cs
  refine ⟨layout cs, h, ?_⟩
  have hspans := spansOf_regions (layout cs)
  rwa [h.source, ← h.regions] at hspans

/-- A footnote with an optional argument and an escaped brace, a control word that is no command, a
    caption that the next command ends, and a footnote without braces. -/
def threeCommands : String :=
  "See\\footnote[1] \x7bA \\\x7b\\emph\x7bB\x7d\x7d\u00e9\\captions \\caption\x7bC\\footnote D"

/-- Three commands begin at the bytes 3, 42 and 52, and what they take is no body text. -/
theorem layout_decomposes_threeCommands :
    ∃ l : Layout, l.Decomposes threeCommands.toList ∧ SpansOf l.regions threeCommands.toList ∧
      l.places = [(.footnote, 3), (.caption, 42), (.footnote, 52)] ∧
      l.regions = [⟨.footnote, "A \\\x7b\\emph\x7bB\x7d".toList, 17⟩, ⟨.caption, ['C'], 51⟩,
        ⟨.footnote, [' ', 'D'], 61⟩] ∧
      l.body = "See\u00e9\\captions ".toList := by
  obtain ⟨l, h, hspans⟩ := layout_decomposes threeCommands.toList
  refine ⟨l, h, h.regions ▸ hspans, ?_, ?_, ?_⟩
  · rw [← h.places]
    decide +kernel
  · rw [← h.regions, inSourceOrder_eq_regions]
    decide +kernel
  · rw [← h.body]
    decide +kernel

end Galley.Markup
