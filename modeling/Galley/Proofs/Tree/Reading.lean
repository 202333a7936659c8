import Galley.Proofs.Json.Canonical
import Galley.Proofs.Steps
import Galley.Tree.Json

/-!
# Reading trees from values

The depth that reading counts down never runs out, so a node reads its children as it is read
itself. What is read from an object without repeated keys hangs only on what is found under the
names of the fields. A node that was read is *proper*: no element has the kind of text, no mark that
is passed through has the name of one that means something, and all values of attributes are
canonical. Main statements: `Node.ofJson?_eq`, `Node.proper_of_ofJson?`.
-/

namespace Galley

/-! ## 1. Attributes -/

namespace Dict

/-- All values are canonical, as those of attributes that were read. -/
def Canonical (d : Dict Json) : Prop := ∀ e ∈ d.entries, e.2.IsCanonical

theorem canonical_empty : Canonical empty := fun e he => by cases he

theorem mem_entries_insert {α : Type} {d : Dict α} {key : String} {value : α} {e : String × α}
    (h : e ∈ (d.insert key value).entries) : e = (key, value) ∨ e ∈ d.entries := by
  rw [insert] at h
  split at h
  · obtain ⟨e', he', rfl⟩ := List.mem_map.1 h
    split
    · exact Or.inl rfl
    · exact Or.inr he'
  · exact (List.mem_append.1 h).symm.imp_left List.mem_singleton.1

theorem Canonical.insert {d : Dict Json} (h : d.Canonical) (key : String) {value : Json}
    (hvalue : value.IsCanonical) : (d.insert key value).Canonical := fun e he => by
  rcases mem_entries_insert he with rfl | he
  · exact hvalue
  · exact h e he

theorem canonical_ofList {es : List (String × Json)} (h : ∀ e ∈ es, e.2.IsCanonical) :
    (ofList es).Canonical := by
  rw [ofList]
  refine List.foldlRecOn es _ canonical_empty fun d hd e he => ?_
  exact hd.insert e.1 (h e he)

/-- Entries make their own dictionary. -/
theorem ofList_entries {α : Type} (d : Dict α) : ofList d.entries = d := by
  have hentries := entries_ofList d.nodup
  cases hlist : ofList d.entries
  cases d
  rw [hlist] at hentries
  cases hentries
  rfl

end Dict

theorem canonical_of_attrsOfJson? {v : Json} {attrs : Attrs} (h : attrsOfJson? v = some attrs) :
    attrs.Canonical := by
  cases v with
  | object fields =>
    rw [← Option.some.inj h]
    refine Dict.canonical_ofList fun e he => ?_
    obtain ⟨f, -, rfl⟩ := List.mem_map.1 he
    exact Json.isCanonical_canonical f.2
  | _ => cases h

/-! ## 2. Proper nodes -/

/-- A mark that reading can give: one that is passed through has none of the names that mean
    something, and the values of attributes are canonical. -/
inductive Mark.Proper : Mark → Prop where
  | strong : Proper .strong
  | em : Proper .em
  | link {attrs : Attrs} (h : attrs.Canonical) : Proper (.link attrs)
  | other {kind : String} {attrs : Attrs} (hstrong : kind ≠ "strong") (hem : kind ≠ "em")
      (hlink : kind ≠ "link") (h : attrs.Canonical) : Proper (.other kind attrs)

/-- A node that reading can give: no element has the kind of text, and the values of attributes
    are canonical. -/
inductive Node.Proper : Node → Prop where
  | element {kind : String} {attrs : Attrs} {content : List Node} (hkind : kind ≠ "text")
      (hattrs : attrs.Canonical) (hcontent : ∀ n ∈ content, Proper n) :
      Proper (.element kind attrs content)
  | text (s : String) {marks : List Mark} (h : ∀ m ∈ marks, m.Proper) : Proper (.text s marks)

theorem Mark.proper_ofKind (kind : String) {attrs : Attrs} (h : attrs.Canonical) :
    (Mark.ofKind kind attrs).Proper := by
  unfold Mark.ofKind
  split
  · exact .strong
  · exact .em
  · exact .link h
  · next hstrong hem hlink => exact .other hstrong hem hlink h

/-- What holds of every item that can be read holds of all items of a list field. -/
theorem forall_mem_of_readAll? {α : Type} {P : α → Prop} {read : Json → Option α}
    (hread : ∀ v a, read v = some a → P a) {v : Json} {items : List α}
    (h : readAll? read v = some items) : ∀ a ∈ items, P a := fun a ha => by
  obtain ⟨values, -, hmap⟩ := Option.bind_eq_some_iff.1 h
  obtain ⟨v, -, hv⟩ := mem_of_mapM_eq_some hmap ha
  exact hread v a hv

/-- What holds of the fallback and of everything that can be read holds of the field. -/
theorem Record.of_withDefault? {α δ : Type} {P : α → Prop} {r : Record δ} {name : String}
    {read : δ → Option α} {fallback a : α} (hfallback : P fallback)
    (hread : ∀ v b, read v = some b → P b) (h : r.withDefault? name read fallback = some a) :
    P a := by
  rw [withDefault?] at h
  split at h
  · exact hread _ _ h
  · exact Option.some.inj h ▸ hfallback

theorem Mark.proper_of_ofJson? (v : Json) (m : Mark) (h : Mark.ofJson? v = some m) :
    m.Proper := by
  obtain ⟨r, -, h⟩ := Option.bind_eq_some_iff.1 h
  obtain ⟨kind, -, h⟩ := Option.bind_eq_some_iff.1 h
  obtain ⟨attrs, hattrs, h⟩ := Option.bind_eq_some_iff.1 h
  rw [← Option.some.inj h]
  exact proper_ofKind kind (Record.of_withDefault? Dict.canonical_empty
    (fun v a hv => canonical_of_attrsOfJson? hv) hattrs)

namespace Node

theorem proper_of_ofJsonWithin? (depth : Nat) (v : Json) (n : Node)
    (h : ofJsonWithin? depth v = some n) : n.Proper := by
  induction depth generalizing v n with
  | zero => cases h
  | succ depth ih =>
    obtain ⟨r, -, h⟩ := Option.bind_eq_some_iff.1 h
    obtain ⟨kind, -, h⟩ := Option.bind_eq_some_iff.1 h
    obtain ⟨attrs, hattrs, h⟩ := Option.bind_eq_some_iff.1 h
    obtain ⟨content, hcontent, h⟩ := Option.bind_eq_some_iff.1 h
    obtain ⟨text, -, h⟩ := Option.bind_eq_some_iff.1 h
    obtain ⟨marks, hmarks, h⟩ := Option.bind_eq_some_iff.1 h
    rw [← Option.some.inj h, ofParts]
    split
    · refine .text _ (Record.of_withDefault? (P := fun ms => ∀ m ∈ ms, Mark.Proper m) ?_
        (fun v ms => forall_mem_of_readAll? Mark.proper_of_ofJson?) hmarks)
      exact fun m hm => by cases hm
    · next hkind =>
      refine .element hkind (Record.of_withDefault? Dict.canonical_empty
        (fun v a hv => canonical_of_attrsOfJson? hv) hattrs) ?_
      refine Record.of_withDefault? (P := fun ns => ∀ n ∈ ns, Node.Proper n) ?_
        (fun v ns => forall_mem_of_readAll? ih) hcontent
      exact fun n hn => by cases hn

/-- **A node that was read is proper.** -/
theorem proper_of_ofJson? {v : Json} {n : Node} (h : ofJson? v = some n) : n.Proper :=
  proper_of_ofJsonWithin? _ v n h

end Node

/-! ## 3. Nodes that are made -/

theorem Json.isCanonical_string (s : String) : IsCanonical (.string s) := rfl

theorem Mark.proper_href (target : String) : (Mark.href target).Proper :=
  .link (Dict.canonical_empty.insert "href" (Json.isCanonical_string target))

theorem Mark.proper_external (target : String) : (Mark.external target).Proper :=
  .link ((Dict.canonical_empty.insert "href" (Json.isCanonical_string target)).insert "target"
    (Json.isCanonical_string "_blank"))

namespace Node

theorem proper_marked (s : String) {m : Mark} (h : m.Proper) : Proper (.text s [m]) :=
  .text s fun m' hm' => by rw [List.mem_singleton.1 hm']; exact h

theorem proper_plain (s : String) : (plain s).Proper := .text s fun m hm => by cases hm

theorem proper_paragraph {content : List Node} (h : ∀ n ∈ content, n.Proper) :
    (paragraph content).Proper :=
  .element (by decide) Dict.canonical_empty h

theorem proper_emptyParagraph : emptyParagraph.Proper :=
  proper_paragraph fun n hn => by cases hn

theorem proper_heading (level : Nat) {attrs : Attrs} (hattrs : attrs.Canonical) (title : String) :
    (heading level attrs [.plain title]).Proper :=
  .element (by decide) (hattrs.insert "level" rfl) fun n hn => by
    rw [List.mem_singleton.1 hn]
    exact proper_plain title

theorem Proper.withAttr {n : Node} (h : n.Proper) (name : String) {value : Json}
    (hvalue : value.IsCanonical) : (n.withAttr name value).Proper := by
  cases h with
  | element hkind hattrs hcontent => exact .element hkind (hattrs.insert name hvalue) hcontent
  | text s h => exact .text s h

end Node

/-! ## 4. The depth of a value -/

namespace Node

theorem levels_le_of_mem {v : Json} {items : List Json} (h : v ∈ items) :
    levels v ≤ levelsOfItems items := by
  induction items with
  | nil => cases h
  | cons w items ih =>
    rw [levelsOfItems]
    rcases List.mem_cons.1 h with rfl | h
    · exact Nat.le_max_left _ _
    · exact (ih h).trans (Nat.le_max_right _ _)

theorem levels_le_of_mem_fields {f : String × Json} {fields : List (String × Json)}
    (h : f ∈ fields) : levels f.2 ≤ levelsOfFields fields := by
  induction fields with
  | nil => cases h
  | cons g fields ih =>
    obtain ⟨name, w⟩ := g
    rw [levelsOfFields]
    rcases List.mem_cons.1 h with rfl | h
    · exact Nat.le_max_left _ _
    · exact (ih h).trans (Nat.le_max_right _ _)

theorem levels_pos (v : Json) : 0 < levels v := by
  cases v <;> simp [levels]

theorem mem_of_ofFields? {names : List String} {given values : List (String × Json)}
    (h : Record.ofFields? names given = some values) {f : String × Json} (hf : f ∈ values) :
    f ∈ given := by
  induction given generalizing values with
  | nil =>
    rw [← Option.some.inj h] at hf
    cases hf
  | cons g given ih =>
    obtain ⟨name, w⟩ := g
    rw [Record.ofFields?] at h
    split at h
    · split at h
      · cases h
      · obtain ⟨rest, hrest, rfl⟩ := Option.map_eq_some_iff.1 h
        rcases List.mem_cons.1 hf with rfl | hf
        · exact List.mem_cons_self
        · exact List.mem_cons_of_mem _ (ih hrest hf)
    · exact List.mem_cons_of_mem _ (ih h hf)

/-- The values of a record lie below the value that spells it. -/
theorem levels_lt_of_read? {names : List String} {v : Json} {r : Record Json}
    (h : Record.read? names v = some r) {f : String × Json} (hf : f ∈ r.values) :
    levels f.2 < levels v := by
  cases v with
  | object fields =>
    obtain ⟨values, hvalues, rfl⟩ := Option.map_eq_some_iff.1 h
    exact Nat.lt_succ_of_le (levels_le_of_mem_fields (mem_of_ofFields? hvalues hf))
  | array items =>
    have hzip : (if items.length ≤ names.length then some (⟨true, names.zip items⟩ : Record Json)
        else none) = some r := h
    split at hzip
    · rw [← Option.some.inj hzip] at hf
      exact Nat.lt_succ_of_le (levels_le_of_mem (List.of_mem_zip hf).2)
    · cases hzip
  | _ => cases h

/-- Two readers that agree on what lies below a value read the same list from its field. -/
theorem withDefault?_readAll?_congr {α : Type} {read read' : Json → Option α} {r : Record Json}
    {bound : Nat} (hr : ∀ f ∈ r.values, levels f.2 ≤ bound)
    (h : ∀ v, levels v ≤ bound → read v = read' v) (name : String) (fallback : List α) :
    r.withDefault? name (readAll? read) fallback =
      r.withDefault? name (readAll? read') fallback := by
  rw [Record.withDefault?, Record.withDefault?]
  cases hfound : r.values.lookup name with
  | none => rfl
  | some v =>
    have hv : levels v ≤ bound := hr (name, v) (Dict.mem_of_lookup hfound)
    cases v with
    | array items =>
      have hitems : ∀ w ∈ items, read w = read' w := fun w hw =>
        h w ((levels_le_of_mem hw).trans (Nat.le_of_succ_le hv))
      exact mapM_congr_left hitems
    | _ => rfl

/-- Any two depths that are enough for a value read the same from it. -/
theorem ofJsonWithin?_congr {depth depth' : Nat} {v : Json} (h : levels v ≤ depth)
    (h' : levels v ≤ depth') : ofJsonWithin? depth v = ofJsonWithin? depth' v := by
  induction depth generalizing depth' v with
  | zero => exact absurd h (Nat.not_le.2 (levels_pos v))
  | succ depth ih =>
    cases depth' with
    | zero => exact absurd h' (Nat.not_le.2 (levels_pos v))
    | succ depth' =>
      simp only [ofJsonWithin?]
      cases hr : Record.read? fieldNames v with
      | none => rfl
      | some r =>
        have hbound : ∀ f ∈ r.values, levels f.2 ≤ min depth depth' := fun f hf => by
          have hlt := levels_lt_of_read? hr hf
          omega
        have hcontent := withDefault?_readAll?_congr hbound
          (fun w hw => ih (hw.trans (Nat.min_le_left _ _)) (hw.trans (Nat.min_le_right _ _)))
          "content" []
        simp only [bind, Option.bind, hcontent]

/-- **A node reads its children as it is read itself.** -/
theorem ofJson?_eq (v : Json) :
    ofJson? v = (do
      let r ← Record.read? fieldNames v
      let kind ← r.required? "type" Json.asString?
      let attrs ← r.withDefault? "attrs" attrsOfJson? Dict.empty
      let content ← r.withDefault? "content" (readAll? ofJson?) []
      let text ← r.withDefault? "text" (Record.maybe? Json.asString?) none
      let marks ← r.withDefault? "marks" (readAll? Mark.ofJson?) []
      some (ofParts kind attrs content text marks)) := by
  obtain ⟨depth, hdepth⟩ := Nat.exists_eq_succ_of_ne_zero (levels_pos v).ne'
  rw [ofJson?, hdepth]
  simp only [ofJsonWithin?]
  cases hr : Record.read? fieldNames v with
  | none => rfl
  | some r =>
    have hbound : ∀ f ∈ r.values, levels f.2 ≤ depth := fun f hf => by
      have hlt := levels_lt_of_read? hr hf
      omega
    have hcontent := withDefault?_readAll?_congr hbound
      (fun w hw => ofJsonWithin?_congr hw (Nat.le_refl (levels w))) "content" []
    simp only [bind, Option.bind, hcontent]
    rfl

end Node

/-! ## 5. Objects without repeated keys -/

namespace Record

variable {names : List String} {fields : List (String × Json)}

theorem ofFields?_of_nodup (h : (fields.map Prod.fst).Nodup) :
    ofFields? names fields = some (fields.filter fun f => names.contains f.1) := by
  induction fields with
  | nil => rfl
  | cons f fields ih =>
    obtain ⟨name, v⟩ := f
    obtain ⟨hnew, hfields⟩ := List.nodup_cons.1 h
    have honce : (fields.map Prod.fst).contains name = false := by
      simpa using hnew
    rw [ofFields?, ih hfields, honce, List.filter_cons]
    cases names.contains name <;> rfl

/-- What is found under the name of a field in an object is what the record has there. -/
theorem lookup_filter_names {name : String} (h : name ∈ names) :
    (fields.filter fun f => names.contains f.1).lookup name = fields.lookup name := by
  induction fields with
  | nil => rfl
  | cons f fields ih =>
    obtain ⟨key, v⟩ := f
    rw [List.filter_cons]
    by_cases hkey : names.contains key
    · rw [if_pos hkey, List.lookup_cons, List.lookup_cons, ih]
    · have hne : (name == key) = false := beq_eq_false_iff_ne.2 fun heq =>
        hkey (heq ▸ List.contains_iff_mem.2 h)
      rw [if_neg hkey, List.lookup_cons, hne, ih]

theorem read?_object (h : (fields.map Prod.fst).Nodup) :
    read? names (.object fields) =
      some ⟨false, fields.filter fun f => names.contains f.1⟩ := by
  have hread : read? names (Json.object fields) =
      (ofFields? names fields).map (⟨false, ·⟩) := rfl
  rw [hread, ofFields?_of_nodup h]
  rfl

end Record

/-- What is read from a field that may be missing. -/
def readOr {α : Type} (found : Option Json) (read : Json → Option α) (fallback : α) : Option α :=
  match found with
  | some v => read v
  | none => some fallback

theorem Record.withDefault?_eq {α : Type} (r : Record Json) (name : String)
    (read : Json → Option α) (fallback : α) :
    r.withDefault? name read fallback = readOr (r.values.lookup name) read fallback := by
  rw [withDefault?]
  cases r.values.lookup name <;> rfl

/-- The mark with what is found under the names of its fields. -/
def Mark.ofFound? (found : String → Option Json) : Option Mark := do
  let kind ← (found "type").bind Json.asString?
  let attrs ← readOr (found "attrs") attrsOfJson? Dict.empty
  some (ofKind kind attrs)

/-- The node with what is found under the names of its fields. -/
def Node.ofFound? (found : String → Option Json) : Option Node := do
  let kind ← (found "type").bind Json.asString?
  let attrs ← readOr (found "attrs") attrsOfJson? Dict.empty
  let content ← readOr (found "content") (readAll? Node.ofJson?) []
  let text ← readOr (found "text") (Record.maybe? Json.asString?) none
  let marks ← readOr (found "marks") (readAll? Mark.ofJson?) []
  some (ofParts kind attrs content text marks)

theorem Mark.ofJson?_object {fields : List (String × Json)} (h : (fields.map Prod.fst).Nodup) :
    Mark.ofJson? (.object fields) = ofFound? fun name => fields.lookup name := by
  rw [Mark.ofJson?, Record.read?_object h, ofFound?]
  simp (disch := decide) only [Option.bind_eq_bind, Option.bind_some, Record.required?,
    Record.withDefault?_eq, Record.lookup_filter_names]

theorem Node.ofJson?_object {fields : List (String × Json)} (h : (fields.map Prod.fst).Nodup) :
    Node.ofJson? (.object fields) = ofFound? fun name => fields.lookup name := by
  rw [ofJson?_eq, Record.read?_object h, ofFound?]
  simp (disch := decide) only [Option.bind_eq_bind, Option.bind_some, Record.required?,
    Record.withDefault?_eq, Record.lookup_filter_names]

end Galley
