import Galley.Proofs.Tree.Reading

/-!
# Writing trees and reading them back

A proper node that is written reads back as it is. When the written value is brought to its
canonical form first, the attributes come back in the order of their names, and otherwise the node
is the same; written again, it gives the same canonical value. Main statement:
`Node.Proper.roundTrips`.
-/

namespace Galley

/-! ## 1. Attributes in order -/

namespace Dict

/-- The same values in the order of their keys, each in its canonical form. -/
def sorted (d : Dict Json) : Dict Json :=
  ⟨Json.canonicalFields [] d.entries, (Json.sortedFields_nil.canonicalFields d.entries).nodup⟩

/-- Two dictionaries hold the same under every key. -/
def Same {α : Type} (a b : Dict α) : Prop := ∀ key, a.get? key = b.get? key

theorem canonical_sorted (d : Dict Json) : d.sorted.Canonical := fun e he => by
  rcases Json.mem_canonicalFields he with hnil | ⟨f, -, rfl⟩
  · cases hnil
  · exact Json.isCanonical_canonical f.2

theorem sorted_empty : sorted empty = empty := rfl

theorem same_sorted {d : Dict Json} (h : d.Canonical) : d.sorted.Same d := fun key => by
  have hfound : d.sorted.get? key = (d.get? key).map Json.canonical :=
    Json.lookup_canonicalFields d.nodup key
  rw [hfound]
  cases hget : d.get? key with
  | none => rfl
  | some v => exact congrArg some (h _ (mem_of_lookup hget))

/-- Sorted attributes have the canonical form of the attributes. -/
theorem canonical_object_sorted (d : Dict Json) :
    (Json.object d.sorted.entries).canonical = (Json.object d.entries).canonical :=
  Json.isCanonical_canonical (.object d.entries)

theorem isEmpty_sorted (d : Dict Json) : d.sorted.isEmpty = d.isEmpty := by
  obtain ⟨entries, nodup⟩ := d
  cases entries with
  | nil => rfl
  | cons e es =>
    show (Json.canonicalFields [] (e :: es)).isEmpty = false
    have hfound := Json.lookup_canonicalFields nodup e.1
    rw [List.lookup_cons_self] at hfound
    cases hfields : Json.canonicalFields [] (e :: es) with
    | nil =>
      rw [hfields] at hfound
      cases hfound
    | cons f fs => rfl

theorem eq_empty_of_isEmpty {α : Type} {d : Dict α} (h : d.isEmpty = true) : d = empty := by
  obtain ⟨entries, nodup⟩ := d
  cases entries with
  | nil => rfl
  | cons e es => cases h

end Dict

/-- Attributes read back as they were written. -/
theorem attrsOfJson?_entries {attrs : Attrs} (h : attrs.Canonical) :
    attrsOfJson? (.object attrs.entries) = some attrs := by
  have hvalues : attrs.entries.map (fun f => (f.1, f.2.canonical)) = attrs.entries := by
    calc attrs.entries.map (fun f => (f.1, f.2.canonical))
        = attrs.entries.map fun f => (f.1, f.2) :=
          List.map_congr_left fun f hf => congrArg (Prod.mk f.1) (h f hf)
      _ = attrs.entries := List.map_id _
  rw [attrsOfJson?, hvalues, Dict.ofList_entries]

theorem attrsOfJson?_canonical (attrs : Attrs) :
    attrsOfJson? (Json.object attrs.entries).canonical = some attrs.sorted :=
  attrsOfJson?_entries attrs.canonical_sorted

/-! ## 2. Written fields -/

/-- What is found under the name of written attributes. -/
def foundAttrs (attrs : Attrs) : Option Json :=
  if attrs.isEmpty then none else some (.object attrs.entries)

/-- What is found under the name of a written list. -/
def foundItems (items : List Json) : Option Json :=
  if items.isEmpty then none else some (.array items)

theorem readOr_foundAttrs {attrs : Attrs} (h : attrs.Canonical) :
    readOr (foundAttrs attrs) attrsOfJson? Dict.empty = some attrs := by
  rw [foundAttrs]
  split
  · next hempty => rw [Dict.eq_empty_of_isEmpty hempty, readOr]
  · rw [readOr, attrsOfJson?_entries h]

theorem readOr_foundAttrs_canonical (attrs : Attrs) :
    readOr ((foundAttrs attrs).map Json.canonical) attrsOfJson? Dict.empty =
      some attrs.sorted := by
  rw [foundAttrs]
  split
  · next hempty => rw [Dict.eq_empty_of_isEmpty hempty, Dict.sorted_empty]; rfl
  · exact attrsOfJson?_canonical attrs

theorem readOr_foundItems {α : Type} (read : Json → Option α) (items : List Json) :
    readOr (foundItems items) (readAll? read) [] = items.mapM read := by
  cases items <;> rfl

theorem readOr_foundItems_canonical {α : Type} (read : Json → Option α) (items : List Json) :
    readOr ((foundItems items).map Json.canonical) (readAll? read) [] =
      (items.map Json.canonical).mapM read := by
  rw [← Json.canonicalItems_eq_map]
  cases items <;> rfl

/-- What is found under the names of the fields of a written mark. -/
def Mark.found (m : Mark) : String → Option Json
  | "type" => some (.string m.kind)
  | "attrs" => foundAttrs m.attrs
  | _ => none

/-- What is found under the names of the fields of a written node. -/
def Node.found : Node → String → Option Json
  | .element kind _ _, "type" => some (.string kind)
  | .element _ attrs _, "attrs" => foundAttrs attrs
  | .element _ _ content, "content" => foundItems (toJsons content)
  | .text _ _, "type" => some (.string "text")
  | .text s _, "text" => some (.string s)
  | .text _ marks, "marks" => foundItems (marks.map Mark.toJson)
  | _, _ => none

theorem Mark.written (m : Mark) : ∃ fields, m.toJson = .object fields ∧
    (fields.map Prod.fst).Nodup ∧
    fields.lookup "type" = m.found "type" ∧ fields.lookup "attrs" = m.found "attrs" := by
  refine ⟨_, rfl, ?_⟩
  rw [attrsField, found, found, foundAttrs]
  split <;> simp [List.lookup_cons]

theorem Node.written (n : Node) : ∃ fields, n.toJson = .object fields ∧
    (fields.map Prod.fst).Nodup ∧ ∀ name ∈ fieldNames, fields.lookup name = n.found name := by
  cases n with
  | element kind attrs content =>
    refine ⟨_, rfl, ?_⟩
    simp only [fieldNames, List.forall_mem_cons, List.not_mem_nil, false_imp_iff, implies_true,
      and_true, found, attrsField, listField, foundAttrs, foundItems]
    split <;> split <;> simp [List.lookup_cons]
  | text s marks =>
    refine ⟨_, rfl, ?_⟩
    simp only [fieldNames, List.forall_mem_cons, List.not_mem_nil, false_imp_iff, implies_true,
      and_true, found, listField, foundItems]
    split <;> simp [List.lookup_cons]

/-! ## 3. Reading what was written -/

theorem Mark.ofJson?_toJson_eq (m : Mark) : ofJson? m.toJson = ofFound? m.found := by
  obtain ⟨fields, hfields, hnodup, htype, hattrs⟩ := m.written
  rw [hfields, ofJson?_object hnodup, ofFound?, ofFound?, htype, hattrs]

theorem Mark.ofJson?_canonical_eq (m : Mark) :
    ofJson? m.toJson.canonical = ofFound? fun name => (m.found name).map Json.canonical := by
  obtain ⟨fields, hfields, hnodup, htype, hattrs⟩ := m.written
  have hsorted := (Json.sortedFields_nil.canonicalFields fields).nodup
  rw [hfields, Json.canonical, ofJson?_object hsorted, ofFound?, ofFound?,
    Json.lookup_canonicalFields hnodup, Json.lookup_canonicalFields hnodup, htype, hattrs]

/-- Reading asks for no other names than those of the fields. -/
theorem Node.ofFound?_congr {found found' : String → Option Json}
    (h : ∀ name ∈ fieldNames, found name = found' name) : ofFound? found = ofFound? found' := by
  rw [ofFound?, ofFound?, h "type" (by decide), h "attrs" (by decide), h "content" (by decide),
    h "text" (by decide), h "marks" (by decide)]

theorem Node.ofJson?_toJson_eq (n : Node) : ofJson? n.toJson = ofFound? n.found := by
  obtain ⟨fields, hfields, hnodup, hfound⟩ := n.written
  rw [hfields, ofJson?_object hnodup]
  exact ofFound?_congr hfound

theorem Node.ofJson?_canonical_eq (n : Node) :
    ofJson? n.toJson.canonical = ofFound? fun name => (n.found name).map Json.canonical := by
  obtain ⟨fields, hfields, hnodup, hfound⟩ := n.written
  have hsorted := (Json.sortedFields_nil.canonicalFields fields).nodup
  rw [hfields, Json.canonical, ofJson?_object hsorted]
  refine ofFound?_congr fun name hname => ?_
  rw [Json.lookup_canonicalFields hnodup, hfound name hname]

theorem Node.ofFound?_element {found : String → Option Json} {kind : String} {attrs : Attrs}
    {content : List Node} (hkind : kind ≠ "text") (htype : found "type" = some (.string kind))
    (hattrs : readOr (found "attrs") attrsOfJson? Dict.empty = some attrs)
    (hcontent : readOr (found "content") (readAll? ofJson?) [] = some content)
    (htext : found "text" = none) (hmarks : found "marks" = none) :
    ofFound? found = some (.element kind attrs content) := by
  rw [ofFound?, htype, hattrs, hcontent, htext, hmarks]
  show some (ofParts kind attrs content none []) = _
  rw [ofParts, if_neg hkind]

theorem Node.ofFound?_text {found : String → Option Json} {s : String} {marks : List Mark}
    (htype : found "type" = some (.string "text")) (hattrs : found "attrs" = none)
    (hcontent : found "content" = none) (htext : found "text" = some (.string s))
    (hmarks : readOr (found "marks") (readAll? Mark.ofJson?) [] = some marks) :
    ofFound? found = some (.text s marks) := by
  rw [ofFound?, htype, hattrs, hcontent, htext, hmarks]
  rfl

theorem Node.toJsons_eq_map (ns : List Node) : toJsons ns = ns.map toJson := by
  induction ns with
  | nil => rfl
  | cons n ns ih => rw [toJsons, ih, List.map_cons]

theorem Mark.ofKind_other {kind : String} (hstrong : kind ≠ "strong") (hem : kind ≠ "em")
    (hlink : kind ≠ "link") (attrs : Attrs) : ofKind kind attrs = .other kind attrs := by
  unfold ofKind
  split
  · exact absurd rfl hstrong
  · exact absurd rfl hem
  · exact absurd rfl hlink
  · rfl

theorem Mark.Proper.ofKind_kind {m : Mark} (h : m.Proper) : ofKind m.kind m.attrs = m := by
  cases h with
  | strong => rfl
  | em => rfl
  | link _ => rfl
  | other hstrong hem hlink _ => exact ofKind_other hstrong hem hlink _

theorem Mark.Proper.canonical_attrs {m : Mark} (h : m.Proper) : m.attrs.Canonical := by
  cases h with
  | strong => exact Dict.canonical_empty
  | em => exact Dict.canonical_empty
  | link h => exact h
  | other _ _ _ h => exact h

theorem Mark.Proper.ofJson?_toJson {m : Mark} (h : m.Proper) : ofJson? m.toJson = some m := by
  rw [ofJson?_toJson_eq, ofFound?, found, found, readOr_foundAttrs h.canonical_attrs]
  show some (ofKind m.kind m.attrs) = _
  rw [h.ofKind_kind]

/-- **A proper node that is written reads back as it is.** -/
theorem Node.Proper.ofJson?_toJson {n : Node} (h : n.Proper) : ofJson? n.toJson = some n := by
  induction h with
  | @element kind attrs content hkind hattrs _ ih =>
    rw [ofJson?_toJson_eq]
    refine ofFound?_element hkind rfl (readOr_foundAttrs hattrs) ?_ rfl rfl
    rw [found, readOr_foundItems, toJsons_eq_map, mapM_map_of_forall (g := id) ih, List.map_id]
  | @text s marks h =>
    rw [ofJson?_toJson_eq]
    refine ofFound?_text rfl rfl rfl rfl ?_
    rw [found, readOr_foundItems,
      mapM_map_of_forall (g := id) fun m hm => (h m hm).ofJson?_toJson, List.map_id]

/-! ## 4. Reading the canonical form of what was written -/

/-- The mark with its attributes in order. -/
def Mark.sorted : Mark → Mark
  | .strong => .strong
  | .em => .em
  | .link attrs => .link attrs.sorted
  | .other kind attrs => .other kind attrs.sorted

mutual

/-- The node with all attributes in order. -/
def Node.sorted : Node → Node
  | .element kind attrs content => .element kind attrs.sorted (sortedAll content)
  | .text s marks => .text s (marks.map Mark.sorted)

/-- Nodes with all attributes in order. -/
def Node.sortedAll : List Node → List Node
  | [] => []
  | n :: ns => n.sorted :: sortedAll ns

end

theorem Node.sortedAll_eq_map (ns : List Node) : sortedAll ns = ns.map sorted := by
  induction ns with
  | nil => rfl
  | cons n ns ih => rw [sortedAll, ih, List.map_cons]

/-- Two marks are the same, with their attributes compared as maps. -/
inductive Mark.Same : Mark → Mark → Prop where
  | strong : Same .strong .strong
  | em : Same .em .em
  | link {attrs attrs' : Attrs} (h : attrs.Same attrs') : Same (.link attrs) (.link attrs')
  | other (kind : String) {attrs attrs' : Attrs} (h : attrs.Same attrs') :
      Same (.other kind attrs) (.other kind attrs')

/-- Two nodes are the same, with all attributes in them compared as maps. -/
inductive Node.Same : Node → Node → Prop where
  | element (kind : String) {attrs attrs' : Attrs} {content content' : List Node}
      (hattrs : attrs.Same attrs') (hcontent : List.Forall₂ Same content content') :
      Same (.element kind attrs content) (.element kind attrs' content')
  | text (s : String) {marks marks' : List Mark} (h : List.Forall₂ Mark.Same marks marks') :
      Same (.text s marks) (.text s marks')

theorem Mark.Proper.ofKind_sorted {m : Mark} (h : m.Proper) :
    ofKind m.kind m.attrs.sorted = m.sorted := by
  cases h with
  | strong => rfl
  | em => rfl
  | link _ => rfl
  | other hstrong hem hlink _ => exact ofKind_other hstrong hem hlink _

theorem Mark.Proper.ofJson?_canonical {m : Mark} (h : m.Proper) :
    ofJson? m.toJson.canonical = some m.sorted := by
  rw [ofJson?_canonical_eq, ofFound?, found, found, readOr_foundAttrs_canonical]
  show some (ofKind m.kind m.attrs.sorted) = _
  rw [h.ofKind_sorted]

/-- The canonical form of what was written reads back with its attributes in order. -/
theorem Node.Proper.ofJson?_canonical {n : Node} (h : n.Proper) :
    ofJson? n.toJson.canonical = some n.sorted := by
  induction h with
  | @element kind attrs content hkind _ _ ih =>
    rw [ofJson?_canonical_eq, sorted, sortedAll_eq_map]
    refine ofFound?_element hkind rfl (readOr_foundAttrs_canonical attrs) ?_ rfl rfl
    rw [found, readOr_foundItems_canonical, toJsons_eq_map, List.map_map]
    exact mapM_map_of_forall ih
  | @text s marks h =>
    rw [ofJson?_canonical_eq, sorted]
    refine ofFound?_text rfl rfl rfl rfl ?_
    rw [found, readOr_foundItems_canonical, List.map_map]
    exact mapM_map_of_forall fun m hm => (h m hm).ofJson?_canonical

theorem forall₂_map_left {α : Type} {R : α → α → Prop} {f : α → α} {xs : List α}
    (h : ∀ x ∈ xs, R (f x) x) : List.Forall₂ R (xs.map f) xs := by
  induction xs with
  | nil => exact .nil
  | cons x xs ih =>
    obtain ⟨hx, hxs⟩ := List.forall_mem_cons.1 h
    exact .cons hx (ih hxs)

theorem Mark.Proper.same_sorted {m : Mark} (h : m.Proper) : m.sorted.Same m := by
  cases h with
  | strong => exact .strong
  | em => exact .em
  | link h => exact .link (Dict.same_sorted h)
  | other _ _ _ h => exact .other _ (Dict.same_sorted h)

theorem Node.Proper.same_sorted {n : Node} (h : n.Proper) : n.sorted.Same n := by
  induction h with
  | @element kind attrs content _ hattrs _ ih =>
    rw [sorted, sortedAll_eq_map]
    exact .element kind (Dict.same_sorted hattrs) (forall₂_map_left ih)
  | @text s marks h =>
    rw [sorted]
    exact .text s (forall₂_map_left fun m hm => (h m hm).same_sorted)

/-! ## 5. The canonical form of a sorted node -/

/-- Canonical fields hang on the canonical forms of the values alone. -/
theorem Json.canonicalFields_congr {fields fields' : List (String × Json)}
    (h : fields.map (fun f => (f.1, f.2.canonical)) =
      fields'.map fun f => (f.1, f.2.canonical)) (sorted : List (String × Json)) :
    canonicalFields sorted fields = canonicalFields sorted fields' := by
  induction fields generalizing fields' sorted with
  | nil =>
    cases fields' with
    | nil => rfl
    | cons f' fields' => cases h
  | cons f fields ih =>
    cases fields' with
    | nil => cases h
    | cons f' fields' =>
      obtain ⟨hhead, htail⟩ := List.cons.inj h
      obtain ⟨hkey, hvalue⟩ := Prod.mk.inj hhead
      obtain ⟨k, v⟩ := f
      obtain ⟨k', v'⟩ := f'
      rw [canonicalFields, canonicalFields, ih htail]
      rw [show k = k' from hkey, show v.canonical = v'.canonical from hvalue]

theorem canonical_attrsField_sorted (attrs : Attrs) :
    (attrsField attrs.sorted).map (fun f => (f.1, f.2.canonical)) =
      (attrsField attrs).map fun f => (f.1, f.2.canonical) := by
  rw [attrsField, attrsField, attrs.isEmpty_sorted]
  split
  · rfl
  · rw [List.map_singleton, List.map_singleton, attrs.canonical_object_sorted]

theorem Node.canonical_listField {name : String} {items items' : List Json}
    (h : items.map Json.canonical = items'.map Json.canonical) :
    (listField name items).map (fun f => (f.1, f.2.canonical)) =
      (listField name items').map fun f => (f.1, f.2.canonical) := by
  have hempty : items.isEmpty = items'.isEmpty := by
    rw [← List.isEmpty_map (f := Json.canonical), h, List.isEmpty_map]
  rw [listField, listField, hempty]
  split
  · rfl
  · rw [List.map_singleton, List.map_singleton, Json.canonical, Json.canonical,
      Json.canonicalItems_eq_map, Json.canonicalItems_eq_map, h]

theorem Mark.canonical_toJson_sorted (m : Mark) :
    m.sorted.toJson.canonical = m.toJson.canonical := by
  have hkind : m.sorted.kind = m.kind := by cases m <;> rfl
  have hattrs : m.sorted.attrs = m.attrs.sorted := by cases m <;> rfl
  rw [toJson, toJson, hkind, hattrs, Json.canonical, Json.canonical]
  refine congrArg Json.object (Json.canonicalFields_congr ?_ [])
  rw [List.map_cons, List.map_cons, canonical_attrsField_sorted]

mutual

theorem Node.canonical_toJson_sorted : ∀ n : Node, n.sorted.toJson.canonical = n.toJson.canonical
  | .element kind attrs content => by
    have hcontent : (toJsons (sortedAll content)).map Json.canonical =
        (toJsons content).map Json.canonical := canonical_toJsons_sortedAll content
    rw [sorted, toJson, toJson, Json.canonical, Json.canonical]
    refine congrArg Json.object (Json.canonicalFields_congr ?_ [])
    rw [List.map_append, List.map_append, List.map_cons, List.map_cons,
      canonical_attrsField_sorted, canonical_listField hcontent]
  | .text s marks => by
    have hmarks : ((marks.map Mark.sorted).map Mark.toJson).map Json.canonical =
        (marks.map Mark.toJson).map Json.canonical := by
      rw [List.map_map, List.map_map, List.map_map]
      exact List.map_congr_left fun m _ => m.canonical_toJson_sorted
    rw [sorted, toJson, toJson, Json.canonical, Json.canonical]
    refine congrArg Json.object (Json.canonicalFields_congr ?_ [])
    rw [List.map_append, List.map_append, canonical_listField hmarks]

theorem Node.canonical_toJsons_sortedAll : ∀ ns : List Node,
    (toJsons (sortedAll ns)).map Json.canonical = (toJsons ns).map Json.canonical
  | [] => rfl
  | n :: ns => by
    rw [sortedAll, toJsons, toJsons, List.map_cons, List.map_cons,
      Node.canonical_toJson_sorted n, Node.canonical_toJsons_sortedAll ns]

end

/-! ## 6. The round trip -/

/-- Written and read, the node comes back as it is. Written in canonical form and read, it comes
    back the same up to the order of attributes, and it gives the same canonical form again. -/
structure Node.RoundTrips (n : Node) : Prop where
  exact : ofJson? n.toJson = some n
  canonical : ∃ m, ofJson? n.toJson.canonical = some m ∧ m.Same n ∧
    m.toJson.canonical = n.toJson.canonical

/-- **Every proper node makes the round trip.** -/
theorem Node.Proper.roundTrips {n : Node} (h : n.Proper) : n.RoundTrips where
  exact := h.ofJson?_toJson
  canonical := ⟨n.sorted, h.ofJson?_canonical, h.same_sorted, n.canonical_toJson_sorted⟩

end Galley
