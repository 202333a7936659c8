import Galley.Proofs.Finish.Passes
import Galley.Proofs.Tree.RoundTrip
import Galley.Style.AuthorDate

/-!
# Documents as values and back

A fragment of nodes that were read can be written as a document and read back, and so can the
document of every run on such a fragment. Main statement: `trees_round_trip`.
-/

namespace Galley

namespace Fragment

/-- Every node was read from a value. -/
def IsRead (nodes : Fragment) : Prop := ∀ n ∈ nodes, ∃ v, Node.ofJson? v = some n

/-- Written as a document and read, the nodes come back as they are. Written in canonical form and
    read, they come back the same up to the order of attributes, and they give the same canonical
    form again. -/
structure RoundTrips (nodes : Fragment) : Prop where
  exact : (Node.ofJson? (toDoc nodes).toJson).map ofDoc = some nodes
  canonical : ∃ nodes', (Node.ofJson? (toDoc nodes).toJson.canonical).map ofDoc = some nodes' ∧
    List.Forall₂ Node.Same nodes' nodes ∧
    (toDoc nodes').toJson.canonical = (toDoc nodes).toJson.canonical

variable {nodes : Fragment}

theorem IsRead.proper (h : nodes.IsRead) : ∀ n ∈ nodes, n.Proper := fun n hn => by
  obtain ⟨v, hv⟩ := h n hn
  exact Node.proper_of_ofJson? hv

theorem isRead_of_proper (h : ∀ n ∈ nodes, n.Proper) : nodes.IsRead := fun n hn =>
  ⟨n.toJson, (h n hn).ofJson?_toJson⟩

theorem proper_ofDoc {n : Node} (h : n.Proper) : ∀ m ∈ ofDoc n, m.Proper := by
  unfold ofDoc
  split
  · cases h with
    | element _ _ hcontent => exact hcontent
  · exact fun m hm => by rw [List.mem_singleton.1 hm]; exact h

/-- The nodes of a fragment that was read can be read one by one. -/
theorem isRead_of_ofJson? {v : Json} (h : ofJson? v = some nodes) : nodes.IsRead := by
  refine isRead_of_proper ?_
  unfold ofJson? at h
  split at h
  · exact fun n hn => by
      obtain ⟨item, -, hitem⟩ := mem_of_mapM_eq_some h hn
      exact Node.proper_of_ofJson? hitem
  · obtain ⟨n, hn, rfl⟩ := Option.map_eq_some_iff.1 h
    exact proper_ofDoc (Node.proper_of_ofJson? hn)

theorem proper_toDoc (h : ∀ n ∈ nodes, n.Proper) : (toDoc nodes).Proper :=
  .element (by decide) Dict.canonical_empty h

theorem roundTrips_of_proper (h : ∀ n ∈ nodes, n.Proper) : nodes.RoundTrips where
  exact := by rw [(proper_toDoc h).ofJson?_toJson, Option.map_some, ofDoc_toDoc]
  canonical := by
    have hsorted : (toDoc nodes).sorted = toDoc (Node.sortedAll nodes) := rfl
    refine ⟨Node.sortedAll nodes, ?_, ?_, ?_⟩
    · rw [(proper_toDoc h).ofJson?_canonical, hsorted, Option.map_some, ofDoc_toDoc]
    · rw [Node.sortedAll_eq_map]
      exact forall₂_map_left fun n hn => (h n hn).same_sorted
    · rw [← hsorted, (toDoc nodes).canonical_toJson_sorted]

end Fragment

/-- **Trees make the round trip through values.** Every node that was read can be written and read
    back; so can every fragment of such nodes, as a document, and the document of every run on
    such a fragment. -/
theorem trees_round_trip :
    (∀ v n, Node.ofJson? v = some n → n.RoundTrips) ∧
      (∀ v nodes, Fragment.ofJson? v = some nodes → nodes.IsRead) ∧
      (∀ nodes : Fragment, nodes.IsRead → nodes.RoundTrips) ∧
      ∀ (config : Config) (f : Formatter) (m : Manuscript) (doc : Fragment)
        (out : Logged Finished), doc.IsRead → m.finish config f doc = .ok out →
          out.value.doc.RoundTrips := by
  refine ⟨fun v n h => (Node.proper_of_ofJson? h).roundTrips,
    fun v nodes h => Fragment.isRead_of_ofJson? h,
    fun nodes h => Fragment.roundTrips_of_proper h.proper, ?_⟩
  intro config f m doc out hdoc hout
  obtain ⟨nodes, hnodes, hout⟩ := exists_of_bind_eq_ok hout
  rw [← Except.ok.inj hout]
  exact (Fragment.proper_toDoc (Manuscript.proper_nodes hdoc.proper hnodes)).roundTrips

/-- A document with a kind and a mark that mean nothing here, attributes that are out of order, a
    field that is not read and a mark with attributes that it cannot keep. -/
def strangeDocument : Json :=
  .object [("type", .string "doc"), ("version", .number (.int 2)), ("content", .array [
    .object [("content", .array [
        .object [("text", .string "x"), ("marks", .array [
            .object [("type", .string "strong"), ("attrs", .object [("weight", .null)])],
            .object [("type", .string "sub")]]),
          ("type", .string "text")]]),
      ("attrs", .object [("z", .bool true), ("a", .object [("d", .null), ("c", .null)])]),
      ("type", .string "aside")],
    .object [("type", .string "citation")]])]

/-- What the strange document spells. -/
def strangeFragment : Fragment :=
  [.element "aside" (Dict.ofList [("z", .bool true), ("a", .object [("c", .null), ("d", .null)])])
      [.text "x" [.strong, .other "sub" Dict.empty]],
    .citation Dict.empty]

/-- A manuscript with a bibliography without references. -/
def unreferenced : Manuscript := { (default : Manuscript) with bibliography := some Dict.empty }

/-- Without references there is no failure, and nothing behind the text. -/
theorem exists_finish_unreferenced (doc : Fragment) :
    ∃ out, unreferenced.finish {} AuthorDate.formatter doc = .ok out := by
  have hlines : entryLines (AuthorDate.referenceList Dict.empty).html = [] := by decide +kernel
  have hentries : bibliographyNodes (AuthorDate.referenceList Dict.empty).html = .ok [] := by
    rw [bibliographyNodes, hlines]
    rfl
  have hreferences : Manuscript.references {} AuthorDate.formatter Dict.empty = .ok [] := by
    show (bibliographyNodes (AuthorDate.referenceList Dict.empty).html >>= fun entries =>
      Except.ok (referencesSection {} entries)) = _
    rw [hentries]
    rfl
  have hbibliography (b : Bibliography) : unreferenced.bibliography.getD b = Dict.empty := rfl
  rw [Manuscript.finish, Manuscript.nodes, hbibliography, hreferences]
  exact ⟨_, rfl⟩

/-- The strange document, its fragment and a run on it. -/
theorem strangeFragment_round_trips :
    Fragment.ofJson? strangeDocument = some strangeFragment ∧ strangeFragment.IsRead ∧
      strangeFragment.RoundTrips ∧ (Fragment.toDoc strangeFragment).RoundTrips ∧
      ∃ out, unreferenced.finish {} AuthorDate.formatter strangeFragment = .ok out ∧
        out.value.doc.RoundTrips := by
  have hread : Fragment.ofJson? strangeDocument = some strangeFragment := rfl
  have hisRead : strangeFragment.IsRead := trees_round_trip.2.1 _ _ hread
  obtain ⟨out, hout⟩ := exists_finish_unreferenced strangeFragment
  exact ⟨hread, hisRead, trees_round_trip.2.2.1 _ hisRead,
    trees_round_trip.1 strangeDocument _ rfl, out, hout,
    trees_round_trip.2.2.2 _ _ _ _ out hisRead hout⟩

end Galley
