import Galley.Proofs.Html.Import
import Galley.Proofs.Tree.Reading

/-!
# Imported nodes

What is made of HTML is proper: paragraphs, text with the marks of emphasis and links, and nothing
else. Main statements: `proper_importNode`, `proper_importFragment`.
-/

namespace Galley

namespace Html

theorem proper_runOf (cs : List Char) : ∀ n ∈ runOf cs, n.Proper := fun n hn => by
  rw [runOf] at hn
  split at hn
  · cases hn
  · rw [List.mem_singleton.1 hn]
    exact Node.proper_plain _

theorem proper_textNodes (s : String) : ∀ n ∈ textNodes s, n.Proper := fun n hn => by
  rw [textNodes] at hn
  split at hn
  · exact proper_runOf _ n hn
  · rcases List.mem_append.1 hn with hn | hn
    · exact proper_runOf _ n hn
    · rcases List.mem_cons.1 hn with rfl | hn
      · exact Node.proper_marked _ (Mark.proper_href _)
      · exact proper_runOf _ n hn

/-- What an element becomes is proper. -/
def Imported.Proper : Imported → Prop
  | .node n => n.Proper
  | .mark m => m.Proper

theorem proper_importAnchor? {href : Option String} {i : Imported}
    (h : importAnchor? href = some i) : i.Proper := by
  cases href with
  | none => cases h
  | some href =>
    rw [importAnchor?] at h
    split at h
    · rw [← Option.some.inj h]
      exact Mark.proper_external href
    · cases h

theorem proper_markedText {text : String} {m : Mark} (hm : m.Proper) {i : Imported}
    (h : (if text.isEmpty then none else some (Imported.node (.text text [m]))) = some i) :
    i.Proper := by
  split at h
  · cases h
  · rw [← Option.some.inj h]
    exact Node.proper_marked text hm

theorem proper_importElement? {name : String} {attrs : List (String × String)}
    {children : List Dom} (hchildren : ∀ n ∈ inlineNodes children, n.Proper) {i : Imported}
    (h : importElement? (.element name attrs children) = some i) : i.Proper := by
  rw [importElement?] at h
  split at h
  · rw [← Option.some.inj h]
    exact Node.proper_paragraph hchildren
  · exact proper_markedText .em h
  · exact proper_markedText .em h
  · exact proper_markedText .strong h
  · exact proper_markedText .strong h
  · split at h
    · cases h
    · exact proper_importAnchor? h
  · cases h

mutual

theorem proper_inlineNode : ∀ d : Dom, ∀ n ∈ inlineNode d, n.Proper
  | .text s => by
    rw [inlineNode]
    exact proper_textNodes s
  | .comment => by
    rw [inlineNode]
    exact fun n hn => by cases hn
  | .element name attrs children => by
    intro n hn
    rw [inlineNode] at hn
    split at hn
    · next m hm =>
      rw [List.mem_singleton.1 hn]
      exact proper_importElement? (proper_inlineNodes children) hm
    · next m hm =>
      rw [List.mem_singleton.1 hn]
      exact Node.proper_marked _ (proper_importElement? (proper_inlineNodes children) hm)
    · cases hn

theorem proper_inlineNodes : ∀ ds : List Dom, ∀ n ∈ inlineNodes ds, n.Proper
  | [] => by
    rw [inlineNodes]
    exact fun n hn => by cases hn
  | d :: ds => by
    intro n hn
    rw [inlineNodes] at hn
    rcases List.mem_append.1 hn with hn | hn
    · exact proper_inlineNode d n hn
    · exact proper_inlineNodes ds n hn

end

theorem proper_importElement?_node {d : Dom} {n : Node}
    (h : importElement? d = some (.node n)) : n.Proper := by
  cases d with
  | element name attrs children =>
    exact proper_importElement? (i := .node n) (proper_inlineNodes children) h
  | text s => rw [importElement?_text] at h; cases h
  | comment => rw [importElement?_comment] at h; cases h

theorem proper_importNode {html : String} {n : Node} (h : importNode html = .ok n) :
    n.Proper := by
  rw [importNode] at h
  obtain ⟨found, -, h⟩ := exists_of_bind_eq_ok h
  split at h
  · split at h
    · next m hm =>
      rw [← Except.ok.inj h]
      exact proper_importElement?_node hm
    · cases h
  · cases h

theorem proper_paragraphOf {pending : List Node} (h : ∀ n ∈ pending, n.Proper) :
    ∀ n ∈ paragraphOf pending, n.Proper := fun n hn => by
  rw [paragraphOf] at hn
  split at hn
  · rw [List.mem_singleton.1 hn]
    exact Node.proper_paragraph h
  · cases hn

mutual

theorem proper_blocks : ∀ (ds : List Dom) (pending : List Node), (∀ n ∈ pending, n.Proper) →
    ∀ n ∈ blocks pending ds, n.Proper
  | [], pending, h => by
    rw [blocks]
    exact proper_paragraphOf h
  | d :: ds, pending, h => by
    intro n hn
    rw [blocks] at hn
    split at hn
    · next nodes hnodes =>
      rcases List.mem_append.1 hn with hn | hn
      · rcases List.mem_append.1 hn with hn | hn
        · exact proper_paragraphOf h n hn
        · exact proper_blockNodes? d nodes hnodes n hn
      · exact proper_blocks ds [] (fun n hn => by cases hn) n hn
    · refine proper_blocks ds (pending ++ inlineNode d) (fun n hn => ?_) n hn
      rcases List.mem_append.1 hn with hn | hn
      · exact h n hn
      · exact proper_inlineNode d n hn

theorem proper_blockNodes? : ∀ (d : Dom) (nodes : List Node), blockNodes? d = some nodes →
    ∀ n ∈ nodes, n.Proper
  | .text s, nodes, h => by
    rw [blockNodes?] at h
    · cases h
    · simp
  | .comment, nodes, h => by
    rw [blockNodes?] at h
    · cases h
    · simp
  | .element name attrs children, nodes, h => by
    intro n hn
    rw [blockNodes?] at h
    split at h
    · split at h
      · next m hm =>
        rw [← Option.some.inj h] at hn
        rw [List.mem_singleton.1 hn]
        exact proper_importElement?_node hm
      · rw [← Option.some.inj h] at hn
        cases hn
    · split at h
      · rw [← Option.some.inj h] at hn
        exact proper_blocks children [] (fun n hn => by cases hn) n hn
      · cases h

end

theorem proper_importFragment {html : String} {nodes : Fragment}
    (h : importFragment html = .ok nodes) : ∀ n ∈ nodes, n.Proper := by
  obtain ⟨found, -, h⟩ := exists_of_bind_eq_ok h
  rw [← Except.ok.inj h]
  exact proper_blocks _ [] fun n hn => by cases hn

end Html

end Galley
