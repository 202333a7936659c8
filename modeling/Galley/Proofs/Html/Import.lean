import Galley.Html.Import
import Galley.Proofs.Steps

/-!
# The root of a fragment

Importing a fragment as one node looks at the first thing that can be seen in its body, its root,
and at nothing else. A root that is a paragraph becomes one; a root that is running text is refused.
-/

namespace Galley.Html

/-! ## 1. Elements -/

theorem importElement?_text (s : String) : importElement? (.text s) = none := by
  rw [importElement?]
  simp

theorem importElement?_comment : importElement? .comment = none := by
  rw [importElement?]
  simp

theorem importElement?_of_isParagraph {name : String} (h : name.toLower = "p")
    (attrs : List (String × String)) (children : List Dom) :
    importElement? (.element name attrs children) =
      some (.node (.paragraph (inlineNodes children))) := by
  rw [importElement?]
  simp only [h]

theorem importElement?_emphasis (attrs : List (String × String)) (children : List Dom) :
    importElement? (.element "i" attrs children) =
      if (Dom.textOf children).isEmpty then none
      else some (.node (.text (Dom.textOf children) [.em])) := by
  have hname : "i".toLower = "i" := by decide +kernel
  rw [importElement?]
  simp only [hname]

theorem importElement?_anchor (attrs : List (String × String)) (children : List Dom) :
    importElement? (.element "a" attrs children) =
      if (Dom.textOf children).isEmpty then none else importAnchor? (attrs.lookup "href") := by
  have hname : "a".toLower = "a" := by decide +kernel
  rw [importElement?]
  simp only [hname]

/-! ## 2. The root -/

/-- The first thing to be seen in the body of the document that a text spells. -/
def root? (html : String) : Option Dom :=
  ((parse html).find? "body").bind fun body => body.children.find? fun d => !isBlankRun d

section Root

variable {html : String} {root : Dom}

/-- An import hangs on the root alone. -/
theorem importNode_of_root? {outcome : Option Imported} (h : root? html = some root)
    (houtcome : importElement? root = outcome) :
    (∀ n, outcome = some (.node n) → importNode html = .ok n) ∧
      (outcome = none → importNode html = .error (.invalidFragment html)) := by
  obtain ⟨found, hbody, hroot⟩ := Option.bind_eq_some_iff.1 h
  have hok : body html = .ok found := by rw [body, hbody]
  simp only [importNode, hok, bind, Except.bind, hroot]
  exact ⟨fun n hn => by rw [houtcome, hn], fun hnone => by rw [houtcome, hnone]⟩

/-- A fragment whose root is a paragraph becomes one. -/
theorem importNode_of_paragraph {attrs : List (String × String)} {children : List Dom}
    (h : root? html = some (.element "p" attrs children)) :
    importNode html = .ok (.paragraph (inlineNodes children)) :=
  (importNode_of_root? h
    (importElement?_of_isParagraph (by decide +kernel) attrs children)).1 _ rfl

/-- A fragment whose root has the name of paragraphs becomes one. -/
theorem exists_importNode_of_name (h : (root? html).map Dom.name? = some (some "p")) :
    ∃ n, importNode html = .ok n := by
  obtain ⟨root, hroot, hname⟩ := Option.map_eq_some_iff.1 h
  cases root with
  | element name attrs children =>
    rw [Option.some.inj hname] at hroot
    exact ⟨_, importNode_of_paragraph hroot⟩
  | text s => cases hname
  | comment => cases hname

/-- A fragment whose root is no element is refused. -/
theorem importNode_of_nameless (h : (root? html).map Dom.name? = some none) :
    importNode html = .error (.invalidFragment html) := by
  obtain ⟨root, hroot, hname⟩ := Option.map_eq_some_iff.1 h
  cases root with
  | element name attrs children => cases hname
  | text s => exact (importNode_of_root? hroot (importElement?_text s)).2 rfl
  | comment => exact (importNode_of_root? hroot importElement?_comment).2 rfl

end Root

end Galley.Html
