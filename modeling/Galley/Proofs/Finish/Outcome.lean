import Galley.Finish.Manuscript
import Galley.Proofs.Html.Import
import Galley.Style.AuthorDate

/-!
# What a run can fail of

With a bibliography at hand, a run looks for its failure in three places, one after the other: the
formatter may give no reference list, the list may not be importable, and the abstract may not be
importable. The document, its markup, the keywords and the DOI are in none of them: what is odd
about those is only warned about. Main statement: `outcome_of_same_supplies`.
-/

namespace Galley

/-! ## 1. Outcomes -/

/-- Why a step failed, if it did. -/
def failure? {α : Type} : Except Failure α → Option Failure
  | .ok _ => none
  | .error cause => some cause

/-- Two steps both succeed, or both fail of the same cause. -/
def SameOutcome {α β : Type} (x : Except Failure α) (y : Except Failure β) : Prop :=
  (∃ a b, x = .ok a ∧ y = .ok b) ∨ ∃ cause, x = .error cause ∧ y = .error cause

section Steps

variable {α β : Type}

theorem failure?_eq_some_iff {x : Except Failure α} {cause : Failure} :
    failure? x = some cause ↔ x = .error cause := by
  cases x <;> simp [failure?]

theorem sameOutcome_of_failure? {x : Except Failure α} {y : Except Failure β}
    (h : failure? x = failure? y) : SameOutcome x y := by
  cases hx : x with
  | ok a =>
    cases hy : y with
    | ok b => exact Or.inl ⟨a, b, rfl, rfl⟩
    | error cause =>
      rw [hx, hy] at h
      cases h
  | error cause =>
    rw [hx] at h
    exact Or.inr ⟨cause, rfl, failure?_eq_some_iff.1 h.symm⟩

theorem failure?_bind_ok (a : α) (next : α → Except Failure β) :
    failure? (.ok a >>= next) = failure? (next a) := rfl

/-- Where the failure of a second step does not hang on what the first one gives, two steps fail
    of the first failure. -/
theorem failure?_bind {x : Except Failure α} {next : α → Except Failure β}
    (second : Option Failure) (h : ∀ a, failure? (next a) = second) :
    failure? (x >>= next) = (failure? x).or second := by
  cases x with
  | ok a => exact h a
  | error cause => rfl

/-- A run over a list fails of what one of its steps fails of. -/
theorem exists_failure?_of_mapM {f : α → Except Failure β} {xs : List α} {cause : Failure}
    (h : failure? (xs.mapM f) = some cause) : ∃ x ∈ xs, failure? (f x) = some cause := by
  induction xs with
  | nil => cases h
  | cons x xs ih =>
    rw [List.mapM_cons] at h
    cases hx : f x with
    | error c =>
      rw [hx] at h
      exact ⟨x, List.mem_cons_self, by rw [hx]; exact h⟩
    | ok b =>
      rw [hx, failure?_bind_ok, failure?_bind none fun _ => rfl, Option.or_none] at h
      obtain ⟨y, hy, hf⟩ := ih h
      exact ⟨y, List.mem_cons_of_mem x hy, hf⟩

end Steps

/-! ## 2. Failures of an import -/

namespace Html

/-- An import fails of the text that it was given, and of nothing else. -/
theorem cause_of_importNode {html : String} {cause : Failure}
    (h : failure? (importNode html) = some cause) : cause = .invalidFragment html := by
  rw [importNode, body] at h
  cases hb : (parse html).find? "body" with
  | none =>
    rw [hb] at h
    exact (Option.some.inj h).symm
  | some body =>
    simp only [hb, failure?_bind_ok] at h
    split at h
    · split at h
      · cases h
      · exact (Option.some.inj h).symm
    · exact (Option.some.inj h).symm

theorem cause_of_importFragment {html : String} {cause : Failure}
    (h : failure? (importFragment html) = some cause) : cause = .invalidFragment html := by
  rw [importFragment, failure?_bind none fun _ => rfl, Option.or_none, body] at h
  cases hb : (parse html).find? "body" with
  | none =>
    rw [hb] at h
    exact (Option.some.inj h).symm
  | some body =>
    rw [hb] at h
    cases h

end Html

theorem cause_of_bibliographyNodes {html : String} {cause : Failure}
    (h : failure? (bibliographyNodes html) = some cause) :
    ∃ line, cause = .invalidFragment line := by
  obtain ⟨line, -, hline⟩ := exists_failure?_of_mapM h
  exact ⟨line, Html.cause_of_importNode hline⟩

namespace Manuscript

/-! ## 3. The places where a run can fail -/

/-- Why the reference list of a bibliography fails: the formatter gives none, or an entry of it
    cannot be imported. -/
def referencesFailure? (config : Config) (f : Formatter) (b : Bibliography) : Option Failure :=
  match f.bibliography b config.style .html with
  | .error cause => some cause
  | .ok html => failure? (bibliographyNodes html)

/-- Why an abstract fails; a missing or blank one does not. -/
def abstractFailure? (abstract : Option String) : Option Failure :=
  (nonBlank abstract).bind fun html => failure? (Html.importFragment html)

theorem failure?_references (config : Config) (f : Formatter) (b : Bibliography) :
    failure? (references config f b) = referencesFailure? config f b := by
  rw [references, referencesFailure?]
  cases f.bibliography b config.style .html with
  | error cause => rfl
  | ok html =>
    rw [failure?_bind_ok, failure?_bind none fun _ => rfl, Option.or_none]

theorem failure?_frontMatter (config : Config) (m : Manuscript) :
    failure? (m.frontMatter.nodes config.headings config.crossmark) =
      abstractFailure? m.abstract := by
  rw [abstractFailure?]
  cases h : nonBlank m.abstract with
  | none => simp only [FrontMatter.nodes, frontMatter, h]; rfl
  | some html =>
    simp only [FrontMatter.nodes, frontMatter, h, abstractNodes]
    rw [failure?_bind none fun _ => rfl, Option.or_none,
      failure?_bind none fun _ => rfl, Option.or_none]
    rfl

/-- **A run fails of its reference list, or else of its abstract**, whatever its document is. -/
theorem failure?_nodes (config : Config) (f : Formatter) {m : Manuscript} {b : Bibliography}
    (h : m.bibliography = some b) (doc : Fragment) :
    failure? (m.nodes config f doc) =
      (referencesFailure? config f b).or (abstractFailure? m.abstract) := by
  have hfront := failure?_frontMatter config m
  rw [nodes, h, Option.getD_some, failure?_bind (abstractFailure? m.abstract),
    failure?_references]
  intro list
  rw [failure?_bind none fun _ => rfl, Option.or_none, hfront]

theorem failure?_finish (config : Config) (f : Formatter) (m : Manuscript) (doc : Fragment) :
    failure? (m.finish config f doc) = failure? (m.nodes config f doc) := by
  rw [finish, failure?_bind none fun _ => rfl, Option.or_none]

/-- A run fails of what the formatter says about the whole list, or of an import. -/
theorem cause_of_nodes {config : Config} {f : Formatter} {m : Manuscript} {b : Bibliography}
    (h : m.bibliography = some b) {doc : Fragment} {cause : Failure}
    (hnodes : m.nodes config f doc = .error cause) :
    f.bibliography b config.style .html = .error cause ∨
      ∃ html, cause = .invalidFragment html := by
  have hfail := failure?_eq_some_iff.2 hnodes
  rw [failure?_nodes config f h, Option.or_eq_some_iff] at hfail
  rcases hfail with hlist | ⟨-, habstract⟩
  · rw [referencesFailure?] at hlist
    cases hf : f.bibliography b config.style .html with
    | error c =>
      rw [hf] at hlist
      exact Or.inl (congrArg Except.error (Option.some.inj hlist))
    | ok html =>
      rw [hf] at hlist
      exact Or.inr (cause_of_bibliographyNodes hlist)
  · obtain ⟨html, -, himport⟩ := Option.bind_eq_some_iff.1 habstract
    exact Or.inr ⟨html, Html.cause_of_importFragment himport⟩

/-! ## 4. Two runs -/

/-- **What is odd in a document never decides whether a run succeeds**: two runs with the same
    configuration, formatter, bibliography and abstract both succeed or both fail of the same
    cause, whatever their trees, their markup, their keywords and their DOIs are. Such a cause is
    what the formatter says about the whole reference list, or it is that of an import. -/
theorem outcome_of_same_supplies (config : Config) (f : Formatter) (b : Bibliography)
    (m m' : Manuscript) (hm : m.bibliography = some b) (hm' : m'.bibliography = some b)
    (habstract : m.abstract = m'.abstract) (doc doc' : Fragment) :
    SameOutcome (m.nodes config f doc) (m'.nodes config f doc') ∧
      SameOutcome (m.finish config f doc) (m'.finish config f doc') ∧
      ∀ cause, m.nodes config f doc = .error cause →
        f.bibliography b config.style .html = .error cause ∨
          ∃ html, cause = .invalidFragment html := by
  have hnodes : failure? (m.nodes config f doc) = failure? (m'.nodes config f doc') := by
    rw [failure?_nodes config f hm, failure?_nodes config f hm', habstract]
  refine ⟨sameOutcome_of_failure? hnodes, sameOutcome_of_failure? ?_, ?_⟩
  · rw [failure?_finish, failure?_finish, hnodes]
  · exact fun cause hcause => cause_of_nodes hm hcause

/-- A bibliography whose only title stands on two lines. -/
def twoLinedTitle : Bibliography :=
  Dict.ofList [("k", { (default : Reference) with
    authors := [⟨"Kay", "Ann"⟩], year := some "1999", title := some "A\nB" })]

/-- A manuscript with nothing but references and an abstract. -/
def bareManuscript (b : Bibliography) : Manuscript :=
  { tex := "", bibliography := some b, abstract := some "<p>We did it.</p>",
    keywords := none, doi := none, funding := none }

/-- A document with a citation without an entry, one of an unknown work, and a table without a
    caption. -/
def oddDocument : Fragment :=
  [.paragraph [.citation Dict.empty,
      .citation (Dict.ofList [("value", .string "@misc\x7bx,")])],
    .table Dict.empty []]

/-- The second line of the title begins an entry of its own, and one that is no paragraph. -/
theorem bibliographyNodes_twoLinedTitle :
    bibliographyNodes (AuthorDate.referenceList twoLinedTitle).html =
      .error (.invalidFragment "B</i>.</p>") := by
  have hlines : entryLines (AuthorDate.referenceList twoLinedTitle).html =
      ["<p class=\"csl-entry\">Kay, A. (1999). <i>A", "B</i>.</p>"] := by decide +kernel
  have hroot : (Html.root? "<p class=\"csl-entry\">Kay, A. (1999). <i>A").map Html.Dom.name? =
      some (some "p") := by decide +kernel
  obtain ⟨n, hfirst⟩ := Html.exists_importNode_of_name hroot
  have hsecond : Html.importNode "B</i>.</p>" = .error (.invalidFragment "B</i>.</p>") :=
    Html.importNode_of_nameless (by decide +kernel)
  rw [bibliographyNodes, hlines, List.mapM_cons, List.mapM_cons, hfirst, hsecond]
  rfl

/-- The odd document fails of the title as the empty one does. -/
theorem outcome_of_odd_document :
    let odd : Manuscript := { bareManuscript twoLinedTitle with
      tex := "\\footnote\x7b \\parencite\x7by\x7d", keywords := some "odd", doi := some "10.1/x" }
    odd.nodes {} AuthorDate.formatter oddDocument =
      .error (.invalidFragment "B</i>.</p>") := by
  intro odd
  have hlist : referencesFailure? {} AuthorDate.formatter twoLinedTitle =
      some (.invalidFragment "B</i>.</p>") :=
    congrArg failure? bibliographyNodes_twoLinedTitle
  have hbare : failure? ((bareManuscript twoLinedTitle).nodes {} AuthorDate.formatter []) =
      some (.invalidFragment "B</i>.</p>") := by
    rw [failure?_nodes {} AuthorDate.formatter rfl, hlist]
    rfl
  obtain ⟨hsame, -⟩ := outcome_of_same_supplies {} AuthorDate.formatter twoLinedTitle
    (bareManuscript twoLinedTitle) odd rfl rfl rfl [] oddDocument
  rcases hsame with ⟨out, -, hok, -⟩ | ⟨cause, hcause, hodd⟩
  · rw [hok] at hbare
    cases hbare
  · rw [hcause] at hbare
    rw [hodd, Option.some.inj hbare]

end Manuscript

end Galley
