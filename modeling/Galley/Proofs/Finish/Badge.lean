import Galley.Finish.Assembly
import Galley.Proofs.Markup.Hoisting
import Galley.Proofs.Text.Percent
import Galley.Proofs.Text.Plain

/-!
# The address of the badge

The badge of a DOI links to a dialog, and the address of the dialog has the DOI in its query as an
encoded component. Where the configured address of the dialog has no query of its own, the component
stands between the first `?doi=` and the next ampersand, and decoding it gives the DOI back. Main
statement: `doiComponent?_crossmarkHref`.
-/

namespace Galley

open Galley.Text

/-- What stands in an address between its first `?doi=` and the next ampersand. -/
def doiComponent? (href : String) : Option (List Char) :=
  (cut? "?doi=".toList href.toList).bind fun p => (cut? ['&'] p.2).map Prod.fst

/-- What stands behind the DOI in the address of the dialog. -/
def behindDoi (config : CrossmarkConfig) : List Char :=
  "domain=".toList ++ config.domain.toList ++ "&uri_scheme=https%3A&cm_version=v2.0".toList

theorem toList_crossmarkHref (config : CrossmarkConfig) (doi : String) :
    (crossmarkHref config doi).toList = config.dialogUrl.toList ++
      ("?doi=".toList ++ ((percentEncode doi).toList ++ '&' :: behindDoi config)) := by
  have hdomain : "&domain=".toList = '&' :: "domain=".toList := by decide
  unfold crossmarkHref behindDoi
  simp only [String.toList_append, List.append_assoc, hdomain, List.cons_append]

/-- A word is found behind a text that has not even its first character. -/
theorem firstAt_of_not_mem {w : Char} {ws front : List Char} (h : w ∉ front) (rest : List Char) :
    FirstAt (w :: ws) (front ++ (w :: ws ++ rest)) front rest where
  split := rfl
  first front' rest' he := by
    obtain ⟨between, hfront, -⟩ := exists_append_of_not_mem h he
    rw [hfront, List.length_append]
    exact Nat.le_add_right _ _

theorem doiComponent?_eq {config : CrossmarkConfig} (h : '?' ∉ config.dialogUrl.toList)
    (doi : String) :
    doiComponent? (crossmarkHref config doi) = some (percentEncode doi).toList := by
  have hfirst : FirstAt ('?' :: "doi=".toList) _ config.dialogUrl.toList _ :=
    firstAt_of_not_mem h ((percentEncode doi).toList ++ '&' :: behindDoi config)
  have hword : "?doi=".toList = '?' :: "doi=".toList := by decide
  have hnext : cut? ['&'] ((percentEncode doi).toList ++ '&' :: behindDoi config) =
      some ((percentEncode doi).toList, behindDoi config) :=
    cut?_char_eq_some_iff.2 ⟨rfl, ampersand_not_mem_percentEncode doi⟩
  rw [doiComponent?, toList_crossmarkHref, hword, cut?_eq_some_iff.2 hfirst, Option.bind_some,
    hnext]
  rfl

/-- **The DOI survives the link of the badge.** Where the address of the dialog has no question
    mark, what stands between the first `?doi=` of the link and the next ampersand is a component,
    and decodes to the DOI; so links for different DOIs are different, also those of different
    journals. -/
theorem doiComponent?_crossmarkHref (config : CrossmarkConfig)
    (h : '?' ∉ config.dialogUrl.toList) (doi : String) :
    (∃ component, doiComponent? (crossmarkHref config doi) = some component ∧
        isComponent component = true ∧
        decode? (percentBytes component).toByteArray = some doi) ∧
      ∀ (config' : CrossmarkConfig) (doi' : String), '?' ∉ config'.dialogUrl.toList →
        doi' ≠ doi → crossmarkHref config' doi' ≠ crossmarkHref config doi := by
  refine ⟨⟨_, doiComponent?_eq h doi, isComponent_percentEncode doi, decode?_percentEncode doi⟩, ?_⟩
  intro config' doi' h' hne heq
  have hcomponents : (percentEncode doi').toList = (percentEncode doi).toList := by
    refine Option.some.inj ?_
    rw [← doiComponent?_eq h', heq, doiComponent?_eq h]
  have hdecoded := decode?_percentEncode doi'
  rw [hcomponents, decode?_percentEncode] at hdecoded
  exact hne (Option.some.inj hdecoded).symm

/-- A DOI with a character of two bytes, a percent sign that looks like an escape, and text that
    looks like the query. -/
def crowdedDoi : String := "10.1/é%2F&?doi=(x)"

/-- The component that stands for it. -/
def crowdedComponent : List Char := "10.1%2F%C3%A9%252F%26%3Fdoi%3D(x)".toList

theorem doiComponent?_crowdedDoi :
    '?' ∉ ({} : CrossmarkConfig).dialogUrl.toList ∧
      doiComponent? (crossmarkHref {} crowdedDoi) = some crowdedComponent ∧
      isComponent crowdedComponent = true ∧
      decode? (percentBytes crowdedComponent).toByteArray = some crowdedDoi ∧
      crossmarkHref {} "10.1/é//&?doi=(x)" ≠ crossmarkHref {} crowdedDoi := by
  have hquery : '?' ∉ ({} : CrossmarkConfig).dialogUrl.toList := by decide +kernel
  obtain ⟨⟨component, hcomponent, hisComponent, hdecoded⟩, hapart⟩ :=
    doiComponent?_crossmarkHref {} hquery crowdedDoi
  have hwritten : doiComponent? (crossmarkHref {} crowdedDoi) = some crowdedComponent := by
    decide +kernel
  have heq : component = crowdedComponent := Option.some.inj (hcomponent.symm.trans hwritten)
  rw [heq] at hisComponent hdecoded
  exact ⟨hquery, hwritten, hisComponent, hdecoded, hapart {} _ hquery (by decide)⟩

end Galley
