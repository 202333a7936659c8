import Galley.Config.Basic
import Galley.Record

/-!
# Reading a configuration

A configuration is a record in any structured notation. Every field may be left out, but for the
environment and the title of a hoisted section; fields with other names are passed over.
-/

namespace Galley

variable {δ : Type} [Structured δ]

/-- A natural number below `limit`. -/
def countBelow? (limit : Nat) (v : δ) : Option Nat :=
  (Structured.count? v).bind fun n => if n < limit then some n else none

/-- The headings that a value spells. -/
def HeadingsConfig.read? (v : δ) : Option HeadingsConfig := do
  let base : HeadingsConfig := {}
  let r ← Record.read? ["abstract-title", "abstract-id", "references-title", "keywords-label"] v
  some {
    abstractTitle := ← r.withDefault? "abstract-title" Structured.text? base.abstractTitle
    abstractId := ← r.withDefault? "abstract-id" Structured.text? base.abstractId
    referencesTitle := ← r.withDefault? "references-title" Structured.text? base.referencesTitle
    keywordsLabel := ← r.withDefault? "keywords-label" Structured.text? base.keywordsLabel }

/-- The table settings that a value spells. -/
def TablesConfig.read? (v : δ) : Option TablesConfig := do
  let base : TablesConfig := {}
  let r ← Record.read?
    ["wide-threshold", "narrow-size", "wide-size", "align", "smaller-font", "label"] v
  some {
    wideThreshold := ← r.withDefault? "wide-threshold" (countBelow? (Nat.pow 2 64)) base.wideThreshold
    narrowSize := ← r.withDefault? "narrow-size" Structured.text? base.narrowSize
    wideSize := ← r.withDefault? "wide-size" Structured.text? base.wideSize
    align := ← r.withDefault? "align" Structured.text? base.align
    smallerFont := ← r.withDefault? "smaller-font" Structured.flag? base.smallerFont
    label := ← r.withDefault? "label" Structured.text? base.label }

/-- The badge settings that a value spells. -/
def CrossmarkConfig.read? (v : δ) : Option CrossmarkConfig := do
  let base : CrossmarkConfig := {}
  let r ← Record.read? ["logo-url", "dialog-url", "domain", "size", "align"] v
  some {
    logoUrl := ← r.withDefault? "logo-url" Structured.text? base.logoUrl
    dialogUrl := ← r.withDefault? "dialog-url" Structured.text? base.dialogUrl
    domain := ← r.withDefault? "domain" Structured.text? base.domain
    size := ← r.withDefault? "size" (countBelow? (Nat.pow 2 32)) base.size
    align := ← r.withDefault? "align" Structured.text? base.align }

/-- The hoisted section that a value spells. -/
def HoistedSection.read? (v : δ) : Option HoistedSection := do
  let r ← Record.read? ["environment", "title", "introduction"] v
  some {
    environment := ← r.required? "environment" Structured.text?
    title := ← r.required? "title" Structured.text?
    introduction := ← r.withDefault? "introduction" (Record.maybe? Structured.text?) none }

/-- The markup settings that a value spells. -/
def PrecleanConfig.read? (v : δ) : Option PrecleanConfig := do
  let base : PrecleanConfig := {}
  let r ← Record.read? ["unwrap-environments", "hoisted-sections", "unstar-environments"] v
  some {
    unwrapEnvironments :=
      ← r.withDefault? "unwrap-environments" (readAll? Structured.text?) base.unwrapEnvironments
    hoistedSections :=
      ← r.withDefault? "hoisted-sections" (readAll? HoistedSection.read?) base.hoistedSections
    unstarEnvironments :=
      ← r.withDefault? "unstar-environments" (readAll? Structured.text?) base.unstarEnvironments }

/-- The configuration that a value spells. -/
def Config.read? (v : δ) : Option Config := do
  let base : Config := {}
  let r ← Record.read? ["style", "locale", "headings", "tables", "crossmark", "preclean"] v
  some {
    style := ← r.withDefault? "style" Structured.text? base.style
    locale := ← r.withDefault? "locale" Structured.text? base.locale
    headings := ← r.withDefault? "headings" HeadingsConfig.read? base.headings
    tables := ← r.withDefault? "tables" TablesConfig.read? base.tables
    crossmark := ← r.withDefault? "crossmark" CrossmarkConfig.read? base.crossmark
    preclean := ← r.withDefault? "preclean" PrecleanConfig.read? base.preclean }

end Galley
