/-!
# Configuration

Everything that a journal may set, with its house style as the default.
-/

namespace Galley

/-- The fixed headings and labels that are put into a document. -/
structure HeadingsConfig where
  abstractTitle : String := "Abstract"
  /-- The identifier of the generated abstract heading. -/
  abstractId : String := "abstract"
  referencesTitle : String := "References"
  keywordsLabel : String := "Keywords: "
  deriving DecidableEq, Repr, Inhabited

/-- Captions and styling of tables. -/
structure TablesConfig where
  /-- A table with more columns than this is wide. -/
  wideThreshold : Nat := 5
  narrowSize : String := "50"
  wideSize : String := "75"
  align : String := "breakout"
  smallerFont : Bool := true
  /-- The word in front of a table's number. -/
  label : String := "Table"
  deriving DecidableEq, Repr, Inhabited

/-- The Crossmark badge of a document with a DOI. -/
structure CrossmarkConfig where
  logoUrl : String :=
    "https://crossmark-cdn.crossref.org/widget/v2.0/logos/CROSSMARK_Color_horizontal.svg"
  dialogUrl : String := "https://crossmark.crossref.org/dialog"
  /-- The journal's domain, as the dialog is told. -/
  domain : String := "journal.trialanderror.org"
  size : Nat := 22
  align : String := "left"
  deriving DecidableEq, Repr, Inhabited

/-- An environment that becomes a section at the top of the body. -/
structure HoistedSection where
  environment : String
  title : String
  /-- The title of a section for the rest of the body, when there is to be one. -/
  introduction : Option String
  deriving DecidableEq, Repr, Inhabited

/-- What is done to the environments of raw markup. -/
structure PrecleanConfig where
  /-- Environments whose begin and end commands are erased. -/
  unwrapEnvironments : List String := ["fullwidth"]
  /-- Environments that become sections, in order. -/
  hoistedSections : List HoistedSection :=
    [⟨"originalPurpose", "Original Purpose", some "Introduction"⟩,
      ⟨"takeHomeMessage", "Take Home Message", none⟩]
  /-- Environments whose starred form becomes the plain one. -/
  unstarEnvironments : List String := ["figure", "table"]
  deriving DecidableEq, Repr, Inhabited

/-- The configuration of a run. -/
structure Config where
  /-- The citation style, as the formatter is told. -/
  style : String := "apa-7"
  locale : String := "en-US"
  headings : HeadingsConfig := {}
  tables : TablesConfig := {}
  crossmark : CrossmarkConfig := {}
  preclean : PrecleanConfig := {}
  deriving DecidableEq, Repr, Inhabited

end Galley
