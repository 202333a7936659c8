import Galley.Finish.Store
import Galley.Label.Inline

/-!
# Labels in a document

Every citation of a tree that has a key gets its label. The citations of the tree are matched with
the citations of the markup by their order: the first with a key takes the first occurrence, and
so on. Citations inside citations are left alone.
-/

namespace Galley

/-- A run over the citations of a tree, with the number of those that have been labelled. -/
abbrev Relabelling := StateT Nat Logged

namespace Relabelling

/-- Writes a warning. -/
def warn (w : Warning) : Relabelling Unit := StateT.lift (Logged.warn w)

/-- The occurrence for the next citation, which has the given key. -/
def nextOccurrence (occurrences : List Occurrence) (key : String) : Relabelling Occurrence := do
  let index ← get
  set (index + 1)
  match occurrences[index]? with
  | some o => do
    unless o.key = key do warn (.misaligned key o.key)
    pure o
  | none => do
    warn (.unmatched key)
    pure (Occurrence.simple key)

end Relabelling

/-- A citation with its label. -/
def relabelCitation (store : CitationStore) (occurrences : List Occurrence) (n : Node) :
    Relabelling Node := do
  match Bibtex.entryKey? n.rawEntry with
  | none => do
    Relabelling.warn (.failure (.missingKey n.rawEntry))
    pure n
  | some key => do
    let o ← Relabelling.nextOccurrence occurrences key
    let label := (store.label? key).getD ("(" ++ key ++ ")")
    pure (n.withAttr "customLabel" (.string (Label.inline o label)))

mutual

/-- A node with the labels of its citations. -/
def relabelNode (store : CitationStore) (occurrences : List Occurrence) : Node → Relabelling Node
  | .text s marks => pure (.text s marks)
  | .element kind attrs content =>
    if kind = "citation" then relabelCitation store occurrences (.element kind attrs content)
    else do
      let labelled ← relabelNodes store occurrences content
      pure (Node.withContent (.element kind attrs content) labelled)

/-- Nodes with the labels of their citations. -/
def relabelNodes (store : CitationStore) (occurrences : List Occurrence) :
    List Node → Relabelling (List Node)
  | [] => pure []
  | n :: ns => do
    let n ← relabelNode store occurrences n
    let ns ← relabelNodes store occurrences ns
    pure (n :: ns)

end

end Galley
