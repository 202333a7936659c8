import Galley.Bibtex.Reference
import Galley.Label.Assignment
import Galley.Tree.Fragment

/-!
# The citations of a document

A citation of a tree carries a raw entry. The store holds one work for every key, in the order in
which the keys first come, and the references behind them. Labels are asked for in the same order,
each with the keys before it and the keys from it on.
-/

namespace Galley

/-- A work that is cited in a document. -/
structure CitedWork where
  key : String
  /-- The entry of the first citation with this key. -/
  raw : String
  /-- The label that the formatter gives. -/
  rendered : String
  /-- The label that is shown. -/
  label : String
  deriving DecidableEq, Repr, Inhabited

/-- The works that are cited, in order, and the references behind them. -/
structure CitationStore where
  works : Dict CitedWork
  database : Bibliography
  deriving Inhabited

/-- The raw entry of a citation; empty when there is none. -/
def Node.rawEntry (n : Node) : String :=
  (n.attrText? "value").getD ""

/-- A citation. -/
def Node.isCitation (n : Node) : Bool :=
  n.isElement "citation"

/-- What finds the reference with a key in a raw entry. -/
abbrev EntryReader := (raw key : String) → Except Failure (Option Reference)

namespace CitationStore

/-- The store without works. -/
def empty : CitationStore := ⟨Dict.empty, Dict.empty⟩

/-! ## 1. Collecting -/

/-- The reference of a key: from its raw entry, or else from the fallback. -/
def findReference (read : EntryReader) (fallback : Option Bibliography) (raw key : String) :
    Logged (Option Reference) := do
  let found ← match read raw key with
    | .ok found => pure found
    | .error cause => do
      Logged.warn (.failure cause)
      pure none
  pure (found.or (fallback.bind (·.get? key)))

/-- The store with a work that has not been there. -/
def addWork (read : EntryReader) (fallback : Option Bibliography) (store : CitationStore)
    (raw key : String) : Logged CitationStore := do
  let works := store.works.insert key ⟨key, raw, "", ""⟩
  match ← findReference read fallback raw key with
  | some r => pure ⟨works, store.database.insert key r⟩
  | none => do
    Logged.warn (.failure (.unknownReference key))
    pure ⟨works, store.database⟩

/-- The store after one more citation with the given raw entry. -/
def observe (read : EntryReader) (fallback : Option Bibliography) (store : CitationStore)
    (raw : String) : Logged CitationStore :=
  match Bibtex.entryKey? raw with
  | none => do
    Logged.warn (.failure (.missingKey raw))
    pure store
  | some key =>
    if store.works.contains key then pure store else addWork read fallback store raw key

/-- The raw entries of all citations of a fragment, in the order of the text. -/
def rawEntries (doc : Fragment) : List String :=
  (Fragment.allNodes doc |>.filter Node.isCitation).map Node.rawEntry

/-- The citations of a fragment, where `read` finds references in raw entries. -/
def collectWith (read : EntryReader) (doc : Fragment) (fallback : Option Bibliography) :
    Logged CitationStore :=
  (rawEntries doc).foldlM (observe read fallback) empty

/-- The citations of a fragment. -/
def collect (doc : Fragment) (fallback : Option Bibliography) : Logged CitationStore :=
  collectWith Bibtex.referenceIn doc fallback

/-! ## 2. Labels -/

/-- Works with their labels, where the keys `before` were labelled before them. -/
def labelWorks (f : Formatter) (style : String) (b : Bibliography) (before : List String) :
    List CitedWork → Label.Labelling (List CitedWork)
  | [] => pure []
  | w :: ws => do
    let request : CitationRequest :=
      ⟨w.key, style, .text, before, w.key :: ws.map CitedWork.key⟩
    let labelled ← Label.assignLabel f b request
    let rest ← labelWorks f style b (before ++ [w.key]) ws
    pure ({ w with rendered := labelled.rendered, label := labelled.label } :: rest)

/-- The store with the labels of all works. -/
def resolve (f : Formatter) (style : String) (store : CitationStore) : Logged CitationStore := do
  let (works, _) ← labelWorks f style store.database [] store.works.values []
  pure { store with works := Dict.ofList (works.map fun w => (w.key, w)) }

/-- The label of a key. -/
def label? (store : CitationStore) (key : String) : Option String :=
  (store.works.get? key).map CitedWork.label

end CitationStore

end Galley
