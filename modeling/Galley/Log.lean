import Galley.Style.Formatter

/-!
# The log of a run

A step gives a value and, beside it, what it asked the formatter for and what it complained about,
in order. Steps are chained with `do`; their logs follow one another.
-/

namespace Galley

/-- A complaint that does not stop a run. -/
inductive Warning where
  | failure (cause : Failure)
  /-- A citation of the tree stands where the markup cites another key. -/
  | misaligned (inTree inMarkup : String)
  /-- The markup has no citation left for a citation of the tree. -/
  | unmatched (key : String)
  /-- The tree and the markup do not have the same number of citations. -/
  | countsDiffer (inTree inMarkup : Nat)
  /-- No database was given and the markup holds none. -/
  | noBibliography
  deriving DecidableEq, Repr

/-- The wording of a warning. -/
def Warning.message : Warning → String
  | .failure cause => cause.message
  | .misaligned inTree inMarkup =>
    "citation " ++ inTree ++ " in the tree lines up with " ++ inMarkup ++ " in the markup"
  | .unmatched key => "no markup citation left for " ++ key
  | .countsDiffer inTree inMarkup =>
    "tree has " ++ toString inTree ++ " citation(s) but the markup has " ++ toString inMarkup
  | .noBibliography => "no bibliography given and none embedded in the markup"

/-- One line of the log. -/
inductive Event where
  | request (r : CitationRequest)
  | warning (w : Warning)
  deriving DecidableEq, Repr

/-- A value and the log of its making. -/
structure Logged (α : Type) where
  value : α
  events : List Event

namespace Logged

/-- A value that was made in silence. -/
def silent {α : Type} (a : α) : Logged α := ⟨a, []⟩

/-- A step and the step that follows it. -/
def andThen {α β : Type} (a : Logged α) (f : α → Logged β) : Logged β :=
  let b := f a.value
  ⟨b.value, a.events ++ b.events⟩

instance : Monad Logged where
  pure := silent
  bind := andThen

/-- Writes a warning. -/
def warn (w : Warning) : Logged Unit := ⟨(), [.warning w]⟩

/-- Writes a request. -/
def asked (r : CitationRequest) : Logged Unit := ⟨(), [.request r]⟩

@[simp] theorem value_pure {α : Type} (a : α) : (pure a : Logged α).value = a := rfl

@[simp] theorem value_bind {α β : Type} (a : Logged α) (f : α → Logged β) :
    (a >>= f).value = (f a.value).value := rfl

@[simp] theorem events_bind {α β : Type} (a : Logged α) (f : α → Logged β) :
    (a >>= f).events = a.events ++ (f a.value).events := rfl

instance : LawfulMonad Logged := LawfulMonad.mk' Logged
  (fun a => congrArg (Logged.mk a.value) (List.append_nil a.events))
  (fun _ _ => rfl)
  (fun a f g => congrArg (Logged.mk _)
    (List.append_assoc a.events (f a.value).events (g (f a.value).value).events))

/-- A run over a list makes the value that the steps make, one from the other. -/
theorem value_foldlM {α β : Type} (step : β → α → Logged β) (b : β) (xs : List α) :
    (xs.foldlM step b).value = xs.foldl (fun b x => (step b x).value) b := by
  induction xs generalizing b with
  | nil => rfl
  | cons x xs ih => exact ih (step b x).value

section State

variable {σ α β : Type}

@[simp] theorem value_state_pure (a : α) (s : σ) :
    ((pure a : StateT σ Logged α) s).value = (a, s) := rfl

@[simp] theorem value_state_bind (run : StateT σ Logged α) (next : α → StateT σ Logged β) (s : σ) :
    ((run >>= next) s).value = (next (run s).value.1 (run s).value.2).value := rfl

end State

/-- The requests in a log. -/
def requests {α : Type} (a : Logged α) : List CitationRequest :=
  a.events.filterMap fun
    | .request r => some r
    | .warning _ => none

/-- The warnings in a log. -/
def warnings {α : Type} (a : Logged α) : List Warning :=
  a.events.filterMap fun
    | .warning w => some w
    | .request _ => none

section Requests

variable {σ α β : Type}

@[simp] theorem requests_bind (a : Logged α) (f : α → Logged β) :
    (a >>= f).requests = a.requests ++ (f a.value).requests := by
  rw [requests, events_bind, List.filterMap_append]
  rfl

@[simp] theorem requests_state_pure (a : α) (s : σ) :
    ((pure a : StateT σ Logged α) s).requests = [] := rfl

@[simp] theorem requests_state_bind (run : StateT σ Logged α) (next : α → StateT σ Logged β)
    (s : σ) : ((run >>= next) s).requests =
      (run s).requests ++ (next (run s).value.1 (run s).value.2).requests :=
  requests_bind (run s) fun p => next p.1 p.2

end Requests

end Logged

/-- The label that a formatter gives; the key in parentheses, and a warning, when it gives none. -/
def renderLabel (f : Formatter) (b : Bibliography) (r : CitationRequest) : Logged String := do
  Logged.asked r
  match f.citation b r with
  | .ok label => pure label
  | .error cause => do
    Logged.warn (.failure cause)
    pure ("(" ++ r.key ++ ")")

/-- A label costs one request, whatever the formatter answers. -/
theorem requests_renderLabel (f : Formatter) (b : Bibliography) (r : CitationRequest) :
    (renderLabel f b r).requests = [r] := by
  rw [renderLabel, Logged.requests_bind]
  cases f.citation b r <;> rfl

end Galley
