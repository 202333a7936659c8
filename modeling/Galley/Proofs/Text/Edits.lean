import Galley.Text.Scan

/-!
# Edits of a text

An edit names a span of bytes and the text that is put in its place. `Edited` says what comes of a
text when edits are made to it: their spans are in range, begin and end between characters and
follow one another without overlap, and all that stands outside them is kept. Main statement:
`Edited.unique`, edits leave no choice of what comes of a text.
-/

namespace Galley.Text

/-- A span of bytes, and the text that takes its place. -/
structure Edit where
  start : Nat
  stop : Nat
  text : List Char
  deriving DecidableEq, Repr

/-- What the edits make of a text that begins at the byte `offset`. -/
inductive Edited : (offset : Nat) → List Char → List Edit → List Char → Prop
  /-- Without edits a text stays as it is. -/
  | kept (offset : Nat) (cs : List Char) : Edited offset cs [] cs
  /-- The first edit keeps what stands before its span, and puts `new` in the place of `old`. -/
  | edit (gap old new : List Char) {offset : Nat} {rest out : List Char} {es : List Edit}
      (h : Edited (offset + byteLength gap + byteLength old) rest es out) :
      Edited offset (gap ++ old ++ rest)
        (⟨offset + byteLength gap, offset + byteLength gap + byteLength old, new⟩ :: es)
        (gap ++ new ++ out)

namespace Edited

variable {offset : Nat} {cs ds out : List Char} {es fs : List Edit}

/-- **Edits leave no choice.** -/
theorem unique {out' : List Char} (h : Edited offset cs es out) (h' : Edited offset cs es out') :
    out = out' := by
  induction h generalizing out' with
  | kept offset cs => cases h'; rfl
  | @edit gap old new offset rest out es h ih =>
    generalize hcs : gap ++ old ++ rest = cs at h'
    generalize hes : Edit.mk _ _ new :: es = es' at h'
    cases h' with
    | kept => cases hes
    | @edit gap' old' new' _ rest' out' es' h' =>
      simp only [List.cons.injEq, Edit.mk.injEq] at hes
      obtain ⟨⟨hstart, hstop, rfl⟩, rfl⟩ := hes
      have hg : byteLength gap = byteLength gap' := by omega
      have ho : byteLength old = byteLength old' := by omega
      rw [List.append_assoc, List.append_assoc] at hcs
      obtain ⟨hgap, hrest⟩ := append_inj_of_byteLength hcs hg
      obtain ⟨-, rfl⟩ := append_inj_of_byteLength hrest ho
      rw [← hg, ← ho] at h'
      rw [hgap, ih h']

/-- What comes of a text is told by its edits. -/
theorem iff_eq (h : Edited offset cs es out) (out' : List Char) :
    Edited offset cs es out' ↔ out' = out :=
  ⟨fun h' => unique h' h, fun he => he ▸ h⟩

/-- What stands before all edits is kept. -/
theorem append_left (front : List Char) (h : Edited (offset + byteLength front) cs es out) :
    Edited offset (front ++ cs) es (front ++ out) := by
  cases h with
  | kept => exact kept offset _
  | edit gap old new h =>
    have hfront := @edit (front ++ gap) old new offset _ _ _
      (by rwa [byteLength_append, ← Nat.add_assoc])
    rw [byteLength_append, ← Nat.add_assoc] at hfront
    simpa only [List.append_assoc] using hfront

/-- Edits of two texts, one behind the other. -/
theorem append {out' : List Char} (h : Edited offset cs es out)
    (h' : Edited (offset + byteLength cs) ds fs out') :
    Edited offset (cs ++ ds) (es ++ fs) (out ++ out') := by
  induction h with
  | kept offset cs => exact append_left cs h'
  | edit gap old new h ih =>
    rw [byteLength_append, byteLength_append, ← Nat.add_assoc, ← Nat.add_assoc] at h'
    have hedit := edit gap old new (ih h')
    simpa only [List.append_assoc, List.cons_append] using hedit

end Edited

end Galley.Text
