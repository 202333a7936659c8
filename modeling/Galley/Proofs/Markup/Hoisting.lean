import Galley.Markup.Environment

/-!
# What hoisting moves

The place of a section is looked for with three texts that are each as short as they can be: the
one before the body, the one before the environment, and the one in it. When one of the three fails
the one before it is made longer. Nothing is found that way: where no end command follows a begin
command, none follows a later one. So the three commands are the first of their kinds, each behind
the one before. Main statement: `hoisting_moves`.
-/

namespace Galley.Text

/-! ## 1. Shortest texts -/

section Lazily

variable {α : Type} {next : List Char → Option α} {cs : List Char}

theorem lazily?_of_some {x : α} (h : next cs = some x) : lazily? next cs = some ([], x) := by
  cases cs with
  | nil => rw [lazily?, h]; rfl
  | cons c cs => rw [lazily?, h]

theorem lazily?_of_none {c : Char} (h : next (c :: cs) = none) :
    lazily? next (c :: cs) = (lazily? next cs).map fun p => (c :: p.1, p.2) := by
  rw [lazily?, h]

/-- Reading goes on from no place before the end of a text. -/
def NoneBefore (next : List Char → Option α) (cs a : List Char) : Prop :=
  ∀ a' rest', cs = a' ++ rest' → a'.length < a.length → next rest' = none

theorem noneBefore_cons {c : Char} {a : List Char} :
    NoneBefore next (c :: cs) (c :: a) ↔ next (c :: cs) = none ∧ NoneBefore next cs a := by
  constructor
  · intro h
    refine ⟨h [] (c :: cs) rfl (Nat.succ_pos _), fun a' rest' he hlt => ?_⟩
    exact h (c :: a') rest' (congrArg (c :: ·) he) (Nat.succ_lt_succ hlt)
  · rintro ⟨hhere, h⟩ a' rest' he hlt
    cases a' with
    | nil =>
      rw [List.nil_append] at he
      rw [← he, hhere]
    | cons d a' => exact h a' rest' (List.cons.inj he).2 (Nat.lt_of_succ_lt_succ hlt)

theorem exists_of_lazily? {a : List Char} {x : α} (h : lazily? next cs = some (a, x)) :
    ∃ rest, cs = a ++ rest ∧ next rest = some x ∧ NoneBefore next cs a := by
  induction cs generalizing a with
  | nil =>
    obtain ⟨y, hy, he⟩ := Option.map_eq_some_iff.1 h
    cases he
    exact ⟨[], rfl, hy, fun _ _ _ hlt => absurd hlt (Nat.not_lt_zero _)⟩
  | cons c cs ih =>
    cases hhere : next (c :: cs) with
    | some y =>
      rw [lazily?_of_some hhere] at h
      cases h
      exact ⟨c :: cs, rfl, hhere, fun _ _ _ hlt => absurd hlt (Nat.not_lt_zero _)⟩
    | none =>
      rw [lazily?_of_none hhere] at h
      obtain ⟨p, hp, he⟩ := Option.map_eq_some_iff.1 h
      cases he
      obtain ⟨rest, hcs, hnext, hbefore⟩ := ih hp
      exact ⟨rest, congrArg (c :: ·) hcs, hnext, noneBefore_cons.2 ⟨hhere, hbefore⟩⟩

theorem lazily?_append {a rest : List Char} {x : α} (hnext : next rest = some x)
    (hbefore : NoneBefore next (a ++ rest) a) : lazily? next (a ++ rest) = some (a, x) := by
  induction a with
  | nil => exact lazily?_of_some hnext
  | cons c a ih =>
    rw [List.cons_append, noneBefore_cons] at hbefore
    rw [List.cons_append, lazily?_of_none hbefore.1, ih hbefore.2, Option.map_some]

/-- **The shortest text is the one before the first place from which reading goes on.** -/
theorem lazily?_eq_some_iff {a : List Char} {x : α} :
    lazily? next cs = some (a, x) ↔
      ∃ rest, cs = a ++ rest ∧ next rest = some x ∧ NoneBefore next cs a := by
  constructor
  · exact exists_of_lazily?
  · rintro ⟨rest, rfl, hnext, hbefore⟩
    exact lazily?_append hnext hbefore

theorem lazily?_eq_none_iff :
    lazily? next cs = none ↔ ∀ rest, rest <:+ cs → next rest = none := by
  induction cs with
  | nil =>
    rw [lazily?, Option.map_eq_none_iff]
    exact ⟨fun h rest hrest => List.suffix_nil.1 hrest ▸ h, fun h => h [] List.suffix_rfl⟩
  | cons c cs ih =>
    cases hhere : next (c :: cs) with
    | some y =>
      rw [lazily?_of_some hhere]
      refine ⟨fun h => absurd h (by simp), fun h => ?_⟩
      rw [h (c :: cs) List.suffix_rfl] at hhere
      cases hhere
    | none =>
      rw [lazily?_of_none hhere, Option.map_eq_none_iff, ih]
      constructor
      · intro h rest hrest
        rcases List.suffix_cons_iff.1 hrest with rfl | hrest
        · exact hhere
        · exact h rest hrest
      · exact fun h rest hrest => h rest (hrest.trans (List.suffix_cons c cs))

/-- Where nothing is found in a text, nothing is found further behind. -/
theorem lazily?_eq_none_of_suffix {ds : List Char} (hs : ds <:+ cs) (h : lazily? next cs = none) :
    lazily? next ds = none :=
  lazily?_eq_none_iff.2 fun rest hrest => lazily?_eq_none_iff.1 h rest (hrest.trans hs)

end Lazily

theorem cut?_eq_lazily? (word cs : List Char) : cut? word cs = lazily? (after? word) cs := by
  induction cs with
  | nil => rfl
  | cons c cs ih =>
    rw [cut?, lazily?, ih]
    cases after? word (c :: cs) <;> rfl

/-! ## 2. First occurrences -/

/-- A word stands in a text between `a` and `b`, and nowhere before. -/
structure FirstAt (word cs a b : List Char) : Prop where
  split : cs = a ++ (word ++ b)
  first : ∀ a' b', cs = a' ++ (word ++ b') → a.length ≤ a'.length

/-- **No search is tried twice**: a shortest text in front of a word is the one in front of the
    first word, when what is to be read behind it, where it fails, fails further behind, too. -/
theorem lazily?_word_iff {α : Type} {word : List Char} {read : List Char → Option α}
    (hread : ∀ cs ds, ds <:+ cs → read cs = none → read ds = none) {cs a : List Char} {x : α} :
    lazily? (fun cs => (after? word cs).bind read) cs = some (a, x) ↔
      ∃ rest, FirstAt word cs a rest ∧ read rest = some x := by
  rw [lazily?_eq_some_iff]
  constructor
  · rintro ⟨behind, rfl, hnext, hfirst⟩
    obtain ⟨rest, hafter, hx⟩ := Option.bind_eq_some_iff.1 hnext
    obtain rfl := after?_eq_some_iff.1 hafter
    refine ⟨rest, ⟨rfl, fun a' b' he => Nat.le_of_not_lt fun hlt => ?_⟩, hx⟩
    -- the word was tried at the earlier place, with a longer text behind it
    have hnone : (after? word (word ++ b')).bind read = none := hfirst a' _ he hlt
    rw [after?_append, Option.bind_some] at hnone
    have hlength := congrArg List.length he
    simp only [List.length_append] at hlength
    have hends : rest <:+ a ++ (word ++ rest) := ⟨a ++ word, List.append_assoc a word rest⟩
    have hends' : b' <:+ a ++ (word ++ rest) :=
      ⟨a' ++ word, (List.append_assoc a' word b').trans he.symm⟩
    have hsuffix : rest <:+ b' := List.suffix_of_suffix_length_le hends hends' (by omega)
    rw [hread b' rest hsuffix hnone] at hx
    cases hx
  · rintro ⟨rest, ⟨rfl, hfirst⟩, hx⟩
    refine ⟨word ++ rest, rfl, ?_, fun a' rest' he hlt => ?_⟩
    · rw [after?_append, Option.bind_some, hx]
    · show (after? word rest').bind read = none
      cases hafter : after? word rest' with
      | none => rfl
      | some b' =>
        obtain rfl := after?_eq_some_iff.1 hafter
        exact absurd (hfirst a' b' he) (Nat.not_le_of_lt hlt)

theorem cut?_eq_some_iff {word cs a b : List Char} :
    cut? word cs = some (a, b) ↔ FirstAt word cs a b := by
  have h := @lazily?_word_iff _ word some (fun _ _ _ h => absurd h (by simp)) cs a b
  simp only [Option.bind_fun_some, Option.some.injEq, exists_eq_right] at h
  rw [cut?_eq_lazily?]
  exact h

end Galley.Text

namespace Galley.Markup

open Galley.Text

/-! ## 3. The place of a section -/

namespace Hoistable

variable (h : Hoistable) (name : List Char)

/-- What stands behind the begin command of the environment. -/
def behind : List Char := h.content ++ (endCommand name ++ h.back)

/-- What stands behind the begin of the body. -/
def body : List Char := h.passed ++ (beginCommand name ++ h.behind name)

/-- The body begins at the first place where one does, the environment at the first place behind
    that, and it ends at the first place behind its begin command. -/
structure IsFirst (cs : List Char) : Prop where
  document : FirstAt documentBegin cs h.front (h.body name)
  environment : FirstAt (beginCommand name) (h.body name) h.passed (h.behind name)
  ending : FirstAt (endCommand name) (h.behind name) h.content h.back

end Hoistable

theorem lazily?_environmentAhead?_iff {name cs passed content back : List Char} :
    lazily? (environmentAhead? name) cs = some (passed, content, back) ↔
      ∃ rest, FirstAt (beginCommand name) cs passed rest ∧
        FirstAt (endCommand name) rest content back := by
  have hread : ∀ cs ds : List Char, ds <:+ cs →
      cut? (endCommand name) cs = none → cut? (endCommand name) ds = none := fun cs ds hs h => by
    rw [cut?_eq_lazily?] at h ⊢
    exact lazily?_eq_none_of_suffix hs h
  simp only [← cut?_eq_some_iff (b := back)]
  exact lazily?_word_iff hread

/-- **Looking for a section finds the first commands.** -/
theorem Hoistable.find?_eq_some_iff {name cs : List Char} {h : Hoistable} :
    Hoistable.find? name cs = some h ↔ h.IsFirst name cs := by
  have hread : ∀ cs ds : List Char, ds <:+ cs → lazily? (environmentAhead? name) cs = none →
      lazily? (environmentAhead? name) ds = none := fun _ _ => lazily?_eq_none_of_suffix
  have hbody : lazily? (bodyAhead? name) cs = some (h.front, h.passed, h.content, h.back) ↔
      ∃ body, FirstAt documentBegin cs h.front body ∧
        lazily? (environmentAhead? name) body = some (h.passed, h.content, h.back) :=
    lazily?_word_iff hread
  have hfind : Hoistable.find? name cs = some h ↔
      lazily? (bodyAhead? name) cs = some (h.front, h.passed, h.content, h.back) := by
    rw [find?, Option.map_eq_some_iff]
    constructor
    · rintro ⟨⟨front, passed, content, back⟩, hp, rfl⟩
      exact hp
    · exact fun hp => ⟨_, hp, rfl⟩
  rw [hfind, hbody]
  simp only [lazily?_environmentAhead?_iff]
  constructor
  · rintro ⟨body, hdocument, rest, henvironment, hending⟩
    obtain rfl : rest = h.behind name := hending.split
    obtain rfl : body = h.body name := henvironment.split
    exact ⟨hdocument, henvironment, hending⟩
  · exact fun hfirst => ⟨_, hfirst.document, _, hfirst.environment, hfirst.ending⟩

/-! ## 4. What is moved -/

/-- A configuration that only hoists. -/
def hoistOnly (sections : List HoistedSection) : PrecleanConfig := ⟨[], sections, []⟩

/-- The section command for the rest of the body, where there is to be one. -/
def introductionCommand (s : HoistedSection) : List Char :=
  match s.introduction with
  | some title => sectionCommand title
  | none => []

theorem blankLine_eq : "\n\n".toList = ['\n', '\n'] := rfl

theorem sectionCommand_eq (title : String) : sectionCommand title =
    "\\section\x7b".toList ++ title.toList ++ ['\x7d'] ++ ['\n', '\n'] :=
  (List.append_assoc ("\\section\x7b".toList ++ title.toList) ['\x7d'] ['\n', '\n']).symm

theorem restructure_hoistOnly (sections : List HoistedSection) (cs : List Char) :
    restructure (hoistOnly sections) cs = sections.foldl hoist cs :=
  unstar_nil _

theorem restructure_hoistOne (s : HoistedSection) (cs : List Char) :
    restructure (hoistOnly [s]) cs = hoist cs s :=
  restructure_hoistOnly [s] cs

theorem hoist_of_isFirst {s : HoistedSection} {cs : List Char} {h : Hoistable}
    (hfirst : h.IsFirst s.environment.toList cs) :
    hoist cs s = h.front ++ documentBegin ++ sectionCommand s.title ++ h.content ++ ['\n', '\n'] ++
      introductionCommand s ++ h.passed ++ h.back := by
  rw [hoist, Hoistable.find?_eq_some_iff.2 hfirst]
  show h.hoisted s = _
  rw [Hoistable.hoisted, blankLine_eq]
  rfl

theorem hoist_of_not_isFirst {s : HoistedSection} {cs : List Char}
    (hnone : ¬ ∃ h : Hoistable, h.IsFirst s.environment.toList cs) : hoist cs s = cs := by
  rw [hoist]
  cases hfind : Hoistable.find? s.environment.toList cs with
  | none => rfl
  | some h => exact absurd ⟨h, Hoistable.find?_eq_some_iff.1 hfind⟩ hnone

/-- **Hoisting moves an environment and loses no text.** Where the first body of a text has an
    environment of the section, the text comes out with the first one of them at the top of the
    body: the text up to the body, the section command, what the environment holds, a blank line,
    the section command for the rest if there is to be one, what stands before the environment in
    the body, and what stands behind it. Any other text comes out as it is. Of more sections, each
    is made from what the ones before it give. -/
theorem hoisting_moves (s : HoistedSection) (cs : List Char) :
    (∀ h : Hoistable, h.IsFirst s.environment.toList cs →
      restructure (hoistOnly [s]) cs =
        h.front ++ documentBegin ++
          ("\\section\x7b".toList ++ s.title.toList ++ ['\x7d'] ++ ['\n', '\n']) ++ h.content ++
          ['\n', '\n'] ++ introductionCommand s ++ h.passed ++ h.back) ∧
      ((¬ ∃ h : Hoistable, h.IsFirst s.environment.toList cs) →
        restructure (hoistOnly [s]) cs = cs) ∧
      ∀ sections, restructure (hoistOnly sections) cs =
        sections.foldl (fun cs s => restructure (hoistOnly [s]) cs) cs := by
  refine ⟨fun h hfirst => ?_, fun hnone => ?_, fun sections => ?_⟩
  · rw [restructure_hoistOne, hoist_of_isFirst hfirst, sectionCommand_eq]
  · rw [restructure_hoistOne, hoist_of_not_isFirst hnone]
  · simp only [restructure_hoistOne]
    exact restructure_hoistOnly sections cs

/-- A text that begins its body twice, with an environment around the first begin and one inside of
    another behind it. -/
def twiceBegun : List Char :=
  ("\\begin\x7bs.m\x7d\\begin\x7bdocument\x7d\nA\\end\x7bs.m\x7d\\begin\x7bdocument\x7d\n" ++
    "\\begin\x7bs.m\x7d1\\begin\x7bs.m\x7d2\\end\x7bs.m\x7d3\\end\x7bs.m\x7d").toList

/-- What the first commands of the text stand between. -/
def twiceBegunPlace : Hoistable where
  front := "\\begin\x7bs.m\x7d".toList
  passed := "A\\end\x7bs.m\x7d\\begin\x7bdocument\x7d\n".toList
  content := "1\\begin\x7bs.m\x7d2".toList
  back := "3\\end\x7bs.m\x7d".toList

/-- The environment is the one from the outer begin command to the inner end command. -/
theorem hoisting_moves_nested :
    twiceBegunPlace.IsFirst "s.m".toList twiceBegun ∧
      restructure (hoistOnly [⟨"s.m", "T", some "I"⟩]) twiceBegun =
        ("\\begin\x7bs.m\x7d\\begin\x7bdocument\x7d\n\\section\x7bT\x7d\n\n" ++
          "1\\begin\x7bs.m\x7d2\n\n" ++
          "\\section\x7bI\x7d\n\nA\\end\x7bs.m\x7d\\begin\x7bdocument\x7d\n" ++
          "3\\end\x7bs.m\x7d").toList := by
  have hfirst : twiceBegunPlace.IsFirst "s.m".toList twiceBegun :=
    Hoistable.find?_eq_some_iff.1 (by decide +kernel)
  refine ⟨hfirst, ?_⟩
  rw [(hoisting_moves ⟨"s.m", "T", some "I"⟩ twiceBegun).1 twiceBegunPlace hfirst]
  decide +kernel

end Galley.Markup
