import Galley.Markup.Environment
import Galley.Proofs.Text.Plain

/-!
# Stars behind names

Unstarring drops every star behind a configured name, wherever the name ends. So it changes the
commands of the starred environments and nothing else exactly when no configured name has a star
behind it in any other place. Main statements: `replaceAll_eq_withoutStars` and `unstarring_iff`.
-/

namespace Galley.Markup

open Galley.Text

/-! ## 1. Texts without some of their stars -/

/-- What stands before a star that is dropped, and what behind it. -/
structure StarPlace where
  before : List Char
  behind : List Char
  deriving DecidableEq, Repr

/-- A star is dropped between what stands before it and what stands behind it. -/
def Dropped (places : List StarPlace) (front rest : List Char) : Prop :=
  ∃ p ∈ places, p.before <:+ front ∧ p.behind <+: rest

instance (places : List StarPlace) (front rest : List Char) :
    Decidable (Dropped places front rest) :=
  inferInstanceAs (Decidable (∃ p ∈ places, _ ∧ _))

/-- What stands behind `front`, without the stars that are dropped. -/
def withoutStars (places : List StarPlace) : (front cs : List Char) → List Char
  | _, [] => []
  | front, c :: cs =>
    if c = '*' ∧ Dropped places front cs then withoutStars places (front ++ [c]) cs
    else c :: withoutStars places (front ++ [c]) cs

section Stars

variable {places : List StarPlace}

theorem withoutStars_star {front cs : List Char} (h : Dropped places front cs) :
    withoutStars places front ('*' :: cs) = withoutStars places (front ++ ['*']) cs := by
  rw [withoutStars, if_pos ⟨rfl, h⟩]

theorem withoutStars_kept {c : Char} {front cs : List Char}
    (h : c = '*' → ¬ Dropped places front cs) :
    withoutStars places front (c :: cs) = c :: withoutStars places (front ++ [c]) cs := by
  rw [withoutStars, if_neg fun hd => h hd.1 hd.2]

theorem withoutStars_append_of_not_mem {word : List Char} (h : '*' ∉ word) (front cs : List Char) :
    withoutStars places front (word ++ cs) = word ++ withoutStars places (front ++ word) cs := by
  induction word generalizing front with
  | nil => rw [List.append_nil]; rfl
  | cons c word ih =>
    obtain ⟨hc, hword⟩ := not_or.1 (mt List.mem_cons.2 h)
    rw [List.cons_append, withoutStars_kept fun he => absurd he.symm hc, ih hword,
      List.append_assoc]
    rfl

end Stars

/-- A text without a star that ends what stands up to a text behind a star ends that text. -/
theorem suffix_of_not_mem {word front cs : List Char} (hword : '*' ∉ word)
    (h : word <:+ front ++ '*' :: cs) : word <:+ cs := by
  obtain ⟨more, he⟩ := h
  rcases append_eq_append_cons he with ⟨between, -, hcs⟩ | ⟨between, -, he⟩
  · exact ⟨between, hcs.symm⟩
  · exact absurd (he ▸ List.mem_append_right between List.mem_cons_self) hword

/-! ### Places that do not meet -/

/-- Neither of the texts around a star has one of its own, and none that stands before a star
    begins in one that stands behind another. -/
structure Apart (places : List StarPlace) : Prop where
  before_free : ∀ p ∈ places, '*' ∉ p.before
  behind_free : ∀ p ∈ places, '*' ∉ p.behind
  begins_apart : ∀ p ∈ places, ∀ q ∈ places, ∀ c ∈ p.behind, ∀ cs, q.before ≠ c :: cs

/-- A rule finds a star with the texts around it, and writes these without it. -/
structure DropsStar (rule : Rule) (places : List StarPlace) : Prop where
  found : ∀ {cs out rest}, rule cs = some (out, rest) →
    ∃ p ∈ places, cs = p.before ++ '*' :: (p.behind ++ rest) ∧ out = p.before ++ p.behind
  missed : ∀ {cs}, rule cs = none → ∀ p ∈ places, ∀ rest, cs ≠ p.before ++ '*' :: (p.behind ++ rest)

/-- What stands before the next star that is dropped does not begin in what is read already. -/
def ReadUpTo (places : List StarPlace) (front cs : List Char) : Prop :=
  ∀ p ∈ places, ∀ next rest, '*' ∉ next → cs = next ++ '*' :: rest →
    p.before <:+ front ++ next → p.behind <+: rest → p.before <:+ next

section Reading

variable {places : List StarPlace} {front : List Char}

theorem readUpTo_nil (places : List StarPlace) (cs : List Char) : ReadUpTo places [] cs :=
  fun _ _ _ _ _ _ hbefore _ => hbefore

/-- Behind a star that is dropped reading goes on. -/
theorem ReadUpTo.behind (hapart : Apart places) {p : StarPlace} (hp : p ∈ places)
    (front cs : List Char) : ReadUpTo places (front ++ '*' :: p.behind) cs := by
  intro q hq next rest _ _ hbefore _
  rw [List.append_assoc, List.cons_append] at hbefore
  have hends := suffix_of_not_mem (hapart.before_free q hq) hbefore
  rcases List.suffix_or_suffix_of_suffix hends (List.suffix_append p.behind next) with h | h
  · exact h
  · obtain ⟨more, hmore⟩ := h
    cases more with
    | nil => exact ⟨[], hmore.symm⟩
    | cons c more =>
      -- the place would begin in the text behind the star
      have hin : c :: more <:+ p.behind := by
        obtain ⟨first, hfirst⟩ := hends
        rw [← hmore, ← List.append_assoc] at hfirst
        exact ⟨first, List.append_cancel_right hfirst⟩
      exact absurd hmore.symm
        (hapart.begins_apart p hp q hq c (hin.subset List.mem_cons_self) _)

/-- Behind a star that is kept reading goes on. -/
theorem ReadUpTo.star (hapart : Apart places) (front cs : List Char) :
    ReadUpTo places (front ++ ['*']) cs := by
  intro q hq next rest _ _ hbefore _
  rw [List.append_assoc] at hbefore
  exact suffix_of_not_mem (hapart.before_free q hq) hbefore

/-- Behind a character from which no place begins reading goes on. -/
theorem ReadUpTo.kept {c : Char} {cs : List Char} (hc : c ≠ '*')
    (h : ReadUpTo places front (c :: cs))
    (hmissed : ∀ p ∈ places, ∀ rest, c :: cs ≠ p.before ++ '*' :: (p.behind ++ rest)) :
    ReadUpTo places (front ++ [c]) cs := by
  intro p hp next rest hnext hcs hbefore hbehind
  rw [List.append_assoc] at hbefore
  have hends : p.before <:+ c :: next := by
    refine h p hp (c :: next) rest ?_ ?_ hbefore hbehind
    · exact fun hm => (List.mem_cons.1 hm).elim (fun he => hc he.symm) hnext
    · rw [hcs, List.cons_append]
  rcases List.suffix_cons_iff.1 hends with he | hends
  · obtain ⟨more, rfl⟩ := hbehind
    exact absurd (by rw [hcs, he, List.cons_append]) (hmissed p hp more)
  · exact hends

/-- The texts around a star that is dropped are kept. -/
theorem withoutStars_place (hapart : Apart places) {p : StarPlace} (hp : p ∈ places)
    (front rest : List Char) :
    withoutStars places front (p.before ++ '*' :: (p.behind ++ rest)) =
      p.before ++ p.behind ++ withoutStars places (front ++ p.before ++ '*' :: p.behind) rest := by
  have hdropped : Dropped places (front ++ p.before) (p.behind ++ rest) :=
    ⟨p, hp, List.suffix_append _ _, List.prefix_append _ _⟩
  rw [withoutStars_append_of_not_mem (hapart.before_free p hp), withoutStars_star hdropped,
    withoutStars_append_of_not_mem (hapart.behind_free p hp), List.append_assoc (front ++ p.before),
    List.singleton_append, List.append_assoc p.before]

/-- A star from which no place begins is kept. -/
theorem ReadUpTo.not_dropped {cs : List Char} (h : ReadUpTo places front ('*' :: cs))
    (hmissed : ∀ p ∈ places, ∀ rest, '*' :: cs ≠ p.before ++ '*' :: (p.behind ++ rest)) :
    ¬ Dropped places front cs := by
  rintro ⟨p, hp, hbefore, hbehind⟩
  have hempty : p.before <:+ [] :=
    h p hp [] cs List.not_mem_nil rfl (by rwa [List.append_nil]) hbehind
  obtain ⟨more, rfl⟩ := hbehind
  refine hmissed p hp more ?_
  rw [List.suffix_nil.1 hempty, List.nil_append]

/-- **Replacing from left to right drops the stars between the texts of the rule.** -/
theorem replaceAll_eq_withoutStars {rule : Rule} (hapart : Apart places)
    (hrule : DropsStar rule places) {cs : List Char} (h : ReadUpTo places front cs) :
    replaceAll rule cs = withoutStars places front cs := by
  induction hn : cs.length using Nat.strongRecOn generalizing front cs with
  | ind n ih =>
    subst hn
    cases cs with
    | nil => rw [replaceAll_nil, withoutStars]
    | cons c cs =>
      cases hfound : rule (c :: cs) with
      | some found =>
        obtain ⟨out, rest⟩ := found
        obtain ⟨p, hp, hcs, rfl⟩ := hrule.found hfound
        have hlength := congrArg List.length hcs
        simp only [List.length_cons, List.length_append] at hlength
        have hrest : rest.length < (c :: cs).length := by
          rw [List.length_cons]
          omega
        rw [replaceAll_cons_some hfound (Nat.le_of_lt_succ hrest), hcs,
          withoutStars_place hapart hp, ih _ hrest (ReadUpTo.behind hapart hp _ rest) rfl]
      | none =>
        have hmissed := hrule.missed hfound
        rw [replaceAll_cons_none hfound]
        by_cases hc : c = '*'
        · subst hc
          rw [withoutStars_kept fun _ => h.not_dropped hmissed,
            ih _ (Nat.lt_succ_self _) (ReadUpTo.star hapart front cs) rfl]
        · rw [withoutStars_kept fun he => absurd he hc,
            ih _ (Nat.lt_succ_self _) (h.kept hc hmissed) rfl]

end Reading

/-! ### More stars and fewer -/

/-- What holds of every star of a text holds of its first character and of the stars behind it. -/
theorem forall_star_cons {P : List Char → List Char → Prop} {front : List Char} {c : Char}
    {cs : List Char} :
    (∀ next rest, c :: cs = next ++ '*' :: rest → P (front ++ next) rest) ↔
      (c = '*' → P front cs) ∧
        ∀ next rest, cs = next ++ '*' :: rest → P (front ++ [c] ++ next) rest := by
  constructor
  · intro h
    refine ⟨fun hc => ?_, fun next rest he => ?_⟩
    · have hfirst := h [] cs (by rw [hc]; rfl)
      rwa [List.append_nil] at hfirst
    · have hnext := h (c :: next) rest (by rw [he]; rfl)
      rwa [List.append_assoc, List.singleton_append]
  · rintro ⟨hfirst, hnext⟩ next rest he
    cases next with
    | nil =>
      obtain ⟨hc, rfl⟩ := List.cons.inj he
      rw [List.append_nil]
      exact hfirst hc
    | cons d next =>
      obtain ⟨rfl, hcs⟩ := List.cons.inj he
      have hbehind := hnext next rest hcs
      rwa [List.append_assoc, List.singleton_append] at hbehind

section Compare

variable {fewer more : List StarPlace}
  (hmore : ∀ front rest, Dropped fewer front rest → Dropped more front rest)

include hmore

theorem length_withoutStars_le (front cs : List Char) :
    (withoutStars more front cs).length ≤ (withoutStars fewer front cs).length := by
  induction cs generalizing front with
  | nil => exact Nat.le_refl 0
  | cons c cs ih =>
    rw [withoutStars, withoutStars]
    split
    · split
      · exact ih _
      · exact Nat.le_succ_of_le (ih _)
    · next hkept =>
      rw [if_neg fun hd => hkept ⟨hd.1, hmore front cs hd.2⟩]
      exact Nat.succ_le_succ (ih _)

/-- Where more stars may be dropped, the same text comes out exactly when no more are. -/
theorem withoutStars_eq_iff {front cs : List Char} :
    withoutStars more front cs = withoutStars fewer front cs ↔
      ∀ next rest, cs = next ++ '*' :: rest →
        Dropped more (front ++ next) rest → Dropped fewer (front ++ next) rest := by
  induction cs generalizing front with
  | nil => exact iff_of_true rfl fun next rest he => absurd he (by simp)
  | cons c cs ih =>
    rw [forall_star_cons
        (P := fun front rest => Dropped more front rest → Dropped fewer front rest),
      ← ih, withoutStars, withoutStars]
    by_cases hm : c = '*' ∧ Dropped more front cs
    · rw [if_pos hm]
      by_cases hf : Dropped fewer front cs
      · rw [if_pos ⟨hm.1, hf⟩]
        exact ⟨fun he => ⟨fun _ _ => hf, he⟩, And.right⟩
      · rw [if_neg fun hd => hf hd.2]
        -- the star that is only dropped on one side makes that side shorter
        refine iff_of_false (fun he => ?_) fun hboth => hf (hboth.1 hm.1 hm.2)
        have hle := length_withoutStars_le hmore (front ++ [c]) cs
        rw [he, List.length_cons] at hle
        omega
    · rw [if_neg hm, if_neg fun hd => hm ⟨hd.1, hmore front cs hd.2⟩]
      refine ⟨fun he => ⟨fun hc hd => absurd ⟨hc, hd⟩ hm, (List.cons.inj he).2⟩, fun hboth => ?_⟩
      rw [hboth.2]

end Compare

/-! ## 2. Stars behind names -/

/-- One of the names ends a text. -/
def EndsName (names : List String) (front : List Char) : Prop :=
  ∃ name ∈ names, name.toList <:+ front

/-- The places behind names. -/
def namePlaces (names : List String) : List StarPlace := names.map fun name => ⟨name.toList, []⟩

theorem dropped_namePlaces_iff {names : List String} {front rest : List Char} :
    Dropped (namePlaces names) front rest ↔ EndsName names front := by
  constructor
  · rintro ⟨p, hp, hbefore, -⟩
    obtain ⟨name, hname, rfl⟩ := List.mem_map.1 hp
    exact ⟨name, hname, hbefore⟩
  · rintro ⟨name, hname, hbefore⟩
    exact ⟨⟨name.toList, []⟩, List.mem_map_of_mem hname, hbefore, List.nil_prefix⟩

section Names

variable {names : List String}

theorem apart_namePlaces (h : ∀ name ∈ names, '*' ∉ name.toList) : Apart (namePlaces names) := by
  unfold namePlaces
  refine ⟨fun p hp => ?_, fun p hp => ?_, fun p hp q _ c hc => ?_⟩
  · obtain ⟨name, hname, rfl⟩ := List.mem_map.1 hp
    exact h name hname
  · obtain ⟨name, -, rfl⟩ := List.mem_map.1 hp
    exact List.not_mem_nil
  · obtain ⟨name, -, rfl⟩ := List.mem_map.1 hp
    exact absurd hc List.not_mem_nil

theorem dropsStar_dropStar (names : List String) :
    DropsStar (dropStar (names.map String.toList)) (namePlaces names) where
  found {cs out rest} h := by
    obtain ⟨word, hword, hfound⟩ := List.exists_of_findSome?_eq_some h
    obtain ⟨name, hname, rfl⟩ := List.mem_map.1 hword
    obtain ⟨behind, hafter, he⟩ := Option.map_eq_some_iff.1 hfound
    cases he
    refine ⟨⟨name.toList, []⟩, List.mem_map_of_mem hname, ?_, (List.append_nil _).symm⟩
    rw [after?_eq_some_iff.1 hafter, List.append_assoc]
    rfl
  missed {cs} h p hp rest he := by
    obtain ⟨name, hname, rfl⟩ := List.mem_map.1 hp
    have hnone := List.findSome?_eq_none_iff.1 h name.toList (List.mem_map_of_mem hname)
    have hword : cs = name.toList ++ ['*'] ++ rest := by
      rw [he, List.append_assoc]
      rfl
    rw [hword, after?_append] at hnone
    cases hnone

/-- **Unstarring drops the stars behind the names**, whatever stands before a name. -/
theorem unstar_eq_withoutStars (h : ∀ name ∈ names, '*' ∉ name.toList) (cs : List Char) :
    unstar names cs = withoutStars (namePlaces names) [] cs :=
  replaceAll_eq_withoutStars (apart_namePlaces h) (dropsStar_dropStar names) (readUpTo_nil _ cs)

end Names

/-! ## 3. Stars in the commands of environments -/

/-- The command that begins an environment, up to its name. -/
def beginHead (name : String) : List Char := "\\begin\x7b".toList ++ name.toList

/-- The command that ends an environment, up to its name. -/
def endHead (name : String) : List Char := "\\end\x7b".toList ++ name.toList

/-- A star stands behind one of the names in the command of an environment. -/
def InFrame (names : List String) (front rest : List Char) : Prop :=
  ∃ name ∈ names, (beginHead name <:+ front ∨ endHead name <:+ front) ∧ ['\x7d'] <+: rest

/-- The rule that takes the star off a name in the commands of its environment. -/
def unstarFrame (name : String) : Rule :=
  (Rule.word (beginCommand (name.toList ++ ['*'])) (beginCommand name.toList)).orElse
    (Rule.word (endCommand (name.toList ++ ['*'])) (endCommand name.toList))

/-- A text with the stars taken off the names in the commands of their environments. -/
def unstarCommands (names : List String) : List Char → List Char :=
  replaceAll fun cs => names.findSome? fun name => unstarFrame name cs

/-- The places in the commands of environments. -/
def framePlaces (names : List String) : List StarPlace :=
  names.flatMap fun name => [⟨beginHead name, ['\x7d']⟩, ⟨endHead name, ['\x7d']⟩]

theorem mem_framePlaces_iff {names : List String} {p : StarPlace} :
    p ∈ framePlaces names ↔
      ∃ name ∈ names,
        (p.before = beginHead name ∨ p.before = endHead name) ∧ p.behind = ['\x7d'] := by
  unfold framePlaces
  simp only [List.mem_flatMap, List.mem_cons, List.not_mem_nil, or_false]
  constructor
  · rintro ⟨name, hname, rfl | rfl⟩
    · exact ⟨name, hname, Or.inl rfl, rfl⟩
    · exact ⟨name, hname, Or.inr rfl, rfl⟩
  · obtain ⟨before, behind⟩ := p
    rintro ⟨name, hname, rfl | rfl, rfl⟩
    · exact ⟨name, hname, Or.inl rfl⟩
    · exact ⟨name, hname, Or.inr rfl⟩

theorem dropped_framePlaces_iff {names : List String} {front rest : List Char} :
    Dropped (framePlaces names) front rest ↔ InFrame names front rest := by
  constructor
  · rintro ⟨p, hp, hbefore, hbehind⟩
    obtain ⟨name, hname, hhead, hclose⟩ := mem_framePlaces_iff.1 hp
    rw [hclose] at hbehind
    rcases hhead with he | he
    · exact ⟨name, hname, Or.inl (he ▸ hbefore), hbehind⟩
    · exact ⟨name, hname, Or.inr (he ▸ hbefore), hbehind⟩
  · rintro ⟨name, hname, hbefore | hbefore, hbehind⟩
    · exact ⟨⟨beginHead name, ['\x7d']⟩,
        mem_framePlaces_iff.2 ⟨name, hname, Or.inl rfl, rfl⟩, hbefore, hbehind⟩
    · exact ⟨⟨endHead name, ['\x7d']⟩,
        mem_framePlaces_iff.2 ⟨name, hname, Or.inr rfl, rfl⟩, hbefore, hbehind⟩

/-- A star in the command of an environment stands behind its name. -/
theorem InFrame.endsName {names : List String} {front rest : List Char}
    (h : InFrame names front rest) : EndsName names front := by
  obtain ⟨name, hname, hhead | hhead, -⟩ := h
  · exact ⟨name, hname, (List.suffix_append _ _).trans hhead⟩
  · exact ⟨name, hname, (List.suffix_append _ _).trans hhead⟩

section Frames

variable {names : List String}

theorem apart_framePlaces (h : ∀ name ∈ names, '*' ∉ name.toList) : Apart (framePlaces names) where
  before_free p hp := by
    have hparts : ∀ (head : List Char) (name : String), '*' ∉ head → name ∈ names →
        '*' ∉ head ++ name.toList := by
      intro head name hhead hname
      rw [List.mem_append, not_or]
      exact ⟨hhead, h name hname⟩
    obtain ⟨name, hname, hhead | hhead, -⟩ := mem_framePlaces_iff.1 hp
    · exact hhead ▸ hparts "\\begin\x7b".toList name (by decide +kernel) hname
    · exact hhead ▸ hparts "\\end\x7b".toList name (by decide +kernel) hname
  behind_free p hp := by
    obtain ⟨name, -, -, hclose⟩ := mem_framePlaces_iff.1 hp
    rw [hclose]
    decide
  begins_apart p hp q hq c hc cs hbefore := by
    -- a command begins with a backslash, and its head has a closing brace behind it
    obtain ⟨name, -, -, hclose⟩ := mem_framePlaces_iff.1 hp
    rw [hclose, List.mem_singleton] at hc
    subst hc
    obtain ⟨name, -, hhead | hhead, -⟩ := mem_framePlaces_iff.1 hq
    · exact absurd (List.cons.inj (hbefore.symm.trans hhead)).1 (by decide)
    · exact absurd (List.cons.inj (hbefore.symm.trans hhead)).1 (by decide)

theorem starred_beginCommand (name : String) (rest : List Char) :
    beginCommand (name.toList ++ ['*']) ++ rest =
      beginHead name ++ '*' :: (['\x7d'] ++ rest) := by
  unfold beginCommand beginHead
  simp only [List.append_assoc, List.cons_append, List.nil_append]

theorem starred_endCommand (name : String) (rest : List Char) :
    endCommand (name.toList ++ ['*']) ++ rest = endHead name ++ '*' :: (['\x7d'] ++ rest) := by
  unfold endCommand endHead
  simp only [List.append_assoc, List.cons_append, List.nil_append]

theorem unstarFrame_eq_some {name : String} {cs out rest : List Char}
    (h : unstarFrame name cs = some (out, rest)) :
    ∃ head, (head = beginHead name ∨ head = endHead name) ∧
      cs = head ++ '*' :: (['\x7d'] ++ rest) ∧ out = head ++ ['\x7d'] := by
  unfold unstarFrame Rule.orElse Rule.word at h
  split at h
  · next found hfound =>
    cases h
    obtain ⟨behind, hafter, he⟩ := Option.map_eq_some_iff.1 hfound
    cases he
    exact ⟨beginHead name, Or.inl rfl,
      (after?_eq_some_iff.1 hafter).trans (starred_beginCommand name rest), rfl⟩
  · obtain ⟨behind, hafter, he⟩ := Option.map_eq_some_iff.1 h
    cases he
    exact ⟨endHead name, Or.inr rfl,
      (after?_eq_some_iff.1 hafter).trans (starred_endCommand name rest), rfl⟩

theorem unstarFrame_ne_none (name : String) {head : List Char}
    (hhead : head = beginHead name ∨ head = endHead name) (rest : List Char) :
    unstarFrame name (head ++ '*' :: (['\x7d'] ++ rest)) ≠ none := by
  intro h
  unfold unstarFrame Rule.orElse Rule.word at h
  split at h
  · cases h
  · next hnone =>
    rcases hhead with rfl | rfl
    · rw [← starred_beginCommand, after?_append] at hnone
      cases hnone
    · rw [← starred_endCommand, after?_append] at h
      cases h

theorem dropsStar_unstarFrame (names : List String) :
    DropsStar (fun cs => names.findSome? fun name => unstarFrame name cs) (framePlaces names) where
  found {cs out rest} h := by
    obtain ⟨name, hname, hfound⟩ := List.exists_of_findSome?_eq_some h
    obtain ⟨head, hhead, hcs, hout⟩ := unstarFrame_eq_some hfound
    exact ⟨⟨head, ['\x7d']⟩, mem_framePlaces_iff.2 ⟨name, hname, hhead, rfl⟩, hcs, hout⟩
  missed {cs} h p hp rest he := by
    obtain ⟨name, hname, hhead, hclose⟩ := mem_framePlaces_iff.1 hp
    rw [hclose] at he
    exact unstarFrame_ne_none name hhead rest
      (he ▸ List.findSome?_eq_none_iff.1 h name hname)

theorem unstarCommands_eq_withoutStars (h : ∀ name ∈ names, '*' ∉ name.toList) (cs : List Char) :
    unstarCommands names cs = withoutStars (framePlaces names) [] cs :=
  replaceAll_eq_withoutStars (apart_framePlaces h) (dropsStar_unstarFrame names) (readUpTo_nil _ cs)

end Frames

/-! ## 4. Unstarring a document -/

/-- The configuration that only takes stars off. -/
def unstarOnly (names : List String) : PrecleanConfig := ⟨[], [], names⟩

theorem restructure_unstarOnly (names : List String) (cs : List Char) :
    restructure (unstarOnly names) cs = unstar names cs := rfl

/-- **What unstarring changes.** It drops the stars behind the configured names and nothing else.
    What comes out is the text with the stars taken off in the commands of the environments exactly
    when every star behind a configured name is in such a command. -/
theorem unstarring_iff {names : List String} (h : ∀ name ∈ names, '*' ∉ name.toList)
    (cs : List Char) :
    restructure (unstarOnly names) cs = withoutStars (namePlaces names) [] cs ∧
      (restructure (unstarOnly names) cs = unstarCommands names cs ↔
        ∀ front rest, cs = front ++ '*' :: rest → EndsName names front →
          InFrame names front rest) := by
  have hnames : restructure (unstarOnly names) cs = withoutStars (namePlaces names) [] cs := by
    rw [restructure_unstarOnly, unstar_eq_withoutStars h]
  refine ⟨hnames, ?_⟩
  have hmore : ∀ front rest, Dropped (framePlaces names) front rest →
      Dropped (namePlaces names) front rest := fun front rest hd =>
    dropped_namePlaces_iff.2 (dropped_framePlaces_iff.1 hd).endsName
  rw [hnames, unstarCommands_eq_withoutStars h, withoutStars_eq_iff hmore]
  simp only [List.nil_append, dropped_namePlaces_iff, dropped_framePlaces_iff]

/-- A product, and an environment. -/
def starredMarkup : List Char := "2*3 \\begin\x7btable*\x7dx\\end\x7btable*\x7d".toList

/-- The stars behind the name are in its commands. -/
theorem unstarring_iff_table :
    (∀ name ∈ ["table"], '*' ∉ name.toList) ∧
      (∀ front rest, starredMarkup = front ++ '*' :: rest → EndsName ["table"] front →
        InFrame ["table"] front rest) ∧
      restructure (unstarOnly ["table"]) starredMarkup =
        "2*3 \\begin\x7btable\x7dx\\end\x7btable\x7d".toList := by
  have hstar : ∀ name ∈ ["table"], '*' ∉ name.toList := by decide +kernel
  obtain ⟨hnames, hiff⟩ := unstarring_iff hstar starredMarkup
  refine ⟨hstar, hiff.1 (by decide +kernel), hnames.trans ?_⟩
  decide +kernel

/-- **A star behind a word that is a configured name is dropped**, in text of any kind. -/
theorem not_unstarring_text :
    ¬ ∀ (names : List String) (cs : List Char),
      (∀ name ∈ names, Plain name.toList ∧ '*' ∉ name.toList) →
        restructure (unstarOnly names) cs = unstarCommands names cs := by
  intro h
  have hsame := h ["table"] "See table* below.".toList (by decide +kernel)
  exact absurd hsame (by decide +kernel)

end Galley.Markup
