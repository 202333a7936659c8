import Galley.CommandLine.Run

/-!
# The option for the output file

A command line names the file that is written by one option. Wherever that option can be put into
a command line, it changes nothing else in what is asked for: every other argument is read as
before. Right behind the name of the command it can always be put. Main statements:
`ofArguments?_insert` and `exists_ofArguments?_insert`.
-/

namespace Galley.CommandLine

/-! ## 1. What one argument says -/

/-- What an argument says to a reader that knows the options `specs`. -/
inductive Said where
  /-- Only positional arguments follow. -/
  | stop
  | positional
  /-- A wish for verbosity. -/
  | silent
  /-- An option with its value. -/
  | option (spec : OptionSpec) (value : String)
  /-- An option, whose value is the next argument. -/
  | wants (spec : OptionSpec)
  /-- Nothing that is known. -/
  | wrong

/-- What an argument says. -/
def said (specs : Specs) (arg : String) : Said :=
  match shapeOf arg with
  | .stop => .stop
  | .positional => .positional
  | .long name value =>
    if name = "verbose" then if value.isSome then .wrong else .silent
    else
      match specs.find? fun s => s.name = name, value with
      | none, _ => .wrong
      | some spec, some value => .option spec value
      | some spec, none => .wants spec
  | .short letters =>
    match readLetters? specs letters with
    | none => .wrong
    | some none => .silent
    | some (some (spec, [])) => .wants spec
    | some (some (spec, attached)) => .option spec (attachedValue attached)

/-- Reading goes by what the first argument says. -/
theorem readArguments?_cons (specs : Specs) (g : Given) (arg : String) (args : List String) :
    readArguments? specs g (arg :: args) =
      match said specs arg, args with
      | .stop, _ => some (args.foldl Given.addPositional g)
      | .positional, _ => readArguments? specs (g.addPositional arg) args
      | .silent, _ => readArguments? specs g args
      | .option spec value, _ =>
        (g.addOption? spec value).bind fun g => readArguments? specs g args
      | .wants _, [] => none
      | .wants spec, value :: rest =>
        if shapeOf value = .positional then
          (g.addOption? spec value).bind fun g => readArguments? specs g rest
        else none
      | .wrong, _ => none := by
  rw [readArguments?, said]
  cases shapeOf arg with
  | stop => rfl
  | positional => rfl
  | long name value =>
    dsimp only
    by_cases hname : name = "verbose"
    · rw [if_pos hname, if_pos hname]
      cases value with
      | none => rfl
      | some value => rfl
    · rw [if_neg hname, if_neg hname]
      cases specs.find? fun s => s.name = name with
      | none => rfl
      | some spec =>
        cases value with
        | none => cases args <;> rfl
        | some value => rfl
  | short letters =>
    dsimp only
    cases readLetters? specs letters with
    | none => rfl
    | some option =>
      cases option with
      | none => rfl
      | some option =>
        obtain ⟨spec, attached⟩ := option
        cases attached with
        | nil => cases args <;> rfl
        | cons c cs => rfl

/-! ## 2. The arguments, one after the other -/

/-- What is given by one argument, or by two. -/
inductive Item where
  | positional (value : String)
  | option (spec : OptionSpec) (value : String)

/-- What arguments give, one after the other; nothing when they break the rules for arguments,
    whatever was given before. -/
def items? (specs : Specs) : List String → Option (List Item)
  | [] => some []
  | arg :: args =>
    match said specs arg with
    | .stop => some (args.map .positional)
    | .positional => (items? specs args).map (.positional arg :: ·)
    | .silent => items? specs args
    | .option spec value => (items? specs args).map (.option spec value :: ·)
    | .wants spec =>
      match args with
      | [] => none
      | value :: rest =>
        if shapeOf value = .positional then (items? specs rest).map (.option spec value :: ·)
        else none
    | .wrong => none

/-- An item is added. -/
def Given.addItem? (g : Given) : Item → Option Given
  | .positional value => some (g.addPositional value)
  | .option spec value => g.addOption? spec value

theorem foldlM_map_positional (g : Given) (args : List String) :
    (args.map Item.positional).foldlM Given.addItem? g =
      some (args.foldl Given.addPositional g) := by
  induction args generalizing g with
  | nil => rfl
  | cons arg args ih => exact ih (g.addPositional arg)

theorem add_cons (g : Given) (item : Item) (rest : Option (List Item)) :
    ((rest.map (item :: ·)).bind fun items => items.foldlM Given.addItem? g) =
      (g.addItem? item).bind fun g => rest.bind fun items => items.foldlM Given.addItem? g := by
  cases rest with
  | none => exact (Option.bind_fun_none _).symm
  | some items => rfl

/-- **Arguments are read by adding what they give.** -/
theorem readArguments?_eq (specs : Specs) (g : Given) (args : List String) :
    readArguments? specs g args =
      (items? specs args).bind fun items => items.foldlM Given.addItem? g := by
  fun_induction items? specs args generalizing g with
  | case1 => rfl
  | case2 arg args hsaid =>
    -- All arguments that are left are positional, whatever they look like.
    rw [readArguments?_cons, hsaid]
    exact (foldlM_map_positional g args).symm
  | case3 arg args hsaid ih =>
    rw [readArguments?_cons, hsaid, add_cons]
    exact ih (g.addPositional arg)
  | case4 arg args hsaid ih =>
    rw [readArguments?_cons, hsaid]
    exact ih g
  | case5 arg args spec value hsaid ih =>
    rw [readArguments?_cons, hsaid, add_cons]
    exact Option.bind_congr fun g _ => ih g
  | case6 arg spec hsaid =>
    rw [readArguments?_cons, hsaid]
    rfl
  | case7 arg spec hsaid value rest hvalue ih =>
    rw [readArguments?_cons, hsaid, add_cons]
    exact (if_pos hvalue).trans (Option.bind_congr fun g _ => ih g)
  | case8 arg spec hsaid value rest hvalue =>
    rw [readArguments?_cons, hsaid]
    exact if_neg hvalue
  | case9 arg args hsaid =>
    rw [readArguments?_cons, hsaid]
    rfl

/-! ## 3. Items -/

/-- The positional argument that an item is. -/
def Item.positional? : Item → Option String
  | .positional value => some value
  | .option _ _ => none

/-- The name of the option that an item is, with its value. -/
def Item.option? : Item → Option (String × String)
  | .positional _ => none
  | .option spec value => some (spec.name, value)

/-- An option is added once, and one that names a file only with a name. -/
theorem addOption?_eq_some_iff {g g' : Given} {spec : OptionSpec} {value : String} :
    g.addOption? spec value = some g' ↔
      g.value? spec.name = none ∧ (spec.isPath = true → value ≠ "") ∧
        g' = { g with options := g.options ++ [(spec.name, value)] } := by
  unfold Given.addOption?
  rw [Option.ite_none_left_eq_some, Option.some.injEq, eq_comm (a := g')]
  simp only [Bool.or_eq_true, Bool.and_eq_true, not_or, not_and, Bool.not_eq_true,
    Option.isSome_eq_false_iff, Option.isNone_iff_eq_none, String.isEmpty_eq_false_iff, ne_eq,
    and_assoc]

/-- Adding items keeps them all in order. -/
theorem eq_of_add {g r : Given} {items : List Item}
    (h : items.foldlM Given.addItem? g = some r) :
    r = ⟨g.positional ++ items.filterMap Item.positional?,
      g.options ++ items.filterMap Item.option?⟩ := by
  induction items generalizing g with
  | nil =>
    rw [← Option.some.inj h, List.filterMap_nil, List.filterMap_nil, List.append_nil,
      List.append_nil]
  | cons item items ih =>
    obtain ⟨g₁, hitem, hitems⟩ := Option.bind_eq_some_iff.1 h
    rw [ih hitems]
    cases item with
    | positional value =>
      rw [← Option.some.inj hitem]
      exact congrArg (Given.mk · _) (List.append_assoc _ _ _)
    | option spec value =>
      obtain ⟨-, -, hg₁⟩ := addOption?_eq_some_iff.1 hitem
      rw [hg₁]
      exact congrArg (Given.mk _) (List.append_assoc _ _ _)

/-- **What can be added when no output file was named can be added when one was.** -/
theorem exists_add_of_output {g g' r : Given} {items : List Item}
    (h : items.foldlM Given.addItem? g = some r) (hout : r.value? "output" = none)
    (hother : ∀ name, name ≠ "output" → g'.value? name = g.value? name) :
    ∃ r', items.foldlM Given.addItem? g' = some r' := by
  induction items generalizing g g' with
  | nil => exact ⟨g', rfl⟩
  | cons item items ih =>
    obtain ⟨g₁, hitem, hitems⟩ := Option.bind_eq_some_iff.1 h
    cases item with
    | positional value =>
      have hg₁ : g.addPositional value = g₁ := Option.some.inj hitem
      have hrest : ∀ name, name ≠ "output" →
          (g'.addPositional value).value? name = g₁.value? name := by
        intro name hname
        rw [← hg₁]
        exact hother name hname
      exact ih hitems hrest
    | option spec value =>
      obtain ⟨hnew, hpath, hg₁⟩ := addOption?_eq_some_iff.1 hitem
      have hname : spec.name ≠ "output" := by
        intro he
        rw [eq_of_add hitems, hg₁, he] at hout
        simp [Given.value?, List.lookup_append] at hout
      have hadd : g'.addOption? spec value =
          some { g' with options := g'.options ++ [(spec.name, value)] } :=
        addOption?_eq_some_iff.2 ⟨(hother _ hname).trans hnew, hpath, rfl⟩
      have hrest : ∀ name, name ≠ "output" →
          Given.value? { g' with options := g'.options ++ [(spec.name, value)] } name =
            g₁.value? name := by
        intro name hne
        have hvalue := hother name hne
        unfold Given.value? at hvalue ⊢
        rw [hg₁, List.lookup_append, List.lookup_append, hvalue]
      obtain ⟨r', hr'⟩ := ih hitems hrest
      exact ⟨r', Option.bind_eq_some_iff.2 ⟨_, hadd, hr'⟩⟩

/-! ## 4. The option for the output file -/

/-- The second items are the first ones and an output file. -/
inductive WithFile (file : String) : List Item → List Item → Prop where
  | option (items : List Item) : WithFile file items (.option outputOption file :: items)
  /-- Behind two hyphens the option is positional, and so is the file. -/
  | positional (items : List Item) :
      WithFile file items (.positional "-o" :: .positional file :: items)
  | cons (item : Item) {items items' : List Item} (h : WithFile file items items') :
      WithFile file (item :: items) (item :: items')

theorem withFile_append {file : String} {items items' : List Item} (h : WithFile file items items')
    (front : List Item) : WithFile file (front ++ items) (front ++ items') := by
  induction front with
  | nil => exact h
  | cons item front ih => exact .cons item ih

theorem withFile_of_map_cons {file : String} {item : Item} {rest rest' : Option (List Item)}
    (h : ∀ items items', rest = some items → rest' = some items' → WithFile file items items')
    {items items' : List Item} (hitems : rest.map (item :: ·) = some items)
    (hitems' : rest'.map (item :: ·) = some items') : WithFile file items items' := by
  obtain ⟨back, hback, rfl⟩ := Option.map_eq_some_iff.1 hitems
  obtain ⟨back', hback', rfl⟩ := Option.map_eq_some_iff.1 hitems'
  exact .cons item (h back back' hback hback')

/-- **The option for the output file, put between arguments, adds an output file.** -/
theorem withFile_of_items? {specs : Specs} (hspec : said specs "-o" = .wants outputOption)
    {front back : List String} {file : String} {items items' : List Item}
    (h : items? specs (front ++ back) = some items)
    (h' : items? specs (front ++ "-o" :: file :: back) = some items') :
    WithFile file items items' := by
  -- The induction goes along the arguments in front, by what each of them says.
  fun_induction items? specs front generalizing items items' with
  | case1 =>
    rw [List.nil_append, items?, hspec] at h'
    obtain ⟨-, h'⟩ := Option.ite_none_right_eq_some.1 h'
    obtain ⟨rest, hrest, rfl⟩ := Option.map_eq_some_iff.1 h'
    rw [Option.some.inj (h.symm.trans hrest)]
    exact .option rest
  | case2 arg args hsaid =>
    rw [List.cons_append, items?, hsaid] at h h'
    rw [← Option.some.inj h, ← Option.some.inj h', List.map_append, List.map_append]
    exact withFile_append (.positional _) _
  | case3 arg args hsaid ih =>
    rw [List.cons_append, items?, hsaid] at h h'
    exact withFile_of_map_cons (fun _ _ => ih) h h'
  | case4 arg args hsaid ih =>
    rw [List.cons_append, items?, hsaid] at h h'
    exact ih h h'
  | case5 arg args spec value hsaid ih =>
    rw [List.cons_append, items?, hsaid] at h h'
    exact withFile_of_map_cons (fun _ _ => ih) h h'
  | case6 arg spec hsaid =>
    -- The option cannot be the value of another one.
    rw [List.cons_append, items?, hsaid] at h'
    obtain ⟨hshape, -⟩ := Option.ite_none_right_eq_some.1 h'
    exact absurd hshape (by decide)
  | case7 arg spec hsaid value rest hvalue ih =>
    rw [List.cons_append, items?, hsaid] at h h'
    exact withFile_of_map_cons (fun _ _ => ih) ((if_pos hvalue).symm.trans h)
      ((if_pos hvalue).symm.trans h')
  | case8 arg spec hsaid value rest hvalue =>
    rw [List.cons_append, items?, hsaid] at h
    obtain ⟨hshape, -⟩ := Option.ite_none_right_eq_some.1 h
    exact absurd hshape hvalue
  | case9 arg args hsaid =>
    rw [List.cons_append, items?, hsaid] at h
    cases h

example (file : String) :
    items? cleanSpecs ["--", "-o", file] = some [.positional "-o", .positional file] := rfl

/-- What the items give to a reader that was given nothing before. -/
def gathered (items : List Item) : Given :=
  ⟨items.filterMap Item.positional?, items.filterMap Item.option?⟩

theorem value?_gathered_option (spec : OptionSpec) (value : String) (items : List Item)
    (name : String) :
    (gathered (.option spec value :: items)).value? name =
      if name = spec.name then some value else (gathered items).value? name := by
  show ((spec.name, value) :: items.filterMap Item.option?).lookup name = _
  by_cases hname : name = spec.name
  · rw [if_pos hname, hname, List.lookup_cons_self]
  · rw [if_neg hname, List.lookup_cons, beq_false_of_ne hname]
    rfl

/-- What arguments of a command give. -/
theorem readArguments?_eq_some {specs : Specs} {args : List String} {g : Given}
    (h : readArguments? specs ⟨[], []⟩ args = some g) :
    ∃ items, items? specs args = some items ∧ g = gathered items := by
  rw [readArguments?_eq] at h
  obtain ⟨items, hitems, hadd⟩ := Option.bind_eq_some_iff.1 h
  exact ⟨items, hitems, eq_of_add hadd⟩

/-- The arguments are read as before, except that now there is an output file. -/
structure Given.Directed (file : String) (g g' : Given) : Prop where
  positional : g'.positional = g.positional
  output : g'.value? "output" = some file
  others : ∀ name, name ≠ "output" → g'.value? name = g.value? name

theorem directed_gathered_option (file : String) (items : List Item) :
    Given.Directed file (gathered items) (gathered (.option outputOption file :: items)) where
  positional := rfl
  output := rfl
  others name hname := (value?_gathered_option outputOption file items name).trans (if_neg hname)

/-- With one more item there is an output file, unless there are two more positional arguments. -/
theorem WithFile.directed_or {file : String} {items items' : List Item}
    (h : WithFile file items items') (hout : (gathered items).value? "output" = none) :
    Given.Directed file (gathered items) (gathered items') ∨
      (gathered items').positional.length = (gathered items).positional.length + 2 := by
  induction h with
  | option items => exact Or.inl (directed_gathered_option file items)
  | positional items => exact Or.inr rfl
  | cons item _ ih =>
    cases item with
    | positional value =>
      rcases ih hout with hd | hlen
      · exact Or.inl ⟨congrArg (value :: ·) hd.positional, hd.output, hd.others⟩
      · exact Or.inr (congrArg (· + 1) hlen)
    | option spec value =>
      rw [value?_gathered_option] at hout
      split at hout
      · cases hout
      · next hne =>
        rcases ih hout with hd | hlen
        · refine Or.inl ⟨hd.positional, ?_, fun name hname => ?_⟩
          · rw [value?_gathered_option, if_neg hne]
            exact hd.output
          · rw [value?_gathered_option, value?_gathered_option, hd.others name hname]
        · exact Or.inr hlen

/-- A command takes one positional argument. -/
theorem length_positional_of_file? {g : Given} {file : String} (h : g.file? = some file) :
    g.positional.length = 1 := by
  unfold Given.file? at h
  split at h
  · next heq => rw [heq, List.length_singleton]
  · cases h

/-- **The option for the output file, put between arguments that name one file, adds an output
file and nothing else.** -/
theorem directed_of_readArguments? {specs : Specs} (hspec : said specs "-o" = .wants outputOption)
    {front back : List String} {file tex tex' : String} {g g' : Given}
    (h : readArguments? specs ⟨[], []⟩ (front ++ back) = some g)
    (h' : readArguments? specs ⟨[], []⟩ (front ++ "-o" :: file :: back) = some g')
    (hout : g.value? "output" = none) (htex : g.file? = some tex) (htex' : g'.file? = some tex') :
    Given.Directed file g g' := by
  obtain ⟨items, hitems, rfl⟩ := readArguments?_eq_some h
  obtain ⟨items', hitems', rfl⟩ := readArguments?_eq_some h'
  refine ((withFile_of_items? hspec hitems hitems').directed_or hout).resolve_right fun hlen => ?_
  have hone := length_positional_of_file? htex
  have hone' := length_positional_of_file? htex'
  omega

/-- In front of all arguments of a command it can always be put. -/
theorem exists_directed {specs : Specs} (hspec : said specs "-o" = .wants outputOption)
    {args : List String} {g : Given} (h : readArguments? specs ⟨[], []⟩ args = some g)
    (hout : g.value? "output" = none) {file : String} (hfile : file ≠ "")
    (hshape : shapeOf file = .positional) :
    ∃ g', readArguments? specs ⟨[], []⟩ ("-o" :: file :: args) = some g' ∧
      Given.Directed file g g' := by
  rw [readArguments?_eq] at h
  obtain ⟨items, hitems, hadd⟩ := Option.bind_eq_some_iff.1 h
  have hfirst : Given.addOption? ⟨[], []⟩ outputOption file = some ⟨[], [("output", file)]⟩ :=
    addOption?_eq_some_iff.2 ⟨rfl, fun _ => hfile, rfl⟩
  have hother : ∀ name, name ≠ "output" →
      Given.value? ⟨[], [("output", file)]⟩ name = Given.value? ⟨[], []⟩ name := by
    intro name hname
    unfold Given.value?
    rw [List.lookup_cons, beq_false_of_ne hname]
  obtain ⟨g', hg'⟩ := exists_add_of_output hadd hout hother
  refine ⟨g', ?_, ?_⟩
  · rw [readArguments?_cons, hspec]
    refine (if_pos hshape).trans ?_
    rw [hfirst, Option.bind_some, readArguments?_eq, hitems]
    exact hg'
  · rw [eq_of_add hadd, eq_of_add hg']
    exact directed_gathered_option file items

/-! ## 5. Commands -/

/-- The command can write a file. -/
def Command.writes : Command → Bool
  | .clean _ _ _ _ | .process _ _ _ _ _ _ _ _ _ => true
  | .citations _ | .version => false

/-- The command that writes the given file and is the same besides. -/
def Command.into (file : String) : Command → Command
  | .clean tex bib config _ => .clean tex bib config (some file)
  | .process tree tex bib abstract keywords doi funding config _ =>
    .process tree tex bib abstract keywords doi funding config (some file)
  | .citations tex => .citations tex
  | .version => .version

/-- The command `clean` with what was given. -/
def cleanFrom? (g : Given) : Option Command := do
  some (.clean (← g.file?) (g.value? "bib") (g.value? "config") (g.value? "output"))

/-- The command `process` with what was given. -/
def processFrom? (g : Given) : Option Command := do
  some (.process (← g.file?) (← g.value? "tex") (g.value? "bib") (g.value? "abstract")
    (g.value? "keywords") (g.value? "doi") (g.value? "funding") (g.value? "config")
    (g.value? "output"))

/-- The commands that can write a file: their names, their options and what makes them. -/
inductive Writer : String → Specs → (Given → Option Command) → Prop where
  | clean : Writer "clean" cleanSpecs cleanFrom?
  | process : Writer "process" processSpecs processFrom?

section Writer

variable {name : String} {specs : Specs} {make : Given → Option Command}

theorem Writer.readCommand? (h : Writer name specs make) (args : List String) :
    readCommand? name args = (readArguments? specs ⟨[], []⟩ args).bind make := by
  cases h with
  | clean => rfl
  | process => rfl

theorem Writer.said (h : Writer name specs make) : said specs "-o" = .wants outputOption := by
  cases h with
  | clean => rfl
  | process => rfl

/-- A command that can write a file was named as one. -/
theorem exists_writer {args : List String} {c : Command} (h : readCommand? name args = some c)
    (hwrites : c.writes = true) : ∃ specs make, Writer name specs make := by
  unfold CommandLine.readCommand? at h
  split at h
  · exact ⟨_, _, .clean⟩
  · obtain ⟨g, -, h⟩ := Option.bind_eq_some_iff.1 h
    obtain ⟨tex, -, h⟩ := Option.bind_eq_some_iff.1 h
    rw [← Option.some.inj h] at hwrites
    cases hwrites
  · exact ⟨_, _, .process⟩
  · cases h

/-- What a command that can write a file says about the arguments it was made from. -/
theorem Writer.fields {g : Given} {c : Command} (h : Writer name specs make)
    (hmake : make g = some c) : (∃ file, g.file? = some file) ∧ c.output? = g.value? "output" := by
  cases h with
  | clean =>
    obtain ⟨tex, htex, hc⟩ := Option.bind_eq_some_iff.1 hmake
    rw [← Option.some.inj hc]
    exact ⟨⟨tex, htex⟩, rfl⟩
  | process =>
    obtain ⟨tree, htree, hmake⟩ := Option.bind_eq_some_iff.1 hmake
    obtain ⟨tex, -, hc⟩ := Option.bind_eq_some_iff.1 hmake
    rw [← Option.some.inj hc]
    exact ⟨⟨tree, htree⟩, rfl⟩

/-- **With an output file the same command is made, and it writes that file.** -/
theorem Writer.into {g g' : Given} {c : Command} {file : String} (h : Writer name specs make)
    (hmake : make g = some c) (hd : Given.Directed file g g') :
    make g' = some (c.into file) := by
  have hfile : g'.file? = g.file? := by
    unfold Given.file?
    rw [hd.positional]
  cases h with
  | clean =>
    obtain ⟨tex, htex, hc⟩ := Option.bind_eq_some_iff.1 hmake
    unfold cleanFrom?
    rw [hfile, htex, hd.output, hd.others "bib" (by decide), hd.others "config" (by decide),
      ← Option.some.inj hc]
    rfl
  | process =>
    obtain ⟨tree, htree, hmake⟩ := Option.bind_eq_some_iff.1 hmake
    obtain ⟨tex, htex, hc⟩ := Option.bind_eq_some_iff.1 hmake
    unfold processFrom?
    rw [hfile, htree, hd.output, hd.others "tex" (by decide), htex, hd.others "bib" (by decide),
      hd.others "abstract" (by decide), hd.others "keywords" (by decide),
      hd.others "doi" (by decide), hd.others "funding" (by decide),
      hd.others "config" (by decide), ← Option.some.inj hc]
    rfl

end Writer

theorem readCommand?_insert {name file : String} {front back : List String} {c c' : Command}
    (h : readCommand? name (front ++ back) = some c) (hwrites : c.writes = true)
    (hout : c.output? = none)
    (h' : readCommand? name (front ++ "-o" :: file :: back) = some c') : c' = c.into file := by
  obtain ⟨specs, make, hw⟩ := exists_writer h hwrites
  rw [hw.readCommand?] at h h'
  obtain ⟨g, hg, hmake⟩ := Option.bind_eq_some_iff.1 h
  obtain ⟨g', hg', hmake'⟩ := Option.bind_eq_some_iff.1 h'
  obtain ⟨⟨tex, htex⟩, houtput⟩ := hw.fields hmake
  obtain ⟨⟨tex', htex'⟩, -⟩ := hw.fields hmake'
  have hd := directed_of_readArguments? hw.said hg hg' (houtput.symm.trans hout) htex htex'
  exact Option.some.inj (hmake'.symm.trans (hw.into hmake hd))

theorem readCommand?_output {name : String} {args : List String} {c : Command}
    (h : readCommand? name args = some c) (hwrites : c.writes = true) (hout : c.output? = none)
    {file : String} (hfile : file ≠ "") (hshape : shapeOf file = .positional) :
    readCommand? name ("-o" :: file :: args) = some (c.into file) := by
  obtain ⟨specs, make, hw⟩ := exists_writer h hwrites
  rw [hw.readCommand?] at h ⊢
  obtain ⟨g, hg, hmake⟩ := Option.bind_eq_some_iff.1 h
  have hnone : g.value? "output" = none := (hw.fields hmake).2.symm.trans hout
  obtain ⟨g', hg', hd⟩ := exists_directed hw.said hg hnone hfile hshape
  rw [hg']
  exact hw.into hmake hd

/-! ## 6. Command lines -/

/-- An argument in front of a command that can write a file is the name of that command, or it
    only asks for verbosity. -/
theorem ofArguments?_cons {arg : String} {args : List String} {c : Command}
    (h : Command.ofArguments? (arg :: args) = some c) (hwrites : c.writes = true) :
    (∀ rest, Command.ofArguments? (arg :: rest) = readCommand? arg rest) ∨
      ∀ rest, Command.ofArguments? (arg :: rest) = Command.ofArguments? rest := by
  unfold Command.ofArguments? at h
  split at h
  · next hshape =>
    refine Or.inl fun rest => ?_
    rw [Command.ofArguments?, hshape]
  · next hshape =>
    refine Or.inr fun rest => ?_
    rw [Command.ofArguments?, hshape]
    rfl
  · rw [← Option.some.inj h] at hwrites
    cases hwrites
  · next letters hshape =>
    split at h
    · next hletters =>
      refine Or.inr fun rest => ?_
      rw [Command.ofArguments?, hshape]
      dsimp only
      rw [hletters]
    · split at h
      · rw [← Option.some.inj h] at hwrites
        cases hwrites
      · cases h
  · cases h

/-- **Where the option for the output file can be put, the same command is asked for, and it
writes that file.** -/
theorem ofArguments?_insert {front back : List String} {file : String} {c c' : Command}
    (h : Command.ofArguments? (front ++ back) = some c) (hwrites : c.writes = true)
    (hout : c.output? = none)
    (h' : Command.ofArguments? (front ++ "-o" :: file :: back) = some c') : c' = c.into file := by
  induction front with
  | nil =>
    -- In front of the name of the command the option is not known.
    cases h'
  | cons arg front ih =>
    rw [List.cons_append] at h h'
    rcases ofArguments?_cons h hwrites with hname | hverbose
    · rw [hname] at h h'
      exact readCommand?_insert h hwrites hout h'
    · rw [hverbose] at h h'
      exact ih h h'

/-- **There is a place for the option for the output file**: right behind the name of the
command. -/
theorem exists_ofArguments?_insert {args : List String} {c : Command}
    (h : Command.ofArguments? args = some c) (hwrites : c.writes = true)
    (hout : c.output? = none) :
    ∃ front back, args = front ++ back ∧ ∀ file, file ≠ "" → shapeOf file = .positional →
      Command.ofArguments? (front ++ "-o" :: file :: back) = some (c.into file) := by
  induction args with
  | nil => cases h
  | cons arg args ih =>
    rcases ofArguments?_cons h hwrites with hname | hverbose
    · rw [hname] at h
      refine ⟨[arg], args, rfl, fun file hfile hshape => ?_⟩
      rw [List.singleton_append, hname]
      exact readCommand?_output h hwrites hout hfile hshape
    · rw [hverbose] at h
      obtain ⟨front, back, heq, hinsert⟩ := ih h
      refine ⟨arg :: front, back, congrArg (arg :: ·) heq, fun file hfile hshape => ?_⟩
      rw [List.cons_append, hverbose]
      exact hinsert file hfile hshape

end Galley.CommandLine
