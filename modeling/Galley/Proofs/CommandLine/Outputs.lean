import Galley.Proofs.CommandLine.OutputOption
import Galley.Proofs.Files.Writing

/-!
# Printing and writing

What a command gives does not depend on where it goes. So the same command line with an output
file does the same as without, only that the file gets what was printed before. A run that fails
leaves no trace in either case, since nothing is written before everything else has gone well.
Main statement: `outputs_agree`.
-/

namespace Galley.CommandLine

open Galley.Files

/-! ## 1. Ends of runs -/

/-- The run fails, prints nothing and leaves all files as they are. -/
structure Outcome.Fails (fs : Files) (o : Outcome) : Prop where
  code : o.code = 1
  stdout : o.stdout = ""
  files : o.files = fs

/-- The run prints the content with a line feed and leaves all files as they are. -/
structure Outcome.Prints (fs : Files) (content : String) (o : Outcome) : Prop where
  code : o.code = 0
  stdout : o.stdout = content ++ "\n"
  files : o.files = fs

/-- The run prints nothing, leaves the content at the path and changes no other file. -/
structure Outcome.Writes (fs : Files) (path content : String) (o : Outcome) : Prop where
  code : o.code = 0
  stdout : o.stdout = ""
  written : o.files.read path = .ok content.toUTF8
  named : ∀ name, fs.target? path = some name → o.files.get? name = some content.toUTF8
  others : ∀ name, fs.target? path ≠ some name → o.files.get? name = fs.get? name

theorem fails_failed (fs : Files) (cause : Failure) : (Outcome.failed fs cause).Fails fs :=
  ⟨rfl, rfl, rfl⟩

theorem prints_deliver (fs : Files) (content : String) :
    (deliver fs none content).Prints fs content :=
  ⟨rfl, rfl, rfl⟩

/-- **What is written where a file can be written is there.** -/
theorem writes_deliver {fs : Files} {path name : String} (h : fs.target? path = some name)
    (content : String) : (deliver fs (some path) content).Writes fs path content := by
  have hdeliver : deliver fs (some path) content =
      ⟨0, "", none, fs.insert name content.toUTF8⟩ := by
    unfold deliver
    dsimp only
    rw [write_of_target? h]
  rw [hdeliver]
  refine ⟨rfl, rfl, read_insert_of_target? h _, fun other hother => ?_, fun other hother => ?_⟩
  · rw [← Option.some.inj (h.symm.trans hother)]
    exact Dict.get?_insert_self fs name _
  · refine Dict.get?_insert_of_ne fs (fun he => hother ?_) _
    rw [he]
    exact h

/-- Where no file can be written nothing changes. -/
theorem fails_deliver {fs : Files} {path : String} (h : fs.target? path = none)
    (content : String) : (deliver fs (some path) content).Fails fs := by
  obtain ⟨fault, hfault⟩ := write_of_not_target? h content.toUTF8
  unfold deliver
  dsimp only
  rw [hfault]
  exact fails_failed fs (.file fault)

/-! ## 2. A command with an output file -/

/-- **An output file has no part in what a command gives.** -/
theorem text_into (read : FileReader) (file : String) (c : Command) :
    (c.into file).text read = c.text read := by
  cases c <;> rfl

theorem output?_into {c : Command} (h : c.writes = true) (file : String) :
    (c.into file).output? = some file := by
  cases c with
  | clean => rfl
  | process => rfl
  | citations => cases h
  | version => cases h

/-! ## 3. Command lines -/

/-- The second command line is the first one with an output file, where it can be put. -/
structure WithOutput (args : List String) (file : String) (args' : List String) : Prop where
  inserted : ∃ front back, args = front ++ back ∧ args' = front ++ "-o" :: file :: back
  accepted : (Command.ofArguments? args').isSome = true

theorem run_of_ofArguments? {args : List String} {c : Command}
    (h : Command.ofArguments? args = some c) (fs : Files) : run fs args = c.run fs := by
  unfold run
  rw [h]

theorem WithOutput.run {args args' : List String} {file : String} {c : Command}
    (h : WithOutput args file args') (hc : Command.ofArguments? args = some c)
    (hwrites : c.writes = true) (hout : c.output? = none) (fs : Files) :
    CommandLine.run fs args' = (c.into file).run fs := by
  obtain ⟨⟨front, back, hargs, hargs'⟩, haccepted⟩ := h
  obtain ⟨c', hc'⟩ := Option.isSome_iff_exists.1 haccepted
  rw [run_of_ofArguments? hc']
  rw [hargs] at hc
  rw [hargs'] at hc'
  rw [ofArguments?_insert hc hwrites hout hc']

/-- **The same command line with and without an output file.** Either both fail, or one prints
what the other writes. No other file is changed, and none at all by a run that fails. Every name
that is not taken for an option can be given. -/
theorem outputs_agree {args : List String} {c : Command}
    (hc : Command.ofArguments? args = some c) (hwrites : c.writes = true)
    (hout : c.output? = none) (fs : Files) :
    (∀ file, file ≠ "" → shapeOf file = .positional → ∃ args', WithOutput args file args') ∧
    ((run fs args).Fails fs ∧
        (∀ file args', WithOutput args file args' → (run fs args').Fails fs) ∨
      ∃ content, (run fs args).Prints fs content ∧
        ∀ file args', WithOutput args file args' →
          ((fs.target? file).isSome → (run fs args').Writes fs file content) ∧
          (fs.target? file = none → (run fs args').Fails fs)) := by
  refine ⟨fun file hfile hshape => ?_, ?_⟩
  · obtain ⟨front, back, hargs, hinsert⟩ := exists_ofArguments?_insert hc hwrites hout
    refine ⟨front ++ "-o" :: file :: back, ⟨front, back, hargs, rfl⟩, ?_⟩
    rw [hinsert file hfile hshape]
    rfl
  · rw [run_of_ofArguments? hc]
    have hrun : ∀ {file args'}, WithOutput args file args' →
        run fs args' = (c.into file).run fs := fun h => h.run hc hwrites hout fs
    cases htext : c.text fs.read with
    | error cause =>
      have hfails : ∀ c' : Command, c'.text fs.read = .error cause → (c'.run fs).Fails fs := by
        intro c' hc'
        unfold Command.run
        rw [hc']
        exact fails_failed fs cause
      refine Or.inl ⟨hfails c htext, fun file args' h => ?_⟩
      rw [hrun h]
      exact hfails _ ((text_into _ _ _).trans htext)
    | ok text =>
      have hdeliver : ∀ c' : Command, c'.text fs.read = .ok text →
          c'.run fs = deliver fs c'.output? text.value := by
        intro c' hc'
        unfold Command.run
        rw [hc']
      refine Or.inr ⟨text.value, ?_, fun file args' h => ?_⟩
      · rw [hdeliver c htext, hout]
        exact prints_deliver fs text.value
      · rw [hrun h, hdeliver _ ((text_into _ _ _).trans htext), output?_into hwrites]
        refine ⟨fun htarget => ?_, fun htarget => fails_deliver htarget _⟩
        obtain ⟨name, hname⟩ := Option.isSome_iff_exists.1 htarget
        exact writes_deliver hname _

/-- The source of a paper with one figure. -/
def paperFiles : Files :=
  Dict.ofList [("paper.tex", "\\begin\x7bfigure*\x7d\\end\x7bfigure*\x7d".toUTF8)]

/-- The clean form of that source. -/
def cleanPaper : String := "\\begin\x7bfigure\x7d\\end\x7bfigure\x7d"

theorem outputs_agree_cleanPaper :
    Command.ofArguments? ["clean", "paper.tex"] = some (.clean "paper.tex" none none none) ∧
      (run paperFiles ["clean", "paper.tex"]).Prints paperFiles cleanPaper ∧
      (run paperFiles ["clean", "paper.tex", "-o", "out/../clean.tex"]).Fails paperFiles ∧
      (run paperFiles ["clean", "-o", "./clean.tex", "paper.tex"]).Writes paperFiles "./clean.tex"
        cleanPaper := by
  have hc : Command.ofArguments? ["clean", "paper.tex"] =
      some (.clean "paper.tex" none none none) := rfl
  have hbehind : WithOutput ["clean", "paper.tex"] "out/../clean.tex"
      ["clean", "paper.tex", "-o", "out/../clean.tex"] :=
    ⟨⟨["clean", "paper.tex"], [], rfl, rfl⟩, rfl⟩
  have hbetween : WithOutput ["clean", "paper.tex"] "./clean.tex"
      ["clean", "-o", "./clean.tex", "paper.tex"] :=
    ⟨⟨["clean"], ["paper.tex"], rfl, rfl⟩, rfl⟩
  have hprinted : (run paperFiles ["clean", "paper.tex"]).stdout = cleanPaper ++ "\n" := by
    decide +kernel
  obtain ⟨-, ⟨hfails, -⟩ | ⟨content, hprints, hwritten⟩⟩ := outputs_agree hc rfl rfl paperFiles
  · exact absurd hfails.code (by decide +kernel)
  · have hcontent : content = cleanPaper :=
      (String.append_left_inj "\n").1 (hprints.stdout.symm.trans hprinted)
    rw [hcontent] at hprints hwritten
    exact ⟨hc, hprints, (hwritten _ _ hbehind).2 (by decide +kernel),
      (hwritten _ _ hbetween).1 (by decide +kernel)⟩

end Galley.CommandLine
