import Galley.Files.Basic

/-!
# Reading what was written

A path leads to a file by its steps, through directories that are there. Writing a file changes
no directory: those above a file that is written were there before, since the path went through
them. So the path leads to the written file again, and what is read there is what was written.
Main statement: `read_insert_of_target?`.
-/

namespace Galley.Files

/-! ## 1. Steps of a path -/

/-- One step of a path: a name without slashes. -/
structure IsStep (s : String) : Prop where
  nonempty : s ≠ ""
  slash : '/' ∉ s.toList

/-- The pieces between separators hold none. -/
theorem not_separator_of_mem_piece {p : Char → Bool} {cs piece : List Char}
    (h : piece ∈ cs.splitOnP p) : ∀ c ∈ piece, p c = false := by
  induction cs generalizing piece with
  | nil =>
    have hnil : piece = [] := by simpa [List.splitOnP_nil] using h
    rw [hnil]
    exact fun c hc => absurd hc List.not_mem_nil
  | cons d cs ih =>
    rw [List.splitOnP_cons_eq_if_modifyHead] at h
    by_cases hd : p d = true
    · rw [if_pos hd] at h
      rcases List.mem_cons.1 h with hnil | h
      · rw [hnil]
        exact fun c hc => absurd hc List.not_mem_nil
      · exact ih h
    · rw [if_neg hd] at h
      obtain ⟨first, rest, hcs⟩ := List.exists_cons_of_ne_nil (List.splitOnP_ne_nil p cs)
      rw [hcs, List.modifyHead_cons] at h
      rw [hcs] at ih
      rcases List.mem_cons.1 h with hfirst | h
      · intro c hc
        rw [hfirst] at hc
        rcases List.mem_cons.1 hc with hc | hc
        · rw [hc]
          exact Bool.eq_false_iff.2 hd
        · exact ih List.mem_cons_self c hc
      · exact ih (List.mem_cons_of_mem _ h)

theorem isStep_of_mem_steps {path s : String} (h : s ∈ steps path) : IsStep s := by
  unfold steps at h
  obtain ⟨hmem, hne⟩ := List.mem_filter.1 h
  obtain ⟨piece, hpiece, hs⟩ := List.mem_map.1 hmem
  refine ⟨by simpa using hne, fun hslash => ?_⟩
  rw [← hs, String.toList_ofList] at hslash
  exact absurd (not_separator_of_mem_piece hpiece '/' hslash) (by decide)

/-- **A path of steps has these steps.** -/
theorem steps_ofSteps {names : List String} (h : ∀ s ∈ names, IsStep s) :
    steps (ofSteps names) = names := by
  by_cases hnil : names = []
  · rw [hnil]
    rfl
  · have hslash : ∀ piece ∈ names.map String.toList, '/' ∉ piece := by
      intro piece hpiece
      obtain ⟨s, hs, rfl⟩ := List.mem_map.1 hpiece
      exact (h s hs).slash
    have hsplit := List.splitOn_intercalate '/' hslash fun he => hnil (List.map_eq_nil_iff.1 he)
    have hpath : (ofSteps names).toList = ['/'].intercalate (names.map String.toList) := by
      unfold ofSteps
      rw [String.toList_intercalate]
      rfl
    have hpieces : (ofSteps names).toList.splitOnP (fun c => c = '/') =
        names.map String.toList := by
      rw [hpath]
      exact hsplit
    unfold steps
    rw [hpieces, List.map_map, List.filter_eq_self.2]
    · exact List.map_id'' (fun s => String.ofList_toList) names
    · intro s hs
      obtain ⟨t, ht, hts⟩ := List.mem_map.1 hs
      have hst : t = s := String.ofList_toList.symm.trans hts
      simpa [← hst] using (h t ht).nonempty

/-! ## 2. Directories -/

/-- Steps that lead through directories. -/
structure Through (fs : Files) (here : List String) : Prop where
  steps : ∀ s ∈ here, IsStep s
  directories : ∀ k, fs.isDirectory (ofSteps (here.take k)) = true

theorem through_nil (fs : Files) : Through fs [] where
  steps := List.forall_mem_nil _
  directories k := by
    rw [List.take_nil]
    rfl

theorem Through.dropLast {fs : Files} {here : List String} (h : Through fs here) :
    Through fs here.dropLast where
  steps s hs := h.steps s (List.dropLast_subset here hs)
  directories k := by
    rw [List.dropLast_eq_take, List.take_take]
    exact h.directories _

theorem Through.concat {fs : Files} {here : List String} (h : Through fs here) {s : String}
    (hs : IsStep s) (hdir : fs.isDirectory (ofSteps (here ++ [s])) = true) :
    Through fs (here ++ [s]) where
  steps t ht := by
    rcases List.mem_append.1 ht with ht | ht
    · exact h.steps t ht
    · rw [List.mem_singleton.1 ht]
      exact hs
  directories k := by
    by_cases hk : k ≤ here.length
    · rw [List.take_append_of_le_length hk]
      exact h.directories k
    · rw [List.take_of_length_le (by simp; omega)]
      exact hdir

/-- **A file below directories that are there adds no directory.** -/
theorem isDirectory_insert {fs : Files} {here : List String} (h : Through fs here) {s : String}
    (hs : IsStep s) (bytes : ByteArray) (path : String) :
    isDirectory (fs.insert (ofSteps (here ++ [s])) bytes) path = fs.isDirectory path := by
  have habove : ∀ above ∈ ancestors (ofSteps (here ++ [s])), fs.isDirectory above = true := by
    have hsteps : steps (ofSteps (here ++ [s])) = here ++ [s] := by
      refine steps_ofSteps fun t ht => ?_
      rcases List.mem_append.1 ht with ht | ht
      · exact h.steps t ht
      · rw [List.mem_singleton.1 ht]
        exact hs
    intro above ha
    unfold ancestors at ha
    rw [hsteps, List.length_append, List.length_singleton, Nat.add_sub_cancel] at ha
    obtain ⟨n, hn, rfl⟩ := List.mem_map.1 ha
    have hlt : n < here.length := List.mem_range.1 hn
    rw [List.take_append_of_le_length (by omega)]
    exact h.directories (n + 1)
  by_cases hmem : ofSteps (here ++ [s]) ∈ fs.keys
  · unfold isDirectory
    rw [Dict.keys_insert_of_mem hmem]
  · by_cases hpath : path ∈ ancestors (ofSteps (here ++ [s]))
    · rw [habove path hpath]
      unfold isDirectory
      rw [Dict.keys_insert_of_not_mem hmem, List.any_append]
      simp [hpath]
    · unfold isDirectory
      rw [Dict.keys_insert_of_not_mem hmem, List.any_append]
      simp [hpath]

/-! ## 3. The file at a path -/

/-- The steps `rest` lead from the directory `here` to the file `name`, which may be there or not. -/
inductive Leads (fs : Files) (name : String) : List String → List String → Prop where
  | stay {here rest : List String} (h : Leads fs name here rest) :
      Leads fs name here ("." :: rest)
  | up {here rest : List String} (h : Leads fs name here.dropLast rest) :
      Leads fs name here (".." :: rest)
  | into {here rest : List String} {s : String} (hsize : s.utf8ByteSize ≤ maxStepSize)
      (hstay : s ≠ ".") (hup : s ≠ "..")
      (hdir : fs.isDirectory (ofSteps (here ++ [s])) = true)
      (h : Leads fs name (here ++ [s]) rest) : Leads fs name here (s :: rest)
  | arrive {here : List String} {s : String} (hsize : s.utf8ByteSize ≤ maxStepSize)
      (hstay : s ≠ ".") (hup : s ≠ "..")
      (hdir : fs.isDirectory (ofSteps (here ++ [s])) = false)
      (hname : name = ofSteps (here ++ [s])) : Leads fs name here [s]

/-- What stands under a name. -/
def placeOf (fs : Files) (name : String) : Place :=
  match fs.get? name with
  | some bytes => .file name bytes
  | none => .free name

/-- The place of a file that may be there or not. -/
def Place.IsAt (name : String) (place : Place) : Prop :=
  place = .free name ∨ ∃ bytes, place = .file name bytes

theorem Leads.walk {fs : Files} {name : String} {here rest : List String}
    (h : Leads fs name here rest) : walk fs here rest = .ok (fs.placeOf name) := by
  induction h with
  | stay _ ih =>
    unfold Files.walk
    rw [if_neg (by decide), if_pos rfl]
    exact ih
  | up _ ih =>
    unfold Files.walk
    rw [if_neg (by decide), if_neg (by decide), if_pos rfl]
    exact ih
  | into hsize hstay hup hdir _ ih =>
    unfold Files.walk
    rw [if_neg (Nat.not_lt.2 hsize), if_neg hstay, if_neg hup]
    exact (if_pos hdir).trans ih
  | arrive hsize hstay hup hdir hname =>
    unfold Files.walk placeOf
    rw [if_neg (Nat.not_lt.2 hsize), if_neg hstay, if_neg hup, hname]
    refine (if_neg (by simp [hdir])).trans ?_
    cases fs.get? (ofSteps _) <;> rfl

/-- Whatever stands at a name, the steps lead to it when they end there. -/
theorem leads_of_walk {fs : Files} {name : String} {here rest : List String} {place : Place}
    (hwalk : walk fs here rest = .ok place) (hplace : place.IsAt name) :
    Leads fs name here rest := by
  induction rest generalizing here with
  | nil =>
    have hdirectory : place = .directory := (Except.ok.inj hwalk).symm
    rw [hdirectory] at hplace
    rcases hplace with hplace | ⟨bytes, hplace⟩
    · cases hplace
    · cases hplace
  | cons s rest ih =>
    unfold walk at hwalk
    extract_lets there path at hwalk
    split at hwalk
    · cases hwalk
    · next hsize =>
      split at hwalk
      · next hstay =>
        rw [hstay]
        exact .stay (ih hwalk)
      · next hstay =>
        split at hwalk
        · next hup =>
          rw [hup]
          exact .up (ih hwalk)
        · next hup =>
          split at hwalk
          · next hdir => exact .into (Nat.not_lt.1 hsize) hstay hup hdir (ih hwalk)
          · next hdir =>
            have harrive : name = path → rest = [] → Leads fs name here (s :: rest) := by
              intro hname hrest
              rw [hrest]
              exact .arrive (Nat.not_lt.1 hsize) hstay hup (by simpa using hdir) hname
            split at hwalk
            · rw [← Except.ok.inj hwalk] at hplace
              rcases hplace with hplace | ⟨bytes, hplace⟩
              · cases hplace
              · exact harrive (Place.file.inj hplace).1.symm rfl
            · cases hwalk
            · rw [← Except.ok.inj hwalk] at hplace
              rcases hplace with hplace | ⟨bytes, hplace⟩
              · exact harrive (Place.free.inj hplace).symm rfl
              · cases hplace
            · cases hwalk

/-- Only the directories say where steps lead. -/
theorem Leads.congr {fs fs' : Files} (hdir : ∀ path, fs'.isDirectory path = fs.isDirectory path)
    {name : String} {here rest : List String} (h : Leads fs name here rest) :
    Leads fs' name here rest := by
  induction h with
  | stay _ ih => exact .stay ih
  | up _ ih => exact .up ih
  | into hsize hstay hup hd _ ih => exact .into hsize hstay hup ((hdir _).trans hd) ih
  | arrive hsize hstay hup hd hname => exact .arrive hsize hstay hup ((hdir _).trans hd) hname

/-- **Steps lead to a file through directories that are there.** -/
theorem Leads.exists_above {fs : Files} {name : String} {here rest : List String}
    (h : Leads fs name here rest) (hhere : Through fs here) (hrest : ∀ s ∈ rest, IsStep s) :
    ∃ above s, Through fs above ∧ IsStep s ∧ name = ofSteps (above ++ [s]) := by
  induction h with
  | stay _ ih => exact ih hhere (List.forall_mem_cons.1 hrest).2
  | up _ ih => exact ih hhere.dropLast (List.forall_mem_cons.1 hrest).2
  | into _ _ _ hdir _ ih =>
    obtain ⟨hs, hrest⟩ := List.forall_mem_cons.1 hrest
    exact ih (hhere.concat hs hdir) hrest
  | arrive _ _ _ _ hname => exact ⟨_, _, hhere, hrest _ List.mem_cons_self, hname⟩

/-! ## 4. Writing -/

/-- The name of the file that is written at a path; none where no file can be written. -/
def target? (fs : Files) (path : String) : Option String :=
  match fs.place path with
  | .ok (.file name _) | .ok (.free name) => if endsInSlash path then none else some name
  | .ok .directory | .error _ => none

theorem exists_place_of_target? {fs : Files} {path name : String}
    (h : fs.target? path = some name) :
    endsInSlash path = false ∧ ∃ place, fs.place path = .ok place ∧ place.IsAt name := by
  unfold target? at h
  split at h
  · next there bytes hplace =>
    split at h
    · cases h
    · next hslash =>
      refine ⟨by simpa using hslash, _, hplace, Or.inr ⟨bytes, ?_⟩⟩
      rw [Option.some.inj h]
  · next there hplace =>
    split at h
    · cases h
    · next hslash =>
      refine ⟨by simpa using hslash, _, hplace, Or.inl ?_⟩
      rw [Option.some.inj h]
  · cases h
  · cases h

theorem write_of_target? {fs : Files} {path name : String} (h : fs.target? path = some name)
    (bytes : ByteArray) : fs.write path bytes = .ok (fs.insert name bytes) := by
  obtain ⟨hslash, place, hplace, hat⟩ := exists_place_of_target? h
  unfold write
  rw [hplace]
  rcases hat with hat | ⟨old, hat⟩
  · rw [hat]
    exact if_neg (by simp [hslash])
  · rw [hat]
    exact if_neg (by simp [hslash])

theorem write_of_not_target? {fs : Files} {path : String} (h : fs.target? path = none)
    (bytes : ByteArray) : ∃ fault, fs.write path bytes = .error fault := by
  unfold target? at h
  unfold write
  split at h
  · next there old hplace =>
    rw [hplace]
    split at h
    · next hslash => exact ⟨.isDirectory, if_pos hslash⟩
    · cases h
  · next there hplace =>
    rw [hplace]
    split at h
    · next hslash => exact ⟨.isDirectory, if_pos hslash⟩
    · cases h
  · next hplace =>
    rw [hplace]
    exact ⟨.isDirectory, rfl⟩
  · next fault hplace =>
    rw [hplace]
    exact ⟨fault, rfl⟩

/-- What leads to a file leads to what was written there. -/
theorem place_insert {fs : Files} {path name : String} {place : Place}
    (hplace : fs.place path = .ok place) (hat : place.IsAt name) (bytes : ByteArray) :
    Files.place (fs.insert name bytes) path = .ok (.file name bytes) := by
  unfold Files.place at hplace ⊢
  split at hplace
  · cases hplace
  · next hempty =>
    split at hplace
    · cases hplace
    · next hsize =>
      have hleads := leads_of_walk hplace hat
      obtain ⟨above, s, habove, hs, hname⟩ :=
        hleads.exists_above (through_nil fs) fun _ => isStep_of_mem_steps
      have hdir := isDirectory_insert habove hs bytes
      rw [← hname] at hdir
      have hwalk := (hleads.congr hdir).walk
      unfold placeOf at hwalk
      rw [Dict.get?_insert_self] at hwalk
      rw [if_neg hempty, if_neg hsize]
      exact hwalk

/-- **What is read where a file was written is what was written.** -/
theorem read_insert_of_target? {fs : Files} {path name : String}
    (h : fs.target? path = some name) (bytes : ByteArray) :
    Files.read (fs.insert name bytes) path = .ok bytes := by
  obtain ⟨hslash, place, hplace, hat⟩ := exists_place_of_target? h
  unfold Files.read
  rw [place_insert hplace hat bytes]
  exact if_neg (by simp [hslash])

end Galley.Files
