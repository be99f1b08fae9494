import IdlBuild.Proofs.CommandLine.Spellings
import IdlBuild.Proofs.Inputs.Continuation

/-!
# Lists behind one another

A list of inputs behind another one, a comma between them, stands for the files of the first and
those of the second that are new (`selectInputs_append`). The entry that ends a selection is the
first that does not exist, unless the working directory has been removed and one in front of it has
to be made absolute (`exists_refused`).
-/

namespace IdlBuild

open CommandLine FileSystem
open Text (encode fields)

/-! ### Lists with a comma between them -/

theorem commaList_append (as bs : String) :
    commaList (as ++ "," ++ bs) = commaList as ++ commaList bs := by
  have hchars : (as ++ "," ++ bs).toList = as.toList ++ ',' :: bs.toList := by
    rw [String.toList_append, String.toList_append, List.append_assoc]
    rfl
  simp only [commaList, hchars, Text.fields_append, List.map_append, List.filter_append]

/-- What two selections come to when one goes on behind the other: the failure of the first that
fails, or the files of the first and those of the second that are not among them. -/
def joined : (first second : Except Failure (List InputFile)) → Except Failure (List InputFile)
  | .error failure, _ => .error failure
  | .ok front, second => second.map (merged front)

theorem joined_self (selected : Except Failure (List InputFile)) :
    joined selected selected = selected := by
  cases selected with
  | error failure => rfl
  | ok files => exact congrArg Except.ok (merged_self files)

section Selections

variable {fs : FileSystem} {exclusions : Exclusions} {finding : Finding} {input inputs : String}
  {journal : Journal} {failure : Failure}

theorem selectInputs_append (fs : FileSystem) (exclusions : Exclusions) {as bs : String}
    (hlist : commaList inputs = commaList as ++ commaList bs)
    (journal journal' journal'' : Journal) :
    (selectInputs fs inputs exclusions journal).1 =
      joined (selectInputs fs as exclusions journal').1
        (selectInputs fs bs exclusions journal'').1 := by
  have hfirst := selectInputs_from fs exclusions as journal'
    ⟨[], journal.add .debug s!"Tokenizing idl-files={inputs}"⟩
  rw [selectInputs_fst, hlist, inTurn_append]
  generalize inTurn (considerInput fs exclusions)
    ⟨[], journal.add .debug s!"Tokenizing idl-files={inputs}"⟩ (commaList as) = run at hfirst ⊢
  rcases run with ⟨failure | ⟨⟩, middle⟩
  · cases hselected : (selectInputs fs as exclusions journal').1 with
    | error failure' =>
      rw [hselected] at hfirst
      exact hfirst
    | ok files =>
      rw [hselected] at hfirst
      cases hfirst
  · cases hselected : (selectInputs fs as exclusions journal').1 with
    | error failure =>
      rw [hselected] at hfirst
      cases hfirst
    | ok files =>
      rw [hselected, Except.map, merged_nil] at hfirst
      -- The second list goes on behind the files of the first.
      have hfiles : middle.files = files := Except.ok.inj hfirst
      dsimp only
      rw [selectInputs_from fs exclusions bs journal'', hfiles]
      rfl

/-! ### Where a selection ends -/

/-- Why an entry of a list ends a selection: it is not there, or the working directory that a file
is to be made absolute with has been removed. -/
inductive Refused (fs : FileSystem) (input : String) : Failure → Prop where
  | missing (h : fs.pathExists (.ofText input) = false) :
      Refused fs input (.missingInput (.ofText input))
  | unresolved {p : Path} (h : fs.pathExists (.ofText input) = true)
      (hlost : IsLost fs.workingDirectory) (hrelative : p.isAbsolute = false)
      (hp : p = .ofText input ∨ .entry p .file ∈ fs.walkBelow (.ofText input)) :
      Refused fs input (.operation s!"resolve {p.text}" .noSuchEntry)

theorem lost_of_absolute {p : Path} {fault : IoFault} (hne : p.bytes ≠ [])
    (h : fs.absolute p = .error fault) :
    p.isAbsolute = false ∧ IsLost fs.workingDirectory ∧ fault = .noSuchEntry := by
  unfold absolute at h
  rw [List.isEmpty_eq_false_iff.2 hne, if_neg Bool.false_ne_true] at h
  split_ifs at h with habsolute hlost
  cases h
  exact ⟨by simpa using habsolute, hlost, rfl⟩

theorem exists_of_addPath_error {p : Path} (hne : p.bytes ≠ [])
    (h : (finding.addPath fs p).1 = .error failure) :
    p.isAbsolute = false ∧ IsLost fs.workingDirectory ∧
      failure = .operation s!"resolve {p.text}" .noSuchEntry := by
  unfold Finding.addPath InputFile.ofPath at h
  rcases habsolute : fs.absolute p with fault | absolute
  · rw [habsolute] at h
    obtain ⟨hrelative, hlost, rfl⟩ := lost_of_absolute hne habsolute
    exact ⟨hrelative, hlost, (Except.error.inj h).symm⟩
  · rw [habsolute] at h
    cases h

theorem refused_of_considerInput
    (h : (considerInput fs exclusions finding input).1 = .error failure) :
    Refused fs input failure := by
  rcases hstatus : fs.status (.ofText input) with fault | ⟨location, node⟩
  · rw [considerInput_of_missing hstatus] at h
    cases h
    exact .missing (by simp [pathExists, hstatus, Except.toBool])
  have hexists : fs.pathExists (.ofText input) = true := by simp [pathExists, hstatus, Except.toBool]
  by_cases hdirectory : node = .directory
  · subst hdirectory
    rw [considerInput_of_directory hstatus] at h
    obtain ⟨front, visit, rest, middle, hvisits, -, hfailed⟩ := exists_of_inTurn_error h
    have hmem : visit ∈ fs.walkBelow (.ofText input) := by simp [hvisits]
    -- Only a visit that is taken makes a path absolute; the others never fail.
    by_cases htaken : ∃ p, IsTaken exclusions visit p
    · obtain ⟨p, hp⟩ := htaken
      rw [considerVisit_taken hp] at hfailed
      rw [hp.1] at hmem
      have hne : p.bytes ≠ [] := by
        obtain ⟨directory, opened, name, hopen, hfile, rfl⟩ := mem_walkBelow_iff.1 hmem
        obtain ⟨found, hnode⟩ := hfile.exists_node
        exact Path.bytes_join_ne_nil _ (isName_of_node hnode).1.1
      obtain ⟨hrelative, hlost, rfl⟩ := exists_of_addPath_error hne hfailed
      exact .unresolved hexists hlost hrelative (Or.inr hmem)
    · rw [(considerVisit_passed (not_exists.1 htaken)).1] at hfailed
      cases hfailed
  · rw [considerInput_of_named hstatus hdirectory] at h
    obtain ⟨start, hstart, -⟩ := status_eq_ok hstatus
    obtain ⟨hrelative, hlost, rfl⟩ := exists_of_addPath_error (start_eq_ok_iff.1 hstart).2.1 h
    exact .unresolved hexists hlost hrelative (Or.inl rfl)

theorem pathExists_of_isSelectable (h : IsSelectable fs exclusions input) :
    fs.pathExists (.ofText input) = true := by
  unfold IsSelectable at h
  rcases hstatus : fs.status (.ofText input) with fault | found
  · rw [hstatus] at h
    exact h.elim
  · simp [pathExists, hstatus, Except.toBool]

/-- With a working directory every entry that exists can be taken. -/
theorem isSelectable_of_pathExists (hkept : ¬ IsLost fs.workingDirectory)
    (h : fs.pathExists (.ofText input) = true) : IsSelectable fs exclusions input := by
  rw [← considerInput_ok_iff fs exclusions ⟨[], .empty⟩ input]
  rcases hresult : (considerInput fs exclusions ⟨[], .empty⟩ input).1 with failure | ⟨⟩
  · cases refused_of_considerInput hresult with
    | missing hmissing =>
      rw [h] at hmissing
      cases hmissing
    | unresolved _ hlost => exact absurd hlost hkept
  · rfl

/-- A selection that fails does so at an entry in front of which all exist. -/
theorem exists_refused (h : (selectInputs fs inputs exclusions journal).1 = .error failure) :
    ∃ front input rest, commaList inputs = front ++ input :: rest ∧
      (∀ earlier ∈ front, fs.pathExists (.ofText earlier) = true) ∧ Refused fs input failure := by
  rw [selectInputs_fst, filesOf] at h
  rcases hrun : (inTurn (considerInput fs exclusions)
      ⟨[], journal.add .debug s!"Tokenizing idl-files={inputs}"⟩ (commaList inputs)).1 with
    failure' | ⟨⟩
  · rw [hrun] at h
    cases h
    obtain ⟨front, input, rest, middle, hlist, hfront, hfailed⟩ := exists_of_inTurn_error hrun
    refine ⟨front, input, rest, hlist, fun earlier hmem => ?_, refused_of_considerInput hfailed⟩
    have hselectable := (inTurn_ok_iff (considerInput_ok_iff fs exclusions) front _).1
      (congrArg Prod.fst hfront)
    exact pathExists_of_isSelectable (hselectable earlier hmem)
  · rw [hrun] at h
    cases h

theorem exists_failure_of_missing (hmem : input ∈ commaList inputs)
    (hmissing : fs.pathExists (.ofText input) = false) :
    ∃ failure, (selectInputs fs inputs exclusions journal).1 = .error failure := by
  rcases hresult : (selectInputs fs inputs exclusions journal).1 with failure | files
  · exact ⟨failure, rfl⟩
  · have hexists := pathExists_of_isSelectable (selectInputs_ok_iff.1 ⟨files, hresult⟩ input hmem)
    rw [hmissing] at hexists
    cases hexists

/-- With a working directory, the failure names the first entry that does not exist. -/
theorem selectInputs_missing (hkept : ¬ IsLost fs.workingDirectory) {front rest : List String}
    (hlist : commaList inputs = front ++ input :: rest)
    (hfront : ∀ earlier ∈ front, fs.pathExists (.ofText earlier) = true)
    (hmissing : fs.pathExists (.ofText input) = false) :
    (selectInputs fs inputs exclusions journal).1 = .error (.missingInput (.ofText input)) := by
  have hok := (inTurn_ok_iff (considerInput_ok_iff fs exclusions) front
    ⟨[], journal.add .debug s!"Tokenizing idl-files={inputs}"⟩).2 fun earlier hmem =>
      isSelectable_of_pathExists hkept (hfront earlier hmem)
  rw [selectInputs_fst, hlist, inTurn_append]
  generalize inTurn (considerInput fs exclusions)
    ⟨[], journal.add .debug s!"Tokenizing idl-files={inputs}"⟩ front = run at hok ⊢
  rcases run with ⟨failure | ⟨⟩, middle⟩
  · cases hok
  · simp only [inTurn_cons, considerInput, hmissing]
    rfl

end Selections

/-! ### Inputs of a command line -/

/-- A command line that gives its inputs in one argument, with commas between them. -/
theorem toSettings_intercalated (fs : FileSystem) {o : Choices} (hne : o.inputs ≠ []) :
    o.toSettings fs = { o with inputs := [",".intercalate o.inputs] }.toSettings fs := by
  have happly : o.applyTo = { o with inputs := [",".intercalate o.inputs] }.applyTo := by
    funext settings
    have hsingle : ",".intercalate [",".intercalate o.inputs] = ",".intercalate o.inputs := rfl
    simp only [Choices.applyTo, if_neg hne, if_neg (List.cons_ne_nil _ _), hsingle]
  unfold Choices.toSettings
  rw [happly]

/-! ### Lists behind one another -/

/-- Selections go on behind one another: a list that follows another one adds what it adds alone,
less what was found before, so that a list that is repeated adds nothing. A selection fails at the
first entry that does not exist; only in a removed working directory it may fail before, at an entry
that exists and has to be made absolute. Inputs that are given in several arguments mean what they
mean in one, with commas between them. -/
theorem selectInputs_concatenated (fs : FileSystem) (exclusions : Exclusions) :
    (∀ as bs journal journal' journal'',
      (selectInputs fs (as ++ "," ++ bs) exclusions journal).1 =
        joined (selectInputs fs as exclusions journal').1
          (selectInputs fs bs exclusions journal'').1) ∧
    (∀ as journal journal',
      (selectInputs fs (as ++ "," ++ as) exclusions journal).1 =
        (selectInputs fs as exclusions journal').1) ∧
    (∀ inputs journal failure, (selectInputs fs inputs exclusions journal).1 = .error failure →
      ∃ front input rest, commaList inputs = front ++ input :: rest ∧
        (∀ earlier ∈ front, fs.pathExists (.ofText earlier) = true) ∧ Refused fs input failure) ∧
    (∀ inputs journal front input rest, commaList inputs = front ++ input :: rest →
      (∀ earlier ∈ front, fs.pathExists (.ofText earlier) = true) →
      fs.pathExists (.ofText input) = false →
      ∃ failure, (selectInputs fs inputs exclusions journal).1 = .error failure ∧
        (¬ IsLost fs.workingDirectory → failure = .missingInput (.ofText input))) ∧
    ∀ (o : Choices) cs cs' args args', o.inputs ≠ [] → o.Gathers cs → Written cs args →
      { o with inputs := [",".intercalate o.inputs] }.Gathers cs' → Written cs' args' →
      ∃ o', read args = .ok (.build o) ∧ read args' = .ok (.build o') ∧
        o.toSettings fs = o'.toSettings fs := by
  refine ⟨fun as bs => selectInputs_append fs exclusions (commaList_append as bs),
    fun as journal journal' => ?_, fun _ _ _ => exists_refused,
    fun inputs journal front input rest hlist hfront hmissing => ?_,
    fun o cs cs' args args' hne hgathers hwritten hgathers' hwritten' => ?_⟩
  · have hlist := commaList_append as as
    rw [selectInputs_append fs exclusions hlist journal journal' journal', joined_self]
  · have hmem : input ∈ commaList inputs := by simp [hlist]
    obtain ⟨failure, hfailure⟩ := exists_failure_of_missing hmem hmissing
    refine ⟨failure, hfailure, fun hkept => ?_⟩
    rw [selectInputs_missing hkept hlist hfront hmissing] at hfailure
    exact (Except.error.inj hfailure).symm
  · exact ⟨_, readFrom_of_gathers hgathers hwritten, readFrom_of_gathers hgathers' hwritten',
      toSettings_intercalated fs hne⟩

/-- Two files in a directory and one beside it. -/
def shelved : FileSystem :=
  FileSystem.empty
    |>.add [] "d" .directory
    |>.add ["d"] "a.idl" (.file [0x31] 0o644)
    |>.add ["d"] "b.idl" (.file [0x32] 0o644)
    |>.add [] "x.idl" (.file [0x33] 0o644)

theorem shelved_concatenated :
    (selectInputs shelved "d/b.idl, d" ⟨[]⟩ .empty).1
      = .ok [⟨⟨"/d/b.idl"⟩⟩, ⟨⟨"/d/a.idl"⟩⟩] ∧
    (selectInputs shelved "x.idl,./d" ⟨[]⟩ .empty).1
      = .ok [⟨⟨"/x.idl"⟩⟩, ⟨⟨"/d/a.idl"⟩⟩, ⟨⟨"/d/b.idl"⟩⟩] ∧
    (selectInputs shelved ("d/b.idl, d" ++ "," ++ "x.idl,./d") ⟨[]⟩ .empty).1
      = .ok [⟨⟨"/d/b.idl"⟩⟩, ⟨⟨"/d/a.idl"⟩⟩, ⟨⟨"/x.idl"⟩⟩] ∧
    ∃ failure, (selectInputs shelved "d,here,x.idl,there" ⟨[]⟩ .empty).1 = .error failure ∧
      (¬ IsLost shelved.workingDirectory → failure = .missingInput ⟨"here"⟩) := by
  have hfirst : (selectInputs shelved "d/b.idl, d" ⟨[]⟩ .empty).1
      = .ok [⟨⟨"/d/b.idl"⟩⟩, ⟨⟨"/d/a.idl"⟩⟩] := by decide +kernel
  have hsecond : (selectInputs shelved "x.idl,./d" ⟨[]⟩ .empty).1
      = .ok [⟨⟨"/x.idl"⟩⟩, ⟨⟨"/d/a.idl"⟩⟩, ⟨⟨"/d/b.idl"⟩⟩] := by decide +kernel
  obtain ⟨happend, -, -, hmissing, -⟩ := selectInputs_concatenated shelved ⟨[]⟩
  refine ⟨hfirst, hsecond, ?_, ?_⟩
  · rw [happend _ _ .empty .empty .empty, hfirst, hsecond]
    decide +kernel
  · exact hmissing _ _ ["d"] "here" ["x.idl", "there"] (by decide +kernel) (by decide +kernel)
      (by decide +kernel)

/-- A removed working directory that had a file beside it. -/
def removed : FileSystem :=
  FileSystem.empty
    |>.add [] "x.idl" (.file [0x31] 0o644)
    |>.add [] "sub" .directory
    |>.enter ["sub"]
    |>.erase ["sub"]

/-- The first entry that does not exist is not named when one in front of it cannot be made
absolute. -/
theorem removed_unresolved :
    commaList "../x.idl,missing" = ["../x.idl", "missing"] ∧
      removed.pathExists ⟨"../x.idl"⟩ = true ∧ removed.pathExists ⟨"missing"⟩ = false ∧
      (selectInputs removed "../x.idl,missing" ⟨[]⟩ .empty).1
        = .error (.operation "resolve ../x.idl" .noSuchEntry) ∧
      (selectInputs removed "../x.idl,missing" ⟨[]⟩ .empty).1
        ≠ .error (.missingInput ⟨"missing"⟩) := by
  decide +kernel

end IdlBuild
