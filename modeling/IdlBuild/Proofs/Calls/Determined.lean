import IdlBuild.Proofs.Calls.Record
import IdlBuild.Proofs.Inputs.Order
import IdlBuild.Proofs.Translators.Runs

/-!
# Steps that are determined by what they find

A step is determined when it ends alike in workspaces that are alike: nothing but the request, the
entries of the file system, the journal and the state of its callees decides what it does. Steps put
together from such steps are of that kind (`EndsAlike.bind`), so handling files is when translating
and generating are (`Toolchain.determined_handleAll`). The translators and generators that there are
have this property as long as programs have it that they start.
-/

namespace IdlBuild

open FileSystem (Alike EndAlike LeaveAlike)
open Text (Bytes)

variable {σ α β : Type}

/-! ### Steps -/

/-- Whether two workspaces hold the same, up to the order in which entries are stored. -/
structure Workspace.Alike (w w' : Workspace σ) : Prop where
  files : FileSystem.Alike w.files w'.files
  journal : w.journal = w'.journal
  callees : w.callees = w'.callees

namespace BuildM

/-- Whether a step gives the same result in two workspaces and leaves them alike. -/
structure EndsAlike (step : BuildM σ α) (w w' : Workspace σ) : Prop where
  result : (step.runIn w).1 = (step.runIn w').1
  left : (step.runIn w).2.Alike (step.runIn w').2

/-- Whether a step does the same in all workspaces that are alike. -/
def Determined (step : BuildM σ α) : Prop :=
  ∀ w w' : Workspace σ, w.Alike w' → step.EndsAlike w w'

theorem EndsAlike.outcome {step : BuildM σ α} {w w' : Workspace σ} (h : step.EndsAlike w w') :
    ∃ result after after', step.runIn w = (result, after) ∧ step.runIn w' = (result, after') ∧
      after.Alike after' :=
  ⟨(step.runIn w).1, (step.runIn w).2, (step.runIn w').2, rfl, Prod.ext h.result.symm rfl, h.left⟩

theorem EndsAlike.bind {step : BuildM σ α} {next : α → BuildM σ β} {w w' : Workspace σ}
    (h : step.EndsAlike w w') (hnext : ∀ a, (next a).Determined) :
    (step >>= next).EndsAlike w w' := by
  obtain ⟨result, after, after', hfirst, hsecond, hleft⟩ := h.outcome
  cases result with
  | error failure =>
    refine ⟨?_, ?_⟩
    · rw [runIn_bind_of_error hfirst, runIn_bind_of_error hsecond]
    · rw [runIn_bind_of_error hfirst, runIn_bind_of_error hsecond]
      exact hleft
  | ok a =>
    obtain ⟨hresult, hlast⟩ := hnext a after after' hleft
    refine ⟨?_, ?_⟩
    · rw [runIn_bind_of_ok hfirst, runIn_bind_of_ok hsecond]
      exact hresult
    · rw [runIn_bind_of_ok hfirst, runIn_bind_of_ok hsecond]
      exact hlast

theorem Determined.bind {step : BuildM σ α} {next : α → BuildM σ β} (h : step.Determined)
    (hnext : ∀ a, (next a).Determined) : (step >>= next).Determined :=
  fun w w' hw => (h w w' hw).bind hnext

theorem determined_pure (a : α) : (pure a : BuildM σ α).Determined := fun _ _ hw => ⟨rfl, hw⟩

theorem determined_fail (failure : Failure) : (fail failure : BuildM σ α).Determined :=
  fun _ _ hw => ⟨rfl, hw⟩

theorem determined_note (severity : Severity) (message : String) :
    (note severity message : BuildM σ Unit).Determined :=
  fun _ _ hw => ⟨rfl, hw.files, congrArg (·.add severity message) hw.journal, hw.callees⟩

theorem determined_onFiles {f : FileSystem → Except Failure α × FileSystem}
    (hf : ∀ fs fs', FileSystem.Alike fs fs' → LeaveAlike (f fs) (f fs')) :
    (onFiles f : BuildM σ α).Determined := by
  intro w w' hw
  obtain ⟨hresult, hfiles⟩ := (hf _ _ hw.files).both
  exact ⟨hresult, hfiles, hw.journal, hw.callees⟩

theorem determined_readingFiles {f : FileSystem → Journal → Except Failure α × Journal}
    (hf : ∀ fs fs', FileSystem.Alike fs fs' → f fs = f fs') :
    (readingFiles f : BuildM σ α).Determined := by
  intro w w' hw
  have hsame : f w.files w.journal = f w'.files w'.journal := by
    rw [hf _ _ hw.files, hw.journal]
  have hresult := congrArg Prod.fst hsame
  have hjournal := congrArg Prod.snd hsame
  exact ⟨hresult, hw.files, hjournal, hw.callees⟩

theorem determined_ask (context : String) {f : FileSystem → Except IoFault α}
    (hf : ∀ fs fs', FileSystem.Alike fs fs' → f fs = f fs') :
    (ask context f : BuildM σ α).Determined := by
  intro w w' hw
  have hsame := hf _ _ hw.files
  refine ⟨?_, ?_⟩
  · simp only [ask, runIn_ofFunction, hsame]
    cases f w'.files <;> rfl
  · simp only [ask, runIn_ofFunction, hsame]
    cases f w'.files <;> exact hw

theorem Determined.inPhase {step : BuildM σ α} (h : step.Determined) (path : Path) (phase : Phase) :
    (inPhase path phase step).Determined := by
  intro w w' hw
  obtain ⟨result, after, after', hfirst, hsecond, hleft⟩ := (h w w' hw).outcome
  refine ⟨?_, ?_⟩
  · rw [runIn_inPhase, runIn_inPhase, hfirst, hsecond]
    cases result <;> rfl
  · rw [runIn_inPhase, runIn_inPhase, hfirst, hsecond]
    cases result <;> exact hleft

end BuildM

/-! ### Translators -/

section Translators

variable {fs fs' : FileSystem}

theorem BundledFile.read_alike (h : Alike fs fs') (p : Path) :
    BundledFile.read fs p = BundledFile.read fs' p := by
  unfold BundledFile.read
  rw [h.readFile]

theorem neighbours_alike (h : Alike fs fs') (directory primary : Path)
    (visits : List FileSystem.Visit) :
    neighbours fs directory primary visits = neighbours fs' directory primary visits := by
  induction visits with
  | nil => rfl
  | cons visit rest ih =>
    cases visit with
    | fault fault => simp only [neighbours, ih]
    | entry p kind => simp only [neighbours, ih, BundledFile.read_alike h]

theorem TranslatorTask.bundle_alike (h : Alike fs fs') (task : TranslatorTask) :
    task.bundle fs = task.bundle fs' := by
  unfold TranslatorTask.bundle
  simp only [BundledFile.read_alike h, neighbours_alike h, h.list]

theorem writeOutput_alike (h : Alike fs fs') (output : Bytes) (jsonFile : Path) :
    LeaveAlike
      (match fs.writeFile jsonFile output with
        | .ok fs => (.ok (), fs)
        | .error fault => (.error (.operation s!"write {jsonFile.text}" fault), fs))
      (match fs'.writeFile jsonFile output with
        | .ok fs' => ((.ok () : Except Failure Unit), fs')
        | .error fault => (.error (.operation s!"write {jsonFile.text}" fault), fs')) := by
  have hwrite := h.writeFile jsonFile output
  generalize fs.writeFile jsonFile output = written, fs'.writeFile jsonFile output = written'
    at hwrite
  cases hwrite with
  | failed fault => exact .same _ h
  | done hdone => exact .same _ hdone

theorem storeJson_alike (h : Alike fs fs') (output : Bytes) (jsonFile : Path) :
    LeaveAlike (storeJson output jsonFile fs) (storeJson output jsonFile fs') := by
  unfold storeJson
  cases jsonFile.parent? with
  | none => exact writeOutput_alike h output jsonFile
  | some parent =>
    have hmade := h.makeDirectories parent
    dsimp only
    generalize fs.makeDirectories parent = made, fs'.makeDirectories parent = made' at hmade
    cases hmade with
    | same result hgrown =>
      rcases result with fault | ⟨⟩
      · exact .same _ hgrown
      · exact writeOutput_alike hgrown output jsonFile

/-- A service sees nothing of the files but the bundle that is posted. -/
theorem Service.determined (network : Http.Network σ) (address : String) (limit : Option Nat)
    (task : TranslatorTask) :
    ((Service.translator network address limit).carryOut task).Determined := by
  have hask : ∀ bundle, (Service.ask network address limit bundle).Determined := by
    intro bundle w w' hw
    refine ⟨?_, ?_⟩
    · simp only [Service.ask, BuildM.runIn_ofFunction, hw.callees]
    · simp only [Service.ask, BuildM.runIn_ofFunction, hw.callees]
      exact ⟨hw.files, hw.journal, rfl⟩
  refine (BuildM.determined_onFiles fun fs fs' h => ?_).bind fun bundle =>
    (BuildM.determined_note _ _).bind fun _ => (hask bundle).bind fun body =>
      BuildM.determined_onFiles fun fs fs' h => storeJson_alike h body task.jsonFile
  rw [task.bundle_alike h]
  exact .same _ h

/-- Whether what a launcher does depends only on what it is given and on the files. -/
def Child.Determined (launcher : Child.Launcher σ) : Prop :=
  ∀ arguments limit fs fs' callees, Alike fs fs' →
    (launcher arguments limit fs callees).1 = (launcher arguments limit fs' callees).1 ∧
      Alike (launcher arguments limit fs callees).2.1 (launcher arguments limit fs' callees).2.1 ∧
      (launcher arguments limit fs callees).2.2 = (launcher arguments limit fs' callees).2.2

theorem Child.determined_run {launcher : Child.Launcher σ} (h : Child.Determined launcher)
    (arguments : List String) (limit : Option Nat) :
    (Child.run launcher arguments limit).Determined := by
  have hchecked : Child.Determined (Child.checked launcher) := by
    intro arguments limit fs fs' callees halike
    unfold Child.checked
    split_ifs
    · exact ⟨rfl, halike, rfl⟩
    · exact h arguments limit fs fs' callees halike
  unfold Child.run
  by_cases hempty : arguments = []
  · rw [if_pos hempty]
    exact BuildM.determined_pure _
  rw [if_neg hempty]
  intro w w' hw
  obtain ⟨haccount, hfiles, hcallees⟩ :=
    hchecked arguments limit w.files w'.files w.callees hw.files
  rw [hw.callees] at haccount hfiles hcallees
  rcases hfirst : Child.checked launcher arguments limit w.files w'.callees with
    ⟨account, files, callees⟩
  rcases hsecond : Child.checked launcher arguments limit w'.files w'.callees with
    ⟨account', files', callees'⟩
  rw [hfirst, hsecond] at haccount hfiles hcallees
  dsimp only at haccount hfiles hcallees
  subst haccount hcallees
  refine ⟨?_, ?_⟩
  · simp only [BuildM.runIn_ofFunction, hw.callees, hfirst, hsecond]
    cases account <;> rfl
  · simp only [BuildM.runIn_ofFunction, hw.callees, hfirst, hsecond]
    cases account with
    | error fault => exact ⟨hfiles, hw.journal, rfl⟩
    | ok account =>
      refine ⟨hfiles, ?_, rfl⟩
      dsimp only
      rw [hw.journal]

theorem TranslatorProgram.determined {launcher : Child.Launcher σ} (h : Child.Determined launcher)
    (t : TranslatorProgram) (task : TranslatorTask) :
    ((t.translator launcher).carryOut task).Determined := by
  have habsolute : ∀ {fs fs' : FileSystem}, Alike fs fs' →
      t.invocation task fs = t.invocation task fs' := by
    intro fs fs' halike
    unfold invocation absoluteText
    simp only [halike.absolute]
  have hremove : ∀ fs fs', Alike fs fs' →
      LeaveAlike (removePrevious task.jsonFile fs) (removePrevious task.jsonFile fs') := by
    intro fs fs' halike
    have hremoved := halike.removeFile task.jsonFile
    unfold removePrevious
    generalize fs.removeFile task.jsonFile = removed, fs'.removeFile task.jsonFile = removed'
      at hremoved
    cases hremoved with
    | done hdone => exact .same _ hdone
    | failed fault =>
      dsimp only
      split_ifs
      · exact .same _ halike
      · exact .same _ halike
  refine (BuildM.determined_onFiles fun fs fs' halike => ?_).bind fun arguments =>
    (BuildM.determined_onFiles hremove).bind fun _ => (BuildM.determined_note _ _).bind fun _ =>
      (Child.determined_run h arguments t.limit).bind fun detail => ?_
  · rw [habsolute halike]
    exact .same _ halike
  · cases detail with
    | some detail => exact BuildM.determined_fail _
    | none =>
      refine BuildM.determined_onFiles fun fs fs' halike => ?_
      unfold checkOutput
      rw [halike.readFile]
      exact .same _ halike

end Translators

/-! ### Generators -/

theorem Generator.determined_absent (task : GeneratorTask) :
    ((Generator.absent : Generator σ).carryOut task).Determined := BuildM.determined_note _ _

/-! ### Toolchains -/

namespace Toolchain

/-- Whether translating and generating depend only on the request and on what is found. -/
structure Determined (toolchain : Toolchain σ) : Prop where
  translate : ∀ task, (toolchain.translator.carryOut task).Determined
  generate : ∀ task, (toolchain.generator.carryOut task).Determined

variable {toolchain : Toolchain σ}

theorem determined_handle (h : toolchain.Determined) (target : Target) (immutable : Bool)
    (idl : InputFile) : (toolchain.handle target immutable idl).Determined := by
  have habsolute : (BuildM.ask (σ := σ) s!"resolve {(target.jsonFile idl.bareName).text}" fun fs =>
      fs.absolute (target.jsonFile idl.bareName)).Determined :=
    BuildM.determined_ask _ fun fs fs' halike => halike.absolute _
  exact (habsolute.inPhase idl.path .translating).bind fun jsonFile =>
    (BuildM.determined_note _ _).bind fun _ =>
      ((h.translate ⟨idl, jsonFile⟩).inPhase idl.path .translating).bind fun _ =>
        ((h.generate _).inPhase idl.path .generating).bind fun _ => BuildM.determined_pure _

theorem determined_handleAll (h : toolchain.Determined) (target : Target) (immutable : Bool)
    (files : List InputFile) : (toolchain.handleAll target immutable files).Determined := by
  induction files with
  | nil => exact BuildM.determined_pure _
  | cons idl rest ih =>
    exact (determined_handle h target immutable idl).bind fun task =>
      ih.bind fun tasks => BuildM.determined_pure _

theorem determined_copying : copying.Determined where
  translate task := by
    dsimp only [copying]
    refine BuildM.determined_onFiles fun fs fs' h => ?_
    rw [h.readFile]
    cases fs'.readFile task.idl.path with
    | error fault => exact .same _ h
    | ok content => exact storeJson_alike h _ task.jsonFile
  generate task := Generator.determined_absent task

end Toolchain

end IdlBuild
