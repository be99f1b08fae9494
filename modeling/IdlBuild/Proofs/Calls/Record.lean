import IdlBuild.Proofs.Inputs.Continuation
import IdlBuild.Toolchain

/-!
# Recorded calls

A build calls its translator and its generator. A recorded toolchain does what the toolchain does
and keeps each call with its outcome and the files before and after it. `Handling` says which calls
belong to a list of files: two for each file in order, up to the first that fails. `Building` says
the same of a whole build (`Toolchain.building`). A recorded build ends as the build does and leaves
the same workspace (`runIn_build_recorded`).
-/

namespace IdlBuild

/-- A call that a build makes. -/
inductive Call where
  | translate (task : TranslatorTask)
  | generate (task : GeneratorTask)
deriving DecidableEq, Repr

/-- A call with its outcome and the files before and after it. -/
structure Event where
  call : Call
  before : FileSystem
  result : Except Failure Unit
  after : FileSystem

def Call.generated? : Call → Option GeneratorTask
  | translate _ => none
  | generate task => some task

def Call.jsonFile : Call → Path
  | translate task => task.jsonFile
  | generate task => task.jsonFile

/-! ### Recording -/

/-- A workspace whose callees also keep events. -/
def Workspace.withEvents {σ : Type} (w : Workspace σ) (events : List Event) :
    Workspace (σ × List Event) :=
  ⟨w.files, w.journal, (w.callees, events)⟩

/-- A step that is kept as an event when it has been taken. -/
def BuildM.recording {σ : Type} (call : Call) (step : BuildM σ Unit) :
    BuildM (σ × List Event) Unit :=
  BuildM.ofFunction fun w =>
    let (result, after) := step.runIn ⟨w.files, w.journal, w.callees.1⟩
    (result, after.withEvents (w.callees.2 ++ [⟨call, w.files, result, after.files⟩]))

namespace Toolchain

variable {σ : Type}

/-- The toolchain that keeps every call as an event. -/
def recorded (toolchain : Toolchain σ) : Toolchain (σ × List Event) where
  translator :=
    { shownAs := toolchain.translator.shownAs
      carryOut := fun task =>
        BuildM.recording (.translate task) (toolchain.translator.carryOut task) }
  generator :=
    { carryOut := fun task =>
        BuildM.recording (.generate task) (toolchain.generator.carryOut task) }

def calls (toolchain : Toolchain σ) (job : Job) (w : Workspace σ) : List Event :=
  ((toolchain.recorded.build job).runIn (w.withEvents [])).2.callees.2

end Toolchain

/-! ### A small toolchain -/

/-- A translator that copies IDL files behind the start of an array, and no generator. -/
def Toolchain.copying : Toolchain Unit where
  translator :=
    { shownAs := "copy"
      carryOut := fun task => BuildM.onFiles fun fs =>
        match fs.readFile task.idl.path with
        | .error fault => (.error (.operation s!"read {task.idl.path.text}" fault), fs)
        | .ok content => storeJson (arrayStart :: content) task.jsonFile fs }
  generator := .absent

def Workspace.ofFiles (files : FileSystem) : Workspace Unit := ⟨files, .empty, ()⟩

/-! ### Calls in turn -/

namespace Job

def target (job : Job) : Target := Target.below job.outputRoot job.basePackage

theorem root_target (job : Job) : job.target.root = job.outputRoot := by
  simp only [target, Target.below]

theorem basePackage_target (job : Job) :
    job.target.basePackage = PackageName.cleaned job.basePackage := by
  simp only [target, Target.below]

/-- Making the target of a job ready. -/
def prepared (job : Job) (fs : FileSystem) : Except Failure Path × FileSystem :=
  Target.makeReady fs job.target.root job.target.basePackage job.clearFirst

/-- The files that a job stands for. -/
def discovered (job : Job) (fs : FileSystem) : Except Failure (List InputFile) :=
  (selectInputs fs job.inputs job.excluded .empty).1

end Job

namespace Target

/-- The task that the generator gets for an IDL file with its JSON at a path. -/
def generatorTask (target : Target) (immutable : Bool) (idl : InputFile) (jsonFile : Path) :
    GeneratorTask :=
  { jsonFile
    package := PackageName.ofFile target.basePackage idl.bareName
    basePackage := target.basePackage
    outputRoot := target.root
    immutable }

@[simp] theorem jsonFile_generatorTask (target : Target) (immutable : Bool) (idl : InputFile)
    (jsonFile : Path) : (target.generatorTask immutable idl jsonFile).jsonFile = jsonFile := rfl

@[simp] theorem package_generatorTask (target : Target) (immutable : Bool) (idl : InputFile)
    (jsonFile : Path) : (target.generatorTask immutable idl jsonFile).package
      = PackageName.ofFile target.basePackage idl.bareName := rfl

end Target

/-- The calls for a list of files that are handled from one state of the files to another, and how
the handling ends: it stops at the first failure, which is wrapped with the file and the phase. -/
inductive Handling (target : Target) (immutable : Bool) :
    FileSystem → List InputFile → List Event → Except Failure (List GeneratorTask) →
      FileSystem → Prop where
  | done {fs : FileSystem} : Handling target immutable fs [] [] (.ok []) fs
  | unresolved {fs : FileSystem} {idl : InputFile} {rest : List InputFile} {fault : IoFault}
      (habsolute : fs.absolute (target.jsonFile idl.bareName) = .error fault) :
      Handling target immutable fs (idl :: rest) []
        (.error (.within idl.path .translating
          (.operation s!"resolve {(target.jsonFile idl.bareName).text}" fault))) fs
  | untranslated {fs after : FileSystem} {idl : InputFile} {rest : List InputFile}
      {jsonFile : Path} {failure : Failure}
      (habsolute : fs.absolute (target.jsonFile idl.bareName) = .ok jsonFile) :
      Handling target immutable fs (idl :: rest)
        [⟨.translate ⟨idl, jsonFile⟩, fs, .error failure, after⟩]
        (.error (.within idl.path .translating failure)) after
  | ungenerated {fs middle after : FileSystem} {idl : InputFile} {rest : List InputFile}
      {jsonFile : Path} {failure : Failure}
      (habsolute : fs.absolute (target.jsonFile idl.bareName) = .ok jsonFile) :
      Handling target immutable fs (idl :: rest)
        [⟨.translate ⟨idl, jsonFile⟩, fs, .ok (), middle⟩,
          ⟨.generate (target.generatorTask immutable idl jsonFile), middle, .error failure, after⟩]
        (.error (.within idl.path .generating failure)) after
  | handled {fs middle after last : FileSystem} {idl : InputFile} {rest : List InputFile}
      {jsonFile : Path} {events : List Event} {result : Except Failure (List GeneratorTask)}
      (habsolute : fs.absolute (target.jsonFile idl.bareName) = .ok jsonFile)
      (hrest : Handling target immutable after rest events result last) :
      Handling target immutable fs (idl :: rest)
        (⟨.translate ⟨idl, jsonFile⟩, fs, .ok (), middle⟩ ::
          ⟨.generate (target.generatorTask immutable idl jsonFile), middle, .ok (), after⟩ ::
            events)
        (result.map (target.generatorTask immutable idl jsonFile :: ·)) last

/-- The calls of a build that begins with some files, how it ends and what files it leaves: nothing
is called without a target or without inputs, and otherwise the discovered files are handled. -/
inductive Building (job : Job) (fs : FileSystem) :
    List Event → Except Failure Product → FileSystem → Prop where
  | unready {ready : FileSystem} {failure : Failure}
      (hready : job.prepared fs = (.error failure, ready)) :
      Building job fs [] (.error failure) ready
  | undiscovered {directory : Path} {ready : FileSystem} {failure : Failure}
      (hready : job.prepared fs = (.ok directory, ready))
      (hfiles : job.discovered ready = .error failure) :
      Building job fs [] (.error failure) ready
  | handled {directory : Path} {ready after : FileSystem} {files : List InputFile}
      {events : List Event} {tasks : Except Failure (List GeneratorTask)}
      (hready : job.prepared fs = (.ok directory, ready))
      (hfiles : job.discovered ready = .ok files)
      (hhandling : Handling job.target job.immutable ready files events tasks after) :
      Building job fs events (tasks.map fun tasks => ⟨job.target.directory, tasks⟩) after

namespace Toolchain

variable {σ : Type}

/-! ### Recorded builds -/

theorem runIn_recording (call : Call) (step : BuildM σ Unit) (w : Workspace σ)
    (events : List Event) :
    (BuildM.recording call step).runIn (w.withEvents events) =
      ((step.runIn w).1, (step.runIn w).2.withEvents
        (events ++ [⟨call, w.files, (step.runIn w).1, (step.runIn w).2.files⟩])) := rfl

theorem translate_recorded (toolchain : Toolchain σ) (task : TranslatorTask) :
    toolchain.recorded.translator.carryOut task
      = BuildM.recording (.translate task) (toolchain.translator.carryOut task) := rfl

theorem generate_recorded (toolchain : Toolchain σ) (task : GeneratorTask) :
    toolchain.recorded.generator.carryOut task
      = BuildM.recording (.generate task) (toolchain.generator.carryOut task) := rfl

def announced (w : Workspace σ) (idl : InputFile) (jsonFile : Path) : Workspace σ :=
  { w with
    journal := w.journal.add .info s!"Translating: {idl.path.text} to: {jsonFile.text}" }

theorem runIn_handle (toolchain : Toolchain σ) (target : Target) (immutable : Bool)
    (idl : InputFile) (w : Workspace σ) :
    (toolchain.handle target immutable idl).runIn w =
      match w.files.absolute (target.jsonFile idl.bareName) with
      | .error fault =>
        (.error (.within idl.path .translating
          (.operation s!"resolve {(target.jsonFile idl.bareName).text}" fault)), w)
      | .ok jsonFile =>
        match (toolchain.translator.carryOut ⟨idl, jsonFile⟩).runIn (announced w idl jsonFile) with
        | (.error failure, after) => (.error (.within idl.path .translating failure), after)
        | (.ok (), after) =>
          let task := target.generatorTask immutable idl jsonFile
          match (toolchain.generator.carryOut task).runIn after with
          | (.error failure, last) => (.error (.within idl.path .generating failure), last)
          | (.ok (), last) => (.ok task, last) := by
  unfold handle Target.generatorTask
  rw [BuildM.runIn_bind, BuildM.runIn_inPhase]
  simp only [BuildM.ask, BuildM.runIn_ofFunction]
  cases w.files.absolute (target.jsonFile idl.bareName) with
  | error fault => rfl
  | ok jsonFile =>
    have hnote : (BuildM.note .info s!"Translating: {idl.path.text} to: {jsonFile.text}").runIn w
        = (.ok (), announced w idl jsonFile) := rfl
    dsimp only
    rw [BuildM.runIn_bind_of_ok hnote, BuildM.runIn_bind, BuildM.runIn_inPhase]
    rcases (toolchain.translator.carryOut ⟨idl, jsonFile⟩).runIn (announced w idl jsonFile) with
      ⟨failure | value, after⟩
    · rfl
    · dsimp only
      rw [BuildM.runIn_bind, BuildM.runIn_inPhase]
      rcases (toolchain.generator.carryOut
        { jsonFile
          package := PackageName.ofFile target.basePackage idl.bareName
          basePackage := target.basePackage
          outputRoot := target.root
          immutable }).runIn after with ⟨failure | value, last⟩
      · rfl
      · rfl

theorem runIn_handleAll_cons (toolchain : Toolchain σ) (target : Target) (immutable : Bool)
    (idl : InputFile) (rest : List InputFile) (w : Workspace σ) :
    (toolchain.handleAll target immutable (idl :: rest)).runIn w =
      match (toolchain.handle target immutable idl).runIn w with
      | (.error failure, after) => (.error failure, after)
      | (.ok task, after) =>
        (((toolchain.handleAll target immutable rest).runIn after).1.map (task :: ·),
          ((toolchain.handleAll target immutable rest).runIn after).2) := by
  rw [handleAll, BuildM.runIn_bind]
  rcases (toolchain.handle target immutable idl).runIn w with ⟨failure | task, after⟩
  · rfl
  · simp only
    rw [BuildM.runIn_bind]
    rcases (toolchain.handleAll target immutable rest).runIn after with ⟨failure | tasks, last⟩
    · rfl
    · rfl

/-- Recording changes nothing but the record, and the record is that of the files in turn. -/
theorem runIn_handleAll_recorded (toolchain : Toolchain σ) (target : Target) (immutable : Bool)
    (files : List InputFile) (w : Workspace σ) (events : List Event) :
    ∃ more result after,
      (toolchain.handleAll target immutable files).runIn w = (result, after) ∧
      (toolchain.recorded.handleAll target immutable files).runIn (w.withEvents events) =
        (result, after.withEvents (events ++ more)) ∧
      Handling target immutable w.files files more result after.files := by
  induction files generalizing w events with
  | nil => exact ⟨[], .ok [], w, rfl, by rw [List.append_nil]; rfl, .done⟩
  | cons idl rest ih =>
    have hplain := runIn_handle toolchain target immutable idl w
    have hrecorded := runIn_handle toolchain.recorded target immutable idl (w.withEvents events)
    rw [show (w.withEvents events).files = w.files from rfl] at hrecorded
    rw [runIn_handleAll_cons, runIn_handleAll_cons, hplain, hrecorded]
    cases habsolute : w.files.absolute (target.jsonFile idl.bareName) with
    | error fault =>
      exact ⟨[], _, _, rfl, by rw [List.append_nil], .unresolved habsolute⟩
    | ok jsonFile =>
      have hannounced : announced (w.withEvents events) idl jsonFile
          = (announced w idl jsonFile).withEvents events := rfl
      simp only [hannounced, translate_recorded, generate_recorded, runIn_recording]
      rcases (toolchain.translator.carryOut ⟨idl, jsonFile⟩).runIn (announced w idl jsonFile) with
        ⟨failure | value, middle⟩
      · exact ⟨_, _, _, rfl, rfl, .untranslated habsolute⟩
      · simp only [runIn_recording]
        rcases (toolchain.generator.carryOut
          (target.generatorTask immutable idl jsonFile)).runIn middle with ⟨failure | value, after⟩
        · refine ⟨_, _, _, rfl, ?_, @Handling.ungenerated _ _ _ middle.files _ _ _ _ _ habsolute⟩
          simp only [List.append_assoc]
          rfl
        · obtain ⟨more, result, last, hrest, hmore, hhandling⟩ := ih after (events ++
            [⟨.translate ⟨idl, jsonFile⟩, w.files, .ok (), middle.files⟩] ++
            [⟨.generate (target.generatorTask immutable idl jsonFile), middle.files, .ok (),
              after.files⟩])
          rw [List.append_assoc, List.append_assoc] at hmore
          refine ⟨_, result.map _, last, ?_, ?_,
            @Handling.handled _ _ _ middle.files _ _ _ _ _ _ _ habsolute hhandling⟩
          · simp only [hrest]
          · simp only [List.append_assoc] at hmore ⊢
            rw [show (announced w idl jsonFile).files = w.files from rfl, hmore]
            rfl

/-! ### Whole builds -/

def targetJournal (job : Job) (journal : Journal) : Journal :=
  let warned := if job.target.basePackage.isEmpty then
    journal.add .warn (bareRootWarning job.basePackage job.target.root) else journal
  warned.add .info (directoryNotice job.clearFirst job.target.directory)

theorem runIn_readyTarget (job : Job) (w : Workspace σ) :
    (readyTarget job job.target).runIn w =
      ((job.prepared w.files).1.map fun _ => (),
        ⟨(job.prepared w.files).2, targetJournal job w.journal, w.callees⟩) := by
  have hready : ∀ journal, (do
      let _ ← BuildM.onFiles (σ := σ) fun fs =>
        Target.makeReady fs job.target.root job.target.basePackage job.clearFirst).runIn
          { w with journal } =
      ((job.prepared w.files).1.map fun _ => (),
        ⟨(job.prepared w.files).2, journal, w.callees⟩) := by
    intro journal
    rw [BuildM.runIn_bind]
    simp only [BuildM.onFiles, BuildM.runIn_ofFunction, Job.prepared]
    rcases Target.makeReady w.files job.target.root job.target.basePackage job.clearFirst with
      ⟨failure | made, fs⟩
    · rfl
    · rfl
  unfold readyTarget targetJournal
  by_cases h : job.target.basePackage.isEmpty = true
  · simp only [h, if_true, BuildM.runIn_note_bind]
    exact hready _
  · simp only [h, Bool.false_eq_true, if_false, BuildM.runIn_note_bind]
    exact hready _

def selectionJournal (toolchain : Toolchain σ) (job : Job) (journal : Journal) : Journal :=
  (targetJournal job journal).add .info s!"Using translator: {toolchain.translator.shownAs}"

theorem runIn_build (toolchain : Toolchain σ) (job : Job) (w : Workspace σ) :
    (toolchain.build job).runIn w =
      match job.prepared w.files with
      | (.error failure, fs) => (.error failure, ⟨fs, targetJournal job w.journal, w.callees⟩)
      | (.ok _, fs) =>
        match selectInputs fs job.inputs job.excluded
            (selectionJournal toolchain job w.journal) with
        | (.error failure, journal) => (.error failure, ⟨fs, journal, w.callees⟩)
        | (.ok files, journal) =>
          let reported := if files.isEmpty then
            journal.add .info s!"No IDL files found in: {job.inputs}" else journal
          let run := (toolchain.handleAll job.target job.immutable files).runIn
            ⟨fs, reported, w.callees⟩
          (run.1.map fun tasks => ⟨job.target.directory, tasks⟩, run.2) := by
  have hready := runIn_readyTarget job w
  unfold build Job.target at *
  rw [BuildM.runIn_bind, hready]
  rcases job.prepared w.files with ⟨failure | made, fs⟩
  · rfl
  · simp only [Except.map, BuildM.runIn_note_bind]
    rw [BuildM.runIn_bind]
    simp only [BuildM.readingFiles, BuildM.runIn_ofFunction, selectionJournal]
    rcases selectInputs fs job.inputs job.excluded _ with ⟨failure | files, journal⟩
    · rfl
    · cases files with
      | nil => rfl
      | cons idl rest =>
        simp only [List.isEmpty_cons, Bool.false_eq_true, if_false]
        rw [BuildM.runIn_bind]
        rcases (handleAll toolchain _ job.immutable (idl :: rest)).runIn _ with
          ⟨failure | tasks, last⟩
        · rfl
        · rfl

theorem exists_building (toolchain : Toolchain σ) (job : Job) (w : Workspace σ) :
    ∃ events result after,
      (toolchain.build job).runIn w = (result, after) ∧
      (toolchain.recorded.build job).runIn (w.withEvents []) = (result, after.withEvents events) ∧
      Building job w.files events result after.files := by
  have hdiscovered : ∀ fs, job.discovered fs =
      (selectInputs fs job.inputs job.excluded (selectionJournal toolchain job w.journal)).1 :=
    fun fs => selectInputs_journal fs job.excluded job.inputs _ _
  have hjournal : selectionJournal toolchain.recorded job w.journal
      = selectionJournal toolchain job w.journal := rfl
  rw [runIn_build, runIn_build]
  simp only [Workspace.withEvents, hjournal]
  rcases hready : job.prepared w.files with ⟨failure | directory, fs⟩
  · exact ⟨[], _, _, rfl, rfl, .unready hready⟩
  · have hfiles := hdiscovered fs
    simp only
    generalize selectInputs fs job.inputs job.excluded _ = selected at hfiles ⊢
    rcases selected with ⟨failure | files, journal⟩
    · exact ⟨[], _, _, rfl, rfl, .undiscovered hready hfiles⟩
    · obtain ⟨events, tasks, after, hplain, hrecorded, hhandling⟩ :=
        runIn_handleAll_recorded toolchain job.target job.immutable files
          ⟨fs, if files.isEmpty then
            journal.add .info s!"No IDL files found in: {job.inputs}" else journal, w.callees⟩ []
      unfold Workspace.withEvents at hrecorded
      simp only [hplain, hrecorded]
      exact ⟨events, _, after, rfl, rfl, .handled hready hfiles hhandling⟩

/-- Recording changes nothing but the record. -/
theorem runIn_build_recorded (toolchain : Toolchain σ) (job : Job) (w : Workspace σ) :
    (toolchain.recorded.build job).runIn (w.withEvents []) =
      (((toolchain.build job).runIn w).1,
        ((toolchain.build job).runIn w).2.withEvents (toolchain.calls job w)) := by
  obtain ⟨events, result, after, hplain, hrecorded, -⟩ := exists_building toolchain job w
  unfold calls
  rw [hrecorded, hplain]
  rfl

theorem building (toolchain : Toolchain σ) (job : Job) (w : Workspace σ) :
    Building job w.files (toolchain.calls job w) ((toolchain.build job).runIn w).1
      ((toolchain.build job).runIn w).2.files := by
  obtain ⟨events, result, after, hplain, hrecorded, hbuilding⟩ := exists_building toolchain job w
  unfold calls
  rw [hrecorded, hplain]
  exact hbuilding

end Toolchain

end IdlBuild
