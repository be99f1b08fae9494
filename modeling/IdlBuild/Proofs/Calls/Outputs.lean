import IdlBuild.Proofs.Targets.Containment

/-!
# The outputs of a build

Two files of one build get the same JSON path when their stems are equal and different ones when
they are not; their packages are equal when their cleaned stems are. Nothing in a build keeps stems
apart, so of two files with one stem only the JSON of the later one is there in the end
(`outputs_lost`). Where stems are different and calls mind the JSON files of the others,
each file keeps its own.
-/

namespace IdlBuild

/-! ### Names of outputs -/

theorem FileSystem.fileName_of_absolute {fs : FileSystem} {p absolute : Path} {s : FileName}
    (h : fs.absolute p = .ok absolute) (hname : p.fileName? = some s) :
    absolute.fileName? = some s := by
  unfold FileSystem.absolute at h
  split_ifs at h
  · cases h
    exact Path.fileName_absoluteFrom _ hname
  · cases h
    exact Path.fileName_absoluteFrom _ hname

/-- An absolute path is the same from every working directory, a relative one from the same. -/
theorem FileSystem.absolute_congr {fs fs' : FileSystem} {p : Path}
    (h : p.isAbsolute = true ∨ fs.workingDirectory = fs'.workingDirectory) :
    fs.absolute p = fs'.absolute p := by
  unfold FileSystem.absolute
  rcases h with h | h
  · simp [h]
  · simp [h]

theorem Target.stem_eq_of_same {target : Target} {fs fs' : FileSystem} {idl idl' : InputFile}
    {jsonFile jsonFile' : Path}
    (h : fs.absolute (target.jsonFile idl.bareName) = .ok jsonFile)
    (h' : fs'.absolute (target.jsonFile idl'.bareName) = .ok jsonFile')
    (hsame : jsonFile.Same jsonFile') :
    PackageName.stem idl.bareName = PackageName.stem idl'.bareName := by
  have hname := FileSystem.fileName_of_absolute h
    (target.fileName_jsonFile idl.not_mem_bareName)
  have hname' := FileSystem.fileName_of_absolute h'
    (target.fileName_jsonFile idl'.not_mem_bareName)
  unfold Path.fileName? at hname hname'
  rw [hsame, hname', Option.some.injEq] at hname
  exact (String.append_left_inj _).1 (Text.encode_injective hname.symm)

theorem Target.jsonFile_congr {target : Target} {name name' : String}
    (h : PackageName.stem name = PackageName.stem name') :
    target.jsonFile name = target.jsonFile name' := by
  rw [Target.jsonFile, h, Target.jsonFile]

theorem Target.isAbsolute_jsonFile {target : Target} (h : target.directory.isAbsolute = true)
    (name : String) (hname : '/' ∉ name.toList) : (target.jsonFile name).isAbsolute = true := by
  have hne : target.directory.bytes ≠ [] := by
    intro hempty
    rw [Path.isAbsolute, hempty] at h
    exact absurd h (by decide)
  rw [Target.jsonFile, Path.isAbsolute_join hne, h]
  exact Path.isAbsolute_of_isPlain (PackageName.isPlain_stem_json hname)

theorem PackageName.ofFile_inj {basePackage name name' : String} :
    ofFile basePackage name = ofFile basePackage name' ↔
      cleaned (stem name) = cleaned (stem name') := by
  unfold ofFile
  split_ifs
  · exact Iff.rfl
  · simp only [String.append_right_inj]

/-! ### Contents of outputs -/

/-- Whether a call is a translation to a path. -/
def Call.TranslatesTo : Call → Path → Prop
  | translate task, p => task.jsonFile.Same p
  | generate _, _ => False

theorem Call.TranslatesTo.same {call : Call} {p : Path} (h : call.TranslatesTo p) :
    call.jsonFile.Same p := by
  cases call with
  | translate task => exact h
  | generate task => exact h.elim

instance (call : Call) (p : Path) : Decidable (call.TranslatesTo p) :=
  match call with
  | .translate task => inferInstanceAs (Decidable (task.jsonFile.Same p))
  | .generate _ => inferInstanceAs (Decidable False)

/-- Whether calls mind the JSON files of some tasks: one of them is changed only by a call that
translates to it. -/
def MindOutputs (events : List Event) (tasks : List GeneratorTask) : Prop :=
  ∀ e ∈ events, ∀ task ∈ tasks, ¬ e.call.TranslatesTo task.jsonFile →
    e.after.readFile task.jsonFile = e.before.readFile task.jsonFile

instance (events : List Event) (tasks : List GeneratorTask) :
    Decidable (MindOutputs events tasks) :=
  inferInstanceAs (Decidable (∀ e ∈ events, ∀ task ∈ tasks, _))

/-- A translated file stays as it is until the end of the handling. -/
theorem Handling.readFile_kept {target : Target} {immutable : Bool} {fs after : FileSystem}
    {files : List InputFile} {events : List Event} {result : Except Failure (List GeneratorTask)}
    {tasks : List GeneratorTask}
    (h : Handling target immutable fs files events result after) (hok : result = .ok tasks)
    (hstems : (files.map fun idl => PackageName.stem idl.bareName).Nodup)
    (hmind : MindOutputs events tasks) {k : Nat} {e : Event} {task : GeneratorTask}
    (hevent : events[2 * k]? = some e) (htask : tasks[k]? = some task) :
    after.readFile task.jsonFile = e.after.readFile task.jsonFile := by
  induction h generalizing tasks k with
  | done =>
    cases hok
    simp at htask
  | unresolved habsolute => cases hok
  | untranslated habsolute => cases hok
  | ungenerated habsolute => cases hok
  | @handled fs middle after last idl rest jsonFile events result habsolute hrest ih =>
    cases result with
    | error failure => cases hok
    | ok others =>
      cases hok
      rw [List.map_cons, List.nodup_cons] at hstems
      cases k with
      | zero =>
        obtain rfl : target.generatorTask immutable idl jsonFile = task := by simpa using htask
        obtain rfl : ⟨.translate ⟨idl, jsonFile⟩, fs, .ok (), middle⟩ = e := by simpa using hevent
        have hmind' : ∀ later ∈ Event.mk (.generate (target.generatorTask immutable idl jsonFile))
            middle (.ok ()) after :: events,
            ¬ later.call.TranslatesTo jsonFile →
              later.after.readFile jsonFile = later.before.readFile jsonFile := by
          intro later hlater hown
          have hkept := hmind later (List.mem_cons_of_mem _ hlater)
            (target.generatorTask immutable idl jsonFile) (List.mem_cons_self ..)
          rw [Target.jsonFile_generatorTask] at hkept
          exact hkept hown
        have hgenerate := hmind' ⟨.generate (target.generatorTask immutable idl jsonFile), middle,
          .ok (), after⟩ (List.mem_cons_self ..) id
        have hothers : last.readFile jsonFile = after.readFile jsonFile := by
          refine hrest.unchanged (·.readFile jsonFile) fun later hlater => ?_
          refine hmind' later (List.mem_cons_of_mem _ hlater) fun hown => ?_
          obtain ⟨seen, other, hother, hseen⟩ := hrest.exists_absolute_of_mem later hlater
          refine hstems.1 (List.mem_map.2 ⟨other, hother, ?_⟩)
          exact Target.stem_eq_of_same hseen habsolute hown.same
        rw [Target.jsonFile_generatorTask]
        exact hothers.trans hgenerate
      | succ k =>
        refine ih rfl hstems.2 (fun later hlater other hother => ?_)
          (by simpa [Nat.mul_succ] using hevent) (by simpa using htask)
        exact hmind later (by simp [hlater]) other (List.mem_cons_of_mem _ hother)

/-! ### Builds -/

/-- A file, its translation and its task, by their number in a build. -/
structure NthOutput (files : List InputFile) (events : List Event) (tasks : List GeneratorTask)
    (k : Nat) (idl : InputFile) (e : Event) (task : GeneratorTask) : Prop where
  file : files[k]? = some idl
  translation : events[2 * k]? = some e
  task : tasks[k]? = some task

/-- How the outputs of the files of a build are kept apart. -/
structure OwnOutputs (target : Target) (files : List InputFile) (events : List Event)
    (tasks : List GeneratorTask) (after : FileSystem) : Prop where
  /-- Every file has a task, and it was translated to the JSON path of the task. -/
  total : tasks.length = files.length ∧ ∀ k idl, files[k]? = some idl →
    ∃ e task, NthOutput files events tasks k idl e task ∧
      e.call = .translate ⟨idl, task.jsonFile⟩ ∧ e.result = .ok ()
  distinct : ∀ i j idl idl' e e' task task', NthOutput files events tasks i idl e task →
    NthOutput files events tasks j idl' e' task' →
    PackageName.stem idl.bareName ≠ PackageName.stem idl'.bareName →
    ¬ task.jsonFile.Same task'.jsonFile
  /-- Files with one stem share it, whatever directories they are in; a relative root is one only as
  long as the working directory is. -/
  shared : ∀ i j idl idl' e e' task task', NthOutput files events tasks i idl e task →
    NthOutput files events tasks j idl' e' task' →
    target.directory.isAbsolute = true ∨
      e.before.workingDirectory = e'.before.workingDirectory →
    PackageName.stem idl.bareName = PackageName.stem idl'.bareName →
    task.jsonFile = task'.jsonFile
  packages : ∀ i j idl idl' e e' task task', NthOutput files events tasks i idl e task →
    NthOutput files events tasks j idl' e' task' →
    (task.package = task'.package ↔
      PackageName.cleaned (PackageName.stem idl.bareName)
        = PackageName.cleaned (PackageName.stem idl'.bareName))
  /-- Where all stems are different and calls mind the JSON files of the others, each JSON file is
  in the end as the translation of its own file left it. -/
  kept : (files.map fun idl => PackageName.stem idl.bareName).Nodup → MindOutputs events tasks →
    ∀ k idl e task, NthOutput files events tasks k idl e task →
      after.readFile task.jsonFile = e.after.readFile task.jsonFile

theorem Handling.ownOutputs {target : Target} {immutable : Bool} {fs after : FileSystem}
    {files : List InputFile} {events : List Event} {tasks : List GeneratorTask}
    (h : Handling target immutable fs files events (.ok tasks) after) :
    OwnOutputs target files events tasks after := by
  have hnth : ∀ {k idl e task}, NthOutput files events tasks k idl e task →
      e.before.absolute (target.jsonFile idl.bareName) = .ok task.jsonFile ∧
        task = target.generatorTask immutable idl task.jsonFile := by
    intro k idl e task hk
    obtain ⟨e', jsonFile, hevent, -, -, habsolute, htask⟩ := h.translatedAt rfl hk.file
    obtain rfl : e' = e := Option.some.inj (hevent.symm.trans hk.translation)
    obtain rfl := Option.some.inj (htask.symm.trans hk.task)
    exact ⟨habsolute, rfl⟩
  refine ⟨⟨h.length_tasks rfl, ?_⟩, ?_, ?_, ?_, ?_⟩
  · intro k idl hfile
    obtain ⟨e, jsonFile, hevent, hcall, hresult, -, htask⟩ := h.translatedAt rfl hfile
    exact ⟨e, _, ⟨hfile, hevent, htask⟩, hcall, hresult⟩
  · intro i j idl idl' e e' task task' hi hj hne hsame
    exact hne (Target.stem_eq_of_same (hnth hi).1 (hnth hj).1 hsame)
  · intro i j idl idl' e e' task task' hi hj hdirectory hstem
    have hpath : (target.jsonFile idl.bareName).isAbsolute = true ∨
        e.before.workingDirectory = e'.before.workingDirectory :=
      hdirectory.imp_left fun ha => Target.isAbsolute_jsonFile ha _ idl.not_mem_bareName
    have hi' := (hnth hi).1
    rw [FileSystem.absolute_congr hpath, Target.jsonFile_congr hstem, (hnth hj).1] at hi'
    exact (Except.ok.inj hi').symm
  · intro i j idl idl' e e' task task' hi hj
    rw [(hnth hi).2, (hnth hj).2, Target.package_generatorTask, Target.package_generatorTask]
    exact PackageName.ofFile_inj
  · intro hstems hmind k idl e task hk
    exact h.readFile_kept rfl hstems hmind hk.translation hk.task

namespace Toolchain

variable {σ : Type}

/-- A build that succeeds gives every file an output, and its own as far as stems differ. -/
theorem build_ownOutputs (toolchain : Toolchain σ) (job : Job) (w : Workspace σ) (made : Product)
    (h : ((toolchain.build job).runIn w).1 = .ok made) :
    ∃ files, job.discovered (job.prepared w.files).2 = .ok files ∧
      OwnOutputs job.target files (toolchain.calls job w) made.tasks
        ((toolchain.build job).runIn w).2.files := by
  obtain ⟨-, files, hfiles, hhandling⟩ := handling_of_build_ok (Prod.ext h rfl)
  exact ⟨files, hfiles, hhandling.ownOutputs⟩

def strangers : Job × Workspace Unit :=
  (⟨"a/x.idl,b/y.idl", .ofNames [], ⟨"out"⟩, "gen", false, false⟩,
    .ofFiles <| FileSystem.empty
      |>.add [] "a" .directory
      |>.add ["a"] "x.idl" (.file [0x31] 0)
      |>.add [] "b" .directory
      |>.add ["b"] "y.idl" (.file [0x32] 0))

def strangersMade : Product where
  directory := ⟨"out/gen"⟩
  tasks :=
    [⟨⟨"/out/gen/x.json"⟩, "gen.x", "gen", ⟨"out"⟩, false⟩,
      ⟨⟨"/out/gen/y.json"⟩, "gen.y", "gen", ⟨"out"⟩, false⟩]

theorem strangers_ownOutputs :
    ((copying.build strangers.1).runIn strangers.2).1 = .ok strangersMade ∧
      MindOutputs (copying.calls strangers.1 strangers.2) strangersMade.tasks ∧
      ∃ files, strangers.1.discovered (strangers.1.prepared strangers.2.files).2 = .ok files ∧
        OwnOutputs strangers.1.target files (copying.calls strangers.1 strangers.2)
          strangersMade.tasks ((copying.build strangers.1).runIn strangers.2).2.files := by
  have hmade : ((copying.build strangers.1).runIn strangers.2).1 = .ok strangersMade := by
    decide +kernel
  have hmind : MindOutputs (copying.calls strangers.1 strangers.2) strangersMade.tasks := by
    decide +kernel
  exact ⟨hmade, hmind, build_ownOutputs _ _ _ _ hmade⟩

def namesakes : Job × Workspace Unit :=
  (⟨"a/x.idl,b/x.idl", .ofNames [], ⟨"out"⟩, "gen", false, false⟩,
    .ofFiles <| FileSystem.empty
      |>.add [] "a" .directory
      |>.add ["a"] "x.idl" (.file [0x31] 0)
      |>.add [] "b" .directory
      |>.add ["b"] "x.idl" (.file [0x32] 0))

/-- Two files with different stems; a link leads from the JSON path of one to that of the other. -/
def linked : Job × Workspace Unit :=
  (⟨"x.idl,y.idl", .ofNames [], ⟨"out"⟩, "gen", false, false⟩,
    .ofFiles <| FileSystem.empty
      |>.add [] "x.idl" (.file [0x31] 0)
      |>.add [] "y.idl" (.file [0x32] 0)
      |>.add [] "out" .directory
      |>.add ["out"] "gen" .directory
      |>.add ["out", "gen"] "y.json" (.link ⟨"x.json"⟩))

/-- Nothing keeps the outputs of namesakes apart, and no name those behind a link: in both cases the
JSON that was made first is not there in the end. -/
theorem outputs_lost :
    (∃ made, ((copying.build namesakes.1).runIn namesakes.2).1 = .ok made ∧
      (¬ (made.tasks.map GeneratorTask.jsonFile).Nodup) ∧
      (¬ (made.tasks.map GeneratorTask.package).Nodup) ∧
      ∃ e ∈ copying.calls namesakes.1 namesakes.2, e.call.TranslatesTo ⟨"/out/gen/x.json"⟩ ∧
        ((copying.build namesakes.1).runIn namesakes.2).2.files.readFile ⟨"/out/gen/x.json"⟩
          ≠ e.after.readFile ⟨"/out/gen/x.json"⟩) ∧
    (∃ made, ((copying.build linked.1).runIn linked.2).1 = .ok made ∧
      ∃ e ∈ copying.calls linked.1 linked.2, e.call.TranslatesTo ⟨"/out/gen/x.json"⟩ ∧
        ((copying.build linked.1).runIn linked.2).2.files.readFile ⟨"/out/gen/x.json"⟩
          ≠ e.after.readFile ⟨"/out/gen/x.json"⟩) := by
  refine ⟨⟨⟨⟨"out/gen"⟩, [⟨⟨"/out/gen/x.json"⟩, "gen.x", "gen", ⟨"out"⟩, false⟩,
    ⟨⟨"/out/gen/x.json"⟩, "gen.x", "gen", ⟨"out"⟩, false⟩]⟩, ?_, ?_, ?_, ?_⟩,
    ⟨⟨⟨"out/gen"⟩, [⟨⟨"/out/gen/x.json"⟩, "gen.x", "gen", ⟨"out"⟩, false⟩,
      ⟨⟨"/out/gen/y.json"⟩, "gen.y", "gen", ⟨"out"⟩, false⟩]⟩, ?_, ?_⟩⟩
  · decide +kernel
  · decide +kernel
  · decide +kernel
  · decide +kernel
  · decide +kernel
  · decide +kernel

end Toolchain

end IdlBuild
