import IdlBuild.Proofs.Calls.Record
import IdlBuild.Proofs.Targets.Containment

/-!
# The first failure ends a build

As long as there is a working directory, a build calls its translator and its generator on each
selected file in turn and stops with the call that fails first. It succeeds exactly when no call
fails, and a failure is the one that the call gave, wrapped with the file and the phase.
-/

namespace IdlBuild

/-- The two calls for an IDL file whose JSON goes to a path. -/
def Target.plan (target : Target) (immutable : Bool) : InputFile × Path → List Call
  | (idl, jsonFile) =>
    [.translate ⟨idl, jsonFile⟩, .generate (target.generatorTask immutable idl jsonFile)]

/-- How the calls for some files stop at the first failure. -/
structure FirstFailure (target : Target) (immutable : Bool) (files : List InputFile)
    (events : List Event) (result : Except Failure (List GeneratorTask)) : Prop where
  /-- The calls are the planned ones in their order, from the first one on. -/
  planned : ∃ jsonFiles : List Path, jsonFiles.length = files.length ∧
    events.map Event.call <+: (files.zip jsonFiles).flatMap (target.plan immutable)
  /-- The JSON of a file goes to its path in the directory of the target, made absolute. -/
  resolved : ∀ e ∈ events, ∀ task, e.call = .translate task →
    e.before.absolute (target.jsonFile task.idl.bareName) = .ok task.jsonFile
  /-- No call comes after one that fails. -/
  stopped : ∀ e ∈ events.dropLast, e.result = .ok ()
  /-- Where no call fails, every planned call is made. -/
  completed : (∀ e ∈ events, e.result = .ok ()) → events.length = 2 * files.length ∧
    result = .ok (events.filterMap fun e => e.call.generated?)
  succeeded : ∀ tasks, result = .ok tasks → ∀ e ∈ events, e.result = .ok ()
  /-- A failed translation is the failure of the build, wrapped with its file and phase. -/
  untranslated : ∀ k idl e failure, files[k]? = some idl → events[2 * k]? = some e →
    e.result = .error failure → result = .error (.within idl.path .translating failure)
  ungenerated : ∀ k idl e failure, files[k]? = some idl → events[2 * k + 1]? = some e →
    e.result = .error failure → result = .error (.within idl.path .generating failure)

theorem exists_absolute_jsonFile {fs : FileSystem} (h : ¬ IsLost fs.workingDirectory)
    (target : Target) (name : String) :
    ∃ jsonFile, fs.absolute (target.jsonFile name) = .ok jsonFile := by
  have hne : Text.encode (PackageName.stem name ++ ".json") ≠ [] := by
    intro hs
    exact absurd (String.append_eq_empty_iff.1 (Text.encode_eq_nil_iff.1 hs)).2 (by decide)
  have hwritten : (target.jsonFile name).bytes.isEmpty = false :=
    List.isEmpty_eq_false_iff.2 (Path.bytes_join_ne_nil target.directory hne)
  unfold FileSystem.absolute
  rw [hwritten]
  by_cases ha : (target.jsonFile name).isAbsolute = true
  · exact ⟨_, by simp [ha]; rfl⟩
  · exact ⟨_, by simp [ha, h]; rfl⟩

namespace Handling

variable {target : Target} {immutable : Bool} {fs after : FileSystem} {files : List InputFile}
  {events : List Event} {result : Except Failure (List GeneratorTask)}

theorem planned (h : Handling target immutable fs files events result after) :
    ∃ jsonFiles : List Path, jsonFiles.length = files.length ∧
      events.map Event.call <+: (files.zip jsonFiles).flatMap (target.plan immutable) := by
  induction h with
  | done => exact ⟨[], rfl, List.prefix_rfl⟩
  | @unresolved fs idl rest fault habsolute =>
    exact ⟨idl.path :: rest.map InputFile.path, by simp, List.nil_prefix⟩
  | @untranslated fs after idl rest jsonFile failure habsolute =>
    exact ⟨jsonFile :: rest.map InputFile.path, by simp, by simp [Target.plan]⟩
  | @ungenerated fs middle after idl rest jsonFile failure habsolute =>
    exact ⟨jsonFile :: rest.map InputFile.path, by simp, by simp [Target.plan]⟩
  | @handled fs middle after last idl rest jsonFile events result habsolute hrest ih =>
    obtain ⟨jsonFiles, hlength, hpre⟩ := ih
    exact ⟨jsonFile :: jsonFiles, by simp [hlength], by simp [Target.plan, hpre]⟩

theorem resolved (h : Handling target immutable fs files events result after) :
    ∀ e ∈ events, ∀ task, e.call = .translate task →
      e.before.absolute (target.jsonFile task.idl.bareName) = .ok task.jsonFile := by
  induction h with
  | done => simp
  | unresolved habsolute => simp
  | untranslated habsolute =>
    intro e he task htask
    rw [List.mem_singleton] at he
    subst he
    cases htask
    exact habsolute
  | ungenerated habsolute =>
    intro e he task htask
    simp only [List.mem_cons, List.not_mem_nil, or_false] at he
    rcases he with rfl | rfl <;> cases htask
    exact habsolute
  | handled habsolute hrest ih =>
    intro e he task htask
    simp only [List.mem_cons] at he
    rcases he with rfl | rfl | he
    · cases htask
      exact habsolute
    · cases htask
    · exact ih e he task htask

theorem stopped (h : Handling target immutable fs files events result after) :
    ∀ e ∈ events.dropLast, e.result = .ok () := by
  induction h with
  | done => simp
  | unresolved habsolute => simp
  | untranslated habsolute => simp
  | ungenerated habsolute => simp
  | @handled fs middle after last idl rest jsonFile events result habsolute hrest ih =>
    intro e he
    cases events with
    | nil =>
      simp only [List.dropLast_cons_cons, List.dropLast_singleton, List.mem_singleton] at he
      subst he
      rfl
    | cons first more =>
      simp only [List.dropLast_cons_cons, List.mem_cons] at he
      rcases he with rfl | rfl | he
      · rfl
      · rfl
      · exact ih e (by simpa using he)

theorem completed (h : Handling target immutable fs files events result after)
    (hstart : ¬ IsLost fs.workingDirectory)
    (hcalls : ∀ e ∈ events, ¬ IsLost e.after.workingDirectory)
    (hok : ∀ e ∈ events, e.result = .ok ()) :
    events.length = 2 * files.length ∧
      result = .ok (events.filterMap fun e => e.call.generated?) := by
  induction h with
  | done => exact ⟨rfl, rfl⟩
  | unresolved habsolute =>
    obtain ⟨jsonFile, hjson⟩ := exists_absolute_jsonFile hstart target _
    rw [habsolute] at hjson
    cases hjson
  | untranslated habsolute => simp at hok
  | ungenerated habsolute => simp at hok
  | @handled fs middle after last idl rest jsonFile events result habsolute hrest ih =>
    obtain ⟨hlength, hresult⟩ := ih
      (hcalls ⟨.generate (target.generatorTask immutable idl jsonFile), middle, .ok (), after⟩
        (by simp))
      (fun e he => hcalls e (by simp [he])) (fun e he => hok e (by simp [he]))
    refine ⟨by simp [hlength]; omega, ?_⟩
    subst hresult
    rfl

theorem succeeded (h : Handling target immutable fs files events result after)
    {tasks : List GeneratorTask} (hok : result = .ok tasks) :
    ∀ e ∈ events, e.result = .ok () := by
  induction h generalizing tasks with
  | done => simp
  | unresolved habsolute => cases hok
  | untranslated habsolute => cases hok
  | ungenerated habsolute => cases hok
  | @handled fs middle after last idl rest jsonFile events result habsolute hrest ih =>
    cases result with
    | error failure => cases hok
    | ok others =>
      intro e he
      simp only [List.mem_cons] at he
      rcases he with rfl | rfl | he
      · rfl
      · rfl
      · exact ih rfl e he

/-- The failure of the call with a number is that of the handling: calls with an even number are
translations, the others are generations. -/
theorem failed (h : Handling target immutable fs files events result after) {k : Nat}
    {idl : InputFile} {e : Event} {failure : Failure} (hfile : files[k]? = some idl) :
    (events[2 * k]? = some e → e.result = .error failure →
      result = .error (.within idl.path .translating failure)) ∧
    (events[2 * k + 1]? = some e → e.result = .error failure →
      result = .error (.within idl.path .generating failure)) := by
  induction h generalizing k with
  | done => simp at hfile
  | unresolved habsolute => simp
  | untranslated habsolute =>
    cases k with
    | zero =>
      obtain rfl : _ = idl := by simpa using hfile
      constructor
      · intro he hfailure
        simp only [Nat.mul_zero, List.getElem?_cons_zero, Option.some.injEq] at he
        subst he
        cases hfailure
        rfl
      · simp
    | succ k => simp [Nat.mul_succ]
  | ungenerated habsolute =>
    cases k with
    | zero =>
      obtain rfl : _ = idl := by simpa using hfile
      constructor
      · intro he hfailure
        simp only [Nat.mul_zero, List.getElem?_cons_zero, Option.some.injEq] at he
        subst he
        cases hfailure
      · intro he hfailure
        simp only [Nat.mul_zero, Nat.zero_add, List.getElem?_cons_succ,
          List.getElem?_cons_zero, Option.some.injEq] at he
        subst he
        cases hfailure
        rfl
    | succ k => simp [Nat.mul_succ]
  | @handled fs middle after last first rest jsonFile events result habsolute hrest ih =>
    cases k with
    | zero =>
      constructor
      · intro he hfailure
        simp only [Nat.mul_zero, List.getElem?_cons_zero, Option.some.injEq] at he
        subst he
        cases hfailure
      · intro he hfailure
        simp only [Nat.mul_zero, Nat.zero_add, List.getElem?_cons_succ,
          List.getElem?_cons_zero, Option.some.injEq] at he
        subst he
        cases hfailure
    | succ k =>
      obtain ⟨htranslate, hgenerate⟩ := ih (k := k) (by simpa using hfile)
      constructor
      · intro he hfailure
        rw [htranslate (by simpa [Nat.mul_succ] using he) hfailure]
        rfl
      · intro he hfailure
        rw [hgenerate (by simpa [Nat.mul_succ] using he) hfailure]
        rfl

theorem firstFailure (h : Handling target immutable fs files events result after)
    (hstart : ¬ IsLost fs.workingDirectory)
    (hcalls : ∀ e ∈ events, ¬ IsLost e.after.workingDirectory) :
    FirstFailure target immutable files events result where
  planned := h.planned
  resolved := h.resolved
  stopped := h.stopped
  completed := h.completed hstart hcalls
  succeeded _ := h.succeeded
  untranslated _ _ _ _ hfile := (h.failed hfile).1
  ungenerated _ _ _ _ hfile := (h.failed hfile).2

end Handling

/-! ### Builds -/

theorem Job.prepared_eq_directory {job : Job} {fs after : FileSystem} {directory : Path}
    (h : job.prepared fs = (.ok directory, after)) : directory = job.target.directory := by
  have hdirectory := Target.makeReady_eq_directory h
  rwa [show job.target.basePackage = PackageName.cleaned job.basePackage from rfl,
    Target.below_cleaned] at hdirectory

namespace Toolchain

variable {σ : Type}

/-- What a build does whose calls are those for the discovered files, up to the first that fails:
recording them changes nothing else, and an earlier failure ends the build without a call. -/
def StopsAtFirstFailure (toolchain : Toolchain σ) (job : Job) (w : Workspace σ) : Prop :=
  (toolchain.recorded.build job).runIn (w.withEvents []) =
      (((toolchain.build job).runIn w).1,
        ((toolchain.build job).runIn w).2.withEvents (toolchain.calls job w)) ∧
    match job.prepared w.files with
    | (.error failure, _) =>
      toolchain.calls job w = [] ∧ ((toolchain.build job).runIn w).1 = .error failure
    | (.ok directory, fs) =>
      match job.discovered fs with
      | .error failure =>
        toolchain.calls job w = [] ∧ ((toolchain.build job).runIn w).1 = .error failure
      | .ok files => ∃ tasks,
        FirstFailure job.target job.immutable files (toolchain.calls job w) tasks ∧
          ((toolchain.build job).runIn w).1 = tasks.map fun tasks => ⟨directory, tasks⟩

/-- As long as there is a working directory, a build stops at the first failure. -/
theorem build_stopsAtFirstFailure (toolchain : Toolchain σ) (job : Job) (w : Workspace σ)
    (hprepared : ¬ IsLost (job.prepared w.files).2.workingDirectory)
    (hcalls : ∀ e ∈ toolchain.calls job w, ¬ IsLost e.after.workingDirectory) :
    toolchain.StopsAtFirstFailure job w := by
  refine ⟨runIn_build_recorded toolchain job w, ?_⟩
  have hbuilding := toolchain.building job w
  generalize toolchain.calls job w = events at hbuilding hcalls ⊢
  generalize ((toolchain.build job).runIn w).1 = result at hbuilding ⊢
  cases hbuilding with
  | unready hready =>
    rw [hready]
    exact ⟨rfl, rfl⟩
  | undiscovered hready hfiles =>
    simp only [hready, hfiles, and_self]
  | handled hready hfiles hhandling =>
    rw [hready] at hprepared
    simp only [hready, hfiles]
    refine ⟨_, hhandling.firstFailure hprepared hcalls, ?_⟩
    rw [Job.prepared_eq_directory hready]

/-- Two files, the JSON of the second of which cannot be written. -/
def obstructed : Job × Workspace Unit :=
  (⟨"a.idl,b.idl", .ofNames [], ⟨"out"⟩, "gen", false, false⟩,
    .ofFiles <| FileSystem.empty
      |>.add [] "a.idl" (.file [] 0)
      |>.add [] "b.idl" (.file [] 0)
      |>.add [] "out" .directory
      |>.add ["out"] "gen" .directory
      |>.add ["out", "gen"] "b.json" .directory)

theorem obstructed_stopsAtFirstFailure :
    (¬ IsLost (obstructed.1.prepared obstructed.2.files).2.workingDirectory) ∧
      (∀ e ∈ copying.calls obstructed.1 obstructed.2, ¬ IsLost e.after.workingDirectory) ∧
      copying.StopsAtFirstFailure obstructed.1 obstructed.2 := by
  have hprepared : ¬ IsLost (obstructed.1.prepared obstructed.2.files).2.workingDirectory := by
    decide +kernel
  have hcalls : ∀ e ∈ copying.calls obstructed.1 obstructed.2,
      ¬ IsLost e.after.workingDirectory := by
    decide +kernel
  exact ⟨hprepared, hcalls, build_stopsAtFirstFailure _ _ _ hprepared hcalls⟩

end Toolchain

end IdlBuild
