import IdlBuild.Failure
import IdlBuild.FileSystem.Requests
import IdlBuild.Journal

/-!
# The workspace of a build

What a build reads and changes: the files, the journal, and whatever the programs and services that
it calls keep for themselves (the parameter `σ`). A build step is a function on workspaces that ends
with a value or a failure; either way the changes it made before stay.
-/

namespace IdlBuild

/-- The files, the journal, and the state of what the build calls. -/
structure Workspace (σ : Type) where
  files : FileSystem
  journal : Journal
  callees : σ

/-- A build step. -/
abbrev BuildM (σ α : Type) := ExceptT Failure (StateM (Workspace σ)) α

namespace BuildM

variable {σ α : Type}

/-- The result of a step and the workspace it leaves. -/
def runIn (step : BuildM σ α) (w : Workspace σ) : Except Failure α × Workspace σ :=
  (ExceptT.run step).run w

/-- The step that a function on workspaces describes. -/
def ofFunction (f : Workspace σ → Except Failure α × Workspace σ) : BuildM σ α :=
  ExceptT.mk (fun w => f w)

/-- Adds a line to the journal. -/
def note (severity : Severity) (message : String) : BuildM σ Unit :=
  ofFunction fun w => (.ok (), { w with journal := w.journal.add severity message })

/-- A request to the file system. -/
def onFiles (f : FileSystem → Except Failure α × FileSystem) : BuildM σ α :=
  ofFunction fun w =>
    let (result, files) := f w.files
    (result, { w with files })

/-- A step that reads the files and adds to the journal. -/
def readingFiles (f : FileSystem → Journal → Except Failure α × Journal) : BuildM σ α :=
  ofFunction fun w =>
    let (result, journal) := f w.files w.journal
    (result, { w with journal })

/-- A question about the files, its failure told in a context. -/
def ask (context : String) (f : FileSystem → Except IoFault α) : BuildM σ α :=
  ofFunction fun w =>
    match f w.files with
    | .ok a => (.ok a, w)
    | .error fault => (.error (.operation context fault), w)

/-- Ends with a failure. -/
def fail (failure : Failure) : BuildM σ α := throw failure

/-- A step whose failure is wrapped with the file and the phase that it belongs to. -/
def inPhase (path : Path) (phase : Phase) (step : BuildM σ α) : BuildM σ α :=
  ofFunction fun w =>
    match step.runIn w with
    | (.ok a, w) => (.ok a, w)
    | (.error failure, w) => (.error (.within path phase failure), w)

/-! ### Running steps -/

variable {β : Type}

@[simp] theorem runIn_pure (a : α) (w : Workspace σ) :
    (pure a : BuildM σ α).runIn w = (.ok a, w) := rfl

@[simp] theorem runIn_ofFunction (f : Workspace σ → Except Failure α × Workspace σ)
    (w : Workspace σ) : (ofFunction f).runIn w = f w := rfl

@[simp] theorem runIn_fail (failure : Failure) (w : Workspace σ) :
    (fail failure : BuildM σ α).runIn w = (.error failure, w) := rfl

/-- A failed step ends the build, a step that gives a value hands it on. -/
theorem runIn_bind (step : BuildM σ α) (next : α → BuildM σ β) (w : Workspace σ) :
    (step >>= next).runIn w =
      match step.runIn w with
      | (.ok a, after) => (next a).runIn after
      | (.error failure, after) => (.error failure, after) := by
  have hbind : (step >>= next).runIn w
      = ExceptT.bindCont next (step.runIn w).1 (step.runIn w).2 := rfl
  rw [hbind]
  rcases step.runIn w with ⟨failure | a, after⟩
  · rfl
  · rfl

theorem runIn_bind_of_ok {step : BuildM σ α} {w after : Workspace σ} {a : α}
    (h : step.runIn w = (.ok a, after)) (next : α → BuildM σ β) :
    (step >>= next).runIn w = (next a).runIn after := by
  rw [runIn_bind, h]

theorem runIn_bind_of_error {step : BuildM σ α} {w after : Workspace σ} {failure : Failure}
    (h : step.runIn w = (.error failure, after)) (next : α → BuildM σ β) :
    (step >>= next).runIn w = (.error failure, after) := by
  rw [runIn_bind, h]

@[simp] theorem runIn_note_bind (severity : Severity) (message : String)
    (next : Unit → BuildM σ β) (w : Workspace σ) :
    (note severity message >>= next).runIn w =
      (next ()).runIn { w with journal := w.journal.add severity message } := rfl

theorem runIn_inPhase (path : Path) (phase : Phase) (step : BuildM σ α) (w : Workspace σ) :
    (inPhase path phase step).runIn w =
      match step.runIn w with
      | (.ok a, after) => (.ok a, after)
      | (.error failure, after) => (.error (.within path phase failure), after) := rfl

end BuildM

end IdlBuild
