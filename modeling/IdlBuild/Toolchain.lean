import IdlBuild.Generator
import IdlBuild.Inputs.Selection
import IdlBuild.Target.Clearing
import IdlBuild.Translator.Task

/-!
# Toolchains

A translator and a generator make a toolchain, and a toolchain builds: the directory of the target
is made ready, the inputs are selected, and each file in turn is translated and then generated from.
The first failure ends the build; it is wrapped with the file and the phase that it happened in, and
no later file is begun.
-/

namespace IdlBuild

/-- What a build is asked to do. -/
structure Job where
  /-- Comma-separated IDL files and directories. -/
  inputs : String
  /-- The names that are left out in directories. -/
  excluded : Exclusions
  outputRoot : Path
  basePackage : String
  /-- Whether immutable types are asked for. -/
  immutable : Bool
  /-- Whether the directory of the target is cleared first. -/
  clearFirst : Bool

/-- What a successful build made. -/
structure Product where
  /-- The directory of the target. -/
  directory : Path
  /-- One task for each file, in order. -/
  tasks : List GeneratorTask
deriving DecidableEq, Repr

/-- A translator and a generator put together. -/
structure Toolchain (σ : Type) where
  translator : Translator σ
  generator : Generator σ

namespace Toolchain

variable {σ : Type}

/-! ### Messages -/

/-- The warning that output has no directory of its own. -/
def bareRootWarning (basePackage : String) (root : Path) : String :=
  s!"Base package {Text.quoted basePackage} is empty after sanitizing; " ++
    s!"output goes directly into {root.text}"

/-- What is said about the directory of the target. -/
def directoryNotice (clearFirst : Bool) (directory : Path) : String :=
  if clearFirst then s!"Cleaning output dir: {directory.text}"
  else
    s!"Using output dir: {directory.text} - consider setting clean = true " ++
      "to ensure this directory is clean on build"

/-! ### One file -/

/-- Translates one file and generates from it. -/
def handle (toolchain : Toolchain σ) (target : Target) (immutable : Bool) (idl : InputFile) :
    BuildM σ GeneratorTask := do
  let written := target.jsonFile idl.bareName
  let jsonFile ← BuildM.inPhase idl.path .translating
    (BuildM.ask s!"resolve {written.text}" fun fs => fs.absolute written)
  BuildM.note .info s!"Translating: {idl.path.text} to: {jsonFile.text}"
  BuildM.inPhase idl.path .translating (toolchain.translator.carryOut ⟨idl, jsonFile⟩)
  let task : GeneratorTask :=
    { jsonFile
      package := PackageName.ofFile target.basePackage idl.bareName
      basePackage := target.basePackage
      outputRoot := target.root
      immutable }
  BuildM.inPhase idl.path .generating (toolchain.generator.carryOut task)
  return task

/-- Handles files in order until one fails. -/
def handleAll (toolchain : Toolchain σ) (target : Target) (immutable : Bool) :
    List InputFile → BuildM σ (List GeneratorTask)
  | [] => return []
  | idl :: rest => do
    let task ← toolchain.handle target immutable idl
    return task :: (← handleAll toolchain target immutable rest)

/-! ### One build -/

/-- Announces a target and makes its directory ready. -/
def readyTarget (job : Job) (target : Target) : BuildM σ Unit := do
  if target.basePackage.isEmpty then
    BuildM.note .warn (bareRootWarning job.basePackage target.root)
  BuildM.note .info (directoryNotice job.clearFirst target.directory)
  let _ ← BuildM.onFiles fun fs =>
    Target.makeReady fs target.root target.basePackage job.clearFirst

/-- Builds what a job asks for. -/
def build (toolchain : Toolchain σ) (job : Job) : BuildM σ Product := do
  let target := Target.below job.outputRoot job.basePackage
  readyTarget job target
  BuildM.note .info s!"Using translator: {toolchain.translator.shownAs}"
  let files ← BuildM.readingFiles fun fs journal =>
    selectInputs fs job.inputs job.excluded journal
  if files.isEmpty then
    BuildM.note .info s!"No IDL files found in: {job.inputs}"
    return ⟨target.directory, []⟩
  let tasks ← toolchain.handleAll target job.immutable files
  return ⟨target.directory, tasks⟩

end Toolchain

end IdlBuild
