import IdlBuild.Child.Run

/-!
# Generators

A generator makes sources from one translated file. It gets the JSON file and the packages that the
sources belong to. It can be a program that is run on each file; where there is none, the build
leaves it at the JSON file.
-/

namespace IdlBuild

/-- One unit of work: a JSON file and where its sources belong. -/
structure GeneratorTask where
  jsonFile : Path
  /-- The package of this file's sources. -/
  package : String
  basePackage : String
  /-- The root that the package directories lie under. -/
  outputRoot : Path
  /-- Whether immutable types are asked for. -/
  immutable : Bool
deriving DecidableEq, Repr

/-- Something that turns translated files into sources. -/
structure Generator (σ : Type) where
  /-- Makes the sources of the task. -/
  carryOut : GeneratorTask → BuildM σ Unit

namespace Generator

/-- Generates nothing. -/
def absent {σ : Type} : Generator σ where
  carryOut task := BuildM.note .info <|
    s!"No generator configured; skipping sources for package {task.package} " ++
      s!"({task.jsonFile.text})"

/-- The command line of a generator program. -/
def invocation (program : String) (arguments : List String) (task : GeneratorTask) :
    List String :=
  program :: arguments ++
    ["--json", task.jsonFile.text, "--package", task.package,
     "--base-package", task.basePackage, "--out", task.outputRoot.text] ++
    (if task.immutable then ["--immutable"] else [])

/-- The generator that runs a program; the time limit is in milliseconds. -/
def ofProgram {σ : Type} (launcher : Child.Launcher σ) (program : String)
    (arguments : List String) (limit : Option Nat) : Generator σ where
  carryOut task := do
    let line := invocation program arguments task
    BuildM.note .debug ("Running: " ++ " ".intercalate line)
    match ← Child.run launcher line limit with
    | some detail =>
      BuildM.fail (.generatorFailed task.jsonFile (Text.quotedList line ++ " " ++ detail))
    | none => return

end Generator

end IdlBuild
