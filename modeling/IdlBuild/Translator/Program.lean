import IdlBuild.Child.Run
import IdlBuild.Translator.Task

/-!
# Translator programs

A translator that is a program, which is called with the path that it has to write to and the path
of the IDL file. What an earlier call left at the JSON path is removed first, so whatever is there
afterwards is this call's own; it must be there and be a JSON array.
-/

namespace IdlBuild

/-- A translator program. The time limit is in milliseconds. -/
structure TranslatorProgram where
  program : String
  /-- The arguments before the option that names the JSON path. -/
  arguments : List String
  limit : Option Nat
deriving DecidableEq, Repr

namespace TranslatorProgram

/-- The option that the JSON path follows. -/
def jsonOption : String := "-j"

/-- The absolute form of a path. -/
def absoluteText (fs : FileSystem) (p : Path) : Except Failure String :=
  match fs.absolute p with
  | .ok absolute => .ok absolute.text
  | .error fault => .error (.operation s!"resolve {p.text}" fault)

/-- The command line of a task, the program first. -/
def invocation (t : TranslatorProgram) (task : TranslatorTask) (fs : FileSystem) :
    Except Failure (List String) := do
  let json ← absoluteText fs task.jsonFile
  let idl ← absoluteText fs task.idl.path
  return t.program :: t.arguments ++ [jsonOption, json, idl]

/-- Removes what is at the JSON path, if anything is. -/
def removePrevious (p : Path) (fs : FileSystem) : Except Failure Unit × FileSystem :=
  match fs.removeFile p with
  | .ok fs => (.ok (), fs)
  | .error fault =>
    if fault.isMissing then (.ok (), fs)
    else (.error (.operation s!"remove previous output {p.text}" fault), fs)

/-- Looks at what the program has written. -/
def checkOutput (program : String) (p : Path) (fs : FileSystem) : Except Failure Unit :=
  match fs.readFile p with
  | .ok output => requireArray output program
  | .error fault =>
    if fault.isMissing then .error (.notArray program s!"no output written to {p.text}")
    else .error (.operation s!"read translator output {p.text}" fault)

/-- The translator that calls the program. -/
def translator {σ : Type} (launcher : Child.Launcher σ) (t : TranslatorProgram) :
    Translator σ where
  shownAs := t.program
  carryOut task := do
    let arguments ← BuildM.onFiles fun fs => (t.invocation task fs, fs)
    BuildM.onFiles (removePrevious task.jsonFile)
    BuildM.note .debug ("Running: " ++ " ".intercalate arguments)
    match ← Child.run launcher arguments t.limit with
    | some detail => BuildM.fail (.translatorFailed arguments detail)
    | none => BuildM.onFiles fun fs => (checkOutput t.program task.jsonFile fs, fs)

end TranslatorProgram

end IdlBuild
