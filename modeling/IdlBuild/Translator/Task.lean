import IdlBuild.FileSystem.Walk
import IdlBuild.Inputs.Basic
import IdlBuild.Workspace

/-!
# Translators

A translator turns an IDL file into JSON at a path; the two make a task. A remote translator needs
the files that the IDL file may include, so a task has a bundle: the IDL file itself and every other
regular file of its directory, in the order of their names. What is translated must be a JSON array.
-/

namespace IdlBuild

open Text (Bytes)

/-- One unit of work: an IDL file and the path that its JSON goes to. -/
structure TranslatorTask where
  idl : InputFile
  jsonFile : Path
deriving DecidableEq, Repr

/-! ### Bundles -/

/-- A file as it is sent to a translator: its bare name, as it is shown, and its content. -/
structure BundledFile where
  name : String
  content : Bytes
deriving DecidableEq, Repr

/-- Reads one file of a bundle. -/
def BundledFile.read (fs : FileSystem) (p : Path) : Except Failure BundledFile :=
  match fs.readFile p with
  | .ok content => .ok ⟨Text.decodeLossy (p.fileName?.getD []), content⟩
  | .error fault => .error (.operation s!"read {p.text}" fault)

/-- The files that the visits of a directory bring, the primary file left out. An entry that is not
there, as the end of a dangling link is not, is passed over. -/
def neighbours (fs : FileSystem) (directory primary : Path) :
    List FileSystem.Visit → Except Failure (List BundledFile)
  | [] => .ok []
  | .fault fault :: rest =>
    if fault.isMissing then neighbours fs directory primary rest
    else .error (.operation s!"list {directory.text}" fault.toIoFault)
  | .entry p kind :: rest =>
    if kind = .directory ∨ p.Same primary then neighbours fs directory primary rest
    else do
      let file ← BundledFile.read fs p
      return file :: (← neighbours fs directory primary rest)

/-- The primary file, then the other regular files of its directory. -/
def TranslatorTask.bundle (task : TranslatorTask) (fs : FileSystem) :
    Except Failure (List BundledFile) := do
  let primary := task.idl.path
  let directory := task.idl.directory
  let first ← BundledFile.read fs primary
  return first :: (← neighbours fs directory primary (fs.list directory))

/-! ### Translated output -/

/-- The byte that a JSON array starts with. -/
def arrayStart : UInt8 := 0x5B

/-- Accepts bytes that start a JSON array. -/
def requireArray (output : Bytes) (producer : String) : Except Failure Unit :=
  if output.head? = some arrayStart then .ok ()
  else .error (.notArray producer (Text.decodeLossy output))

/-- Writes translated output, making the directories that its path lacks. -/
def storeJson (output : Bytes) (jsonFile : Path) (fs : FileSystem) :
    Except Failure Unit × FileSystem :=
  let made : Except Failure Unit × FileSystem := match jsonFile.parent? with
    | none => (.ok (), fs)
    | some parent =>
      match fs.makeDirectories parent with
      | (.ok (), fs) => (.ok (), fs)
      | (.error fault, fs) => (.error (.operation s!"create {parent.text}" fault), fs)
  match made with
  | (.error failure, fs) => (.error failure, fs)
  | (.ok (), fs) =>
    match fs.writeFile jsonFile output with
    | .ok fs => (.ok (), fs)
    | .error fault => (.error (.operation s!"write {jsonFile.text}" fault), fs)

/-! ### Translators -/

/-- Something that turns IDL files into JSON. -/
structure Translator (σ : Type) where
  /-- The program or the service address, for messages. -/
  shownAs : String
  /-- Leaves a JSON array at the path of the task. -/
  carryOut : TranslatorTask → BuildM σ Unit

/-- How a translator is to be reached. -/
inductive TranslatorKind where
  | service (address : String)
  | program (name : String)
deriving DecidableEq, Repr

/-- A text that starts with `http://` or `https://` is an address, all else is a program. -/
def TranslatorKind.ofText (text : String) : TranslatorKind :=
  let startsWith (scheme : String) : Bool := scheme.toList.isPrefixOf text.toList
  if startsWith "http://" || startsWith "https://" then .service text else .program text

end IdlBuild
