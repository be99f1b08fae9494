import IdlBuild.FileSystem.Walk
import IdlBuild.Inputs.Basic
import IdlBuild.Journal
import IdlBuild.PackageName
import IdlBuild.Stepwise

/-!
# Selecting inputs

Which IDL files a list of inputs stands for. A file that is named is taken whatever its name; a
directory is walked for files whose name ends in `.idl`, those with an excluded name left out. A
file that is reached twice counts once, at its first place. The first entry of the list that does
not exist ends the selection.
-/

namespace IdlBuild

/-! ### Findings -/

/-- What has been found so far, and the journal. -/
structure Finding where
  files : List InputFile
  journal : Journal

namespace Finding

/-- Adds a file that has not been found before. -/
def add (finding : Finding) (file : InputFile) : Finding :=
  if finding.files.any fun found => decide (found.path.Same file.path) then finding
  else { finding with files := finding.files ++ [file] }

/-- Adds a line to the journal. -/
def note (finding : Finding) (severity : Severity) (message : String) : Finding :=
  { finding with journal := finding.journal.add severity message }

/-- Adds the file at a path. -/
def addPath (fs : FileSystem) (finding : Finding) (p : Path) : Except Failure Unit × Finding :=
  match InputFile.ofPath fs p with
  | .ok file => (.ok (), finding.add file)
  | .error failure => (.error failure, finding)

end Finding

/-! ### Directories -/

/-- Whether a file of this name is looked for in directories. -/
def hasIdlSuffix (name : String) : Bool := PackageName.suffix.toList.isSuffixOf name.toList

/-- Takes one step of a walk below a directory. -/
def considerVisit (fs : FileSystem) (directory : Path) (exclusions : Exclusions)
    (finding : Finding) : FileSystem.Visit → Except Failure Unit × Finding
  | .fault fault =>
    (.ok (), finding.note .warn
      s!"Skipping unreadable entry under {directory.text}: {fault.message}")
  | .entry _ .directory => (.ok (), finding)
  | .entry p .file =>
    let name := Text.decodeLossy (p.fileName?.getD p.bytes)
    if !hasIdlSuffix name then (.ok (), finding)
    else if exclusions.contains name then
      (.ok (), finding.note .debug s!"Excluding file: {p.text}")
    else finding.addPath fs p

/-! ### Lists -/

/-- Takes one entry of a list of inputs. -/
def considerInput (fs : FileSystem) (exclusions : Exclusions) (finding : Finding)
    (input : String) : Except Failure Unit × Finding :=
  let p := Path.ofText input
  if !fs.pathExists p then (.error (.missingInput p), finding)
  else if fs.isDirectoryPath p then
    inTurn (considerVisit fs p exclusions) finding (fs.walkBelow p)
  else finding.addPath fs p

/-- The IDL files that a list of inputs stands for, in the order in which they are first met. -/
def selectInputs (fs : FileSystem) (inputs : String) (exclusions : Exclusions)
    (journal : Journal) : Except Failure (List InputFile) × Journal :=
  let journal := journal.add .debug s!"Tokenizing idl-files={inputs}"
  match inTurn (considerInput fs exclusions) ⟨[], journal⟩ (commaList inputs) with
  | (.ok (), finding) => (.ok finding.files, finding.journal)
  | (.error failure, finding) => (.error failure, finding.journal)

end IdlBuild
