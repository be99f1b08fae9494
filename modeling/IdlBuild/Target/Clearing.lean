import IdlBuild.Failure
import IdlBuild.FileSystem.Walk
import IdlBuild.Stepwise
import IdlBuild.Target.Basic

/-!
# Clearing targets

The directory of a target can be cleared before a build, so that nothing is left of definitions that
are gone. Clearing removes everything at and below the directory, children before parents and
siblings in the order of their names; a link is removed and never followed. It stops at the first
entry that cannot be removed, and what was removed before stays removed.
-/

namespace IdlBuild.Target

/-! ### Removers -/

/-- The two ways to take an entry away. -/
structure Remover where
  file : FileSystem → Path → Except IoFault FileSystem
  directory : FileSystem → Path → Except IoFault FileSystem

namespace Remover

/-- Removal as the operating system does it. -/
def plain : Remover := ⟨FileSystem.removeFile, FileSystem.removeDirectory⟩

/-- Removal that fails at some paths. -/
def refusing (refused : Path → Option IoFault) : Remover where
  file fs p := match refused p with
    | some fault => .error fault
    | none => fs.removeFile p
  directory fs p := match refused p with
    | some fault => .error fault
    | none => fs.removeDirectory p

end Remover

/-! ### Clearing -/

/-- A removal, its failure named after the path. -/
def removed (fs : FileSystem) (p : Path) :
    Except IoFault FileSystem → Except Failure Unit × FileSystem
  | .ok fs => (.ok (), fs)
  | .error fault => (.error (.notRemoved p fault), fs)

/-- Removes what is inside a directory and then the directory, down to a depth. -/
def removeTree (remover : Remover) :
    (depth : Nat) → FileSystem → Path → Except Failure Unit × FileSystem
  | 0, fs, p => removed fs p (.error .tooManyLinks)
  | depth + 1, fs, p =>
    match fs.readDirectory p with
    | .error fault => removed fs p (.error (FileSystem.WalkFault.request p fault).toIoFault)
    | .ok entries =>
      let inside := inTurn (fun fs (entry : FileName × Node) =>
        let child := p.join ⟨entry.1⟩
        if entry.2 = .directory then removeTree remover depth fs child
        else removed fs child (remover.file fs child)) fs (FileSystem.sortedByName entries)
      match inside with
      | (.ok (), fs) => removed fs p (remover.directory fs p)
      | (.error failure, fs) => (.error failure, fs)

/-- Removes a path and everything below it. A path where nothing is counts as removed. -/
def clearWith (remover : Remover) (fs : FileSystem) (p : Path) :
    Except Failure Unit × FileSystem :=
  match fs.linkStatus p with
  | .error fault => if fault.isMissing then (.ok (), fs) else removed fs p (.error fault)
  | .ok (_, .directory) => removeTree remover (fs.entries.length + 1) fs p
  | .ok _ => removed fs p (remover.file fs p)

/-- Removes a path and everything below it. -/
def clear (fs : FileSystem) (p : Path) : Except Failure Unit × FileSystem :=
  clearWith .plain fs p

/-! ### Making ready -/

/-- Makes a directory and the parents that it lacks. -/
def provideDirectory (fs : FileSystem) (p : Path) : Except Failure Unit × FileSystem :=
  match fs.makeDirectories p with
  | (.ok (), fs) => (.ok (), fs)
  | (.error fault, fs) =>
    (if fs.isDirectoryPath p then .ok () else .error (.notCreated p fault), fs)

/-- Clears the directory of a target if asked to, and makes sure that it is there. -/
def makeReady (fs : FileSystem) (root : Path) (basePackage : String) (clearFirst : Bool) :
    Except Failure Path × FileSystem :=
  let directory := (Target.below root basePackage).directory
  match if clearFirst then clear fs directory else (.ok (), fs) with
  | (.error failure, fs) => (.error failure, fs)
  | (.ok (), fs) =>
    match provideDirectory fs directory with
    | (.error failure, fs) => (.error failure, fs)
    | (.ok (), fs) => (.ok directory, fs)

end IdlBuild.Target
