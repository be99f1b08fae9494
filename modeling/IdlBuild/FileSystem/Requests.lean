import IdlBuild.FileSystem.Resolve

/-!
# Requests to the file system

Reading and changing a file system by path, with the error that the operating system gives when a
request cannot be met. A request that fails changes nothing.
-/

namespace IdlBuild.FileSystem

open Text (Bytes)

/-- The mode of files that are made without asking for one. -/
def plainMode : Nat := 0o644

/-- Whether a mode lets anyone run the file. -/
def isExecutable (mode : Nat) : Bool := mode % 2 == 1 || mode / 8 % 2 == 1 || mode / 64 % 2 == 1

/-- Whether a path ends with a slash after a name. -/
def hasTrailingSlash (p : Path) : Bool := p.endsWithSlash

/-! ### Reading -/

/-- The content of a file. -/
def readFile (fs : FileSystem) (p : Path) : Except IoFault Bytes := do
  match ← fs.status p with
  | (_, .file content _) => return content
  | _ => throw .isDirectory

/-- The content of a file that holds UTF-8. -/
def readText (fs : FileSystem) (p : Path) : Except IoFault String := do
  match Text.decode (← fs.readFile p) with
  | some text => return text
  | none => throw (.other "stream did not contain valid UTF-8")

/-- The entries of a directory, in the order in which they are listed. -/
def readDirectory (fs : FileSystem) (p : Path) : Except IoFault (List (FileName × Node)) := do
  match ← fs.status p with
  | (location, .directory) => return fs.children location
  | _ => throw .notDirectory

/-! ### Making entries -/

/-- Makes one directory. -/
def makeDirectory (fs : FileSystem) (p : Path) : Except IoFault FileSystem := do
  match ← fs.locateLast p with
  | (directory, .name name) =>
    match fs.node? (directory ++ [name]) with
    | some _ => throw .fileExists
    | none => return fs.add directory name .directory
  | _ => throw .fileExists

/-- Makes a directory and the parents that it lacks; `depth` bounds their number. Directories that
are there already are left alone, and what was made before a failure stays. -/
def makeDirectoriesWithin : (depth : Nat) → FileSystem → Path → Except IoFault Unit × FileSystem
  | 0, fs, _ => (.error .noSuchEntry, fs)
  | depth + 1, fs, p =>
    if p.bytes.isEmpty then (.ok (), fs)
    else match fs.makeDirectory p with
      | .ok made => (.ok (), made)
      | .error fault =>
        if !fault.isMissing then
          (if fs.isDirectoryPath p then .ok () else .error fault, fs)
        else match p.parent? with
          | none => (.error (.other "failed to create whole tree"), fs)
          | some parent =>
            match makeDirectoriesWithin depth fs parent with
            | (.error fault, fs) => (.error fault, fs)
            | (.ok (), fs) =>
              match fs.makeDirectory p with
              | .ok made => (.ok (), made)
              | .error fault => (if fs.isDirectoryPath p then .ok () else .error fault, fs)

/-- Makes a directory and the parents that it lacks. Each parent is shorter. -/
def makeDirectories (fs : FileSystem) (p : Path) : Except IoFault Unit × FileSystem :=
  makeDirectoriesWithin (p.bytes.length + 1) fs p

/-- Makes a symbolic link. -/
def makeLink (fs : FileSystem) (p target : Path) : Except IoFault FileSystem := do
  if target.bytes.contains nul then throw .nulInPath
  if target.bytes.isEmpty then throw .noSuchEntry
  match ← fs.locateLast p with
  | (directory, .name name) =>
    match fs.node? (directory ++ [name]) with
    | some _ => throw .fileExists
    | none =>
      if hasTrailingSlash p then throw .noSuchEntry
      return fs.add directory name (.link target)
  | _ => throw .fileExists

/-- Gives a file a content, making the file if there is none; links are followed. -/
def writeFile (fs : FileSystem) (p : Path) (content : Bytes) : Except IoFault FileSystem := do
  if hasTrailingSlash p then
    let _ ← fs.locateLast p
    throw .isDirectory
  match ← fs.locate true p with
  | .found _ .directory => throw .isDirectory
  | .found location (.file _ mode) => return fs.overwrite location content mode
  | .found _ (.link _) => throw .tooManyLinks
  | .vacant directory name => return fs.add directory name (.file content plainMode)

/-- Gives a file another mode; links are followed. -/
def setMode (fs : FileSystem) (p : Path) (mode : Nat) : Except IoFault FileSystem := do
  match ← fs.status p with
  | (location, .file content _) => return fs.overwrite location content mode
  | _ => return fs

/-! ### Taking entries away -/

/-- Takes a file or a link away. -/
def removeFile (fs : FileSystem) (p : Path) : Except IoFault FileSystem := do
  match ← fs.locateLast p with
  | (directory, .name name) =>
    match fs.node? (directory ++ [name]) with
    | none => throw .noSuchEntry
    | some .directory => throw .isDirectory
    | some _ =>
      if hasTrailingSlash p then throw .notDirectory else return fs.erase (directory ++ [name])
  | _ => throw .isDirectory

/-- Takes an empty directory away. -/
def removeDirectory (fs : FileSystem) (p : Path) : Except IoFault FileSystem := do
  match ← fs.locateLast p with
  | (directory, .name name) =>
    match fs.node? (directory ++ [name]) with
    | none => throw .noSuchEntry
    | some .directory =>
      if (fs.children (directory ++ [name])).isEmpty then return fs.erase (directory ++ [name])
      else throw .notEmpty
    | some _ => throw .notDirectory
  | (_, .here) => throw .invalidArgument
  | (_, .up) => throw .notEmpty
  | (_, .root) => throw .deviceBusy

end IdlBuild.FileSystem
