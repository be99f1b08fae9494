import IdlBuild.FileSystem.Basic
import IdlBuild.SystemFault

/-!
# Resolving paths

How the operating system finds what a path names. The pieces are taken one after another from the
root or the working directory; a symbolic link on the way is replaced by its target, a link at the
end only when it is to be followed or a slash comes after it. At most 40 links are followed. A name
has at most 255 bytes and a path fewer than 4096.
-/

namespace IdlBuild

/-- Where a path leads: to an entry, or to a free name in a directory. -/
inductive Place where
  | found (location : Location) (node : Node)
  | vacant (directory : Location) (name : FileName)
deriving DecidableEq, Repr

namespace FileSystem

/-! ### Limits -/

/-- The number of bytes that a path stays below. -/
def pathLimit : Nat := 4096

/-- The number of links that are followed on the way to one entry. -/
def linkLimit : Nat := 40

/-! ### One stretch without links -/

/-- Where a walk along the pieces of a path stops: at its end, or at a link to follow. -/
inductive Stop where
  | arrived (place : Place)
  | link (target : Path) (directory : Location) (rest : List FileName)

/-- Walks from a directory along the pieces, up to the first link that is to be followed. A lost
directory holds nothing, but leads to the directory that it was in, be that lost or not. -/
def walk (fs : FileSystem) (followLast : Bool) (directory : Location) :
    List FileName → Except IoFault Stop
  | [] => .ok (.arrived (.found directory .directory))
  | piece :: rest =>
    if piece = [dot] then walk fs followLast directory rest
    else if piece = [dot, dot] then walk fs followLast directory.dropLast rest
    else if IsLost directory then .error .noSuchEntry
    else if nameLimit < piece.length then .error .nameTooLong
    else
      let location := directory ++ [piece]
      match fs.node? location with
      | none => if rest = [] then .ok (.arrived (.vacant directory piece)) else .error .noSuchEntry
      | some .directory => walk fs followLast location rest
      | some (.file content mode) =>
        if rest = [] then .ok (.arrived (.found location (.file content mode)))
        else .error .notDirectory
      | some (.link target) =>
        if rest = [] ∧ followLast = false then .ok (.arrived (.found location (.link target)))
        else .ok (.link target directory rest)

/-! ### Whole paths -/

/-- The pieces that a path gives to a walk: a slash at the end asks for a directory, as a final dot
does. -/
def steps (p : Path) : List FileName :=
  let named := p.pieces.filter (· ≠ [])
  if p.endsWithSlash && !named.isEmpty then named ++ [[dot]] else named

/-- Walks along pieces and through at most `links` links. -/
def follow (fs : FileSystem) (followLast : Bool) :
    (links : Nat) → Location → List FileName → Except IoFault Place
  | links, directory, pieces =>
    match fs.walk followLast directory pieces with
    | .error fault => .error fault
    | .ok (.arrived place) => .ok place
    | .ok (.link target at' rest) =>
      match links with
      | 0 => .error .tooManyLinks
      | links + 1 =>
        follow fs followLast links (if target.isAbsolute then [] else at') (steps target ++ rest)

/-- Where the walk along a path begins. -/
def start (fs : FileSystem) (p : Path) : Except IoFault Location :=
  if p.bytes.contains nul then .error .nulInPath
  else if p.bytes.isEmpty then .error .noSuchEntry
  else if pathLimit ≤ p.bytes.length then .error .nameTooLong
  else if p.isAbsolute then .ok []
  else .ok fs.workingDirectory

/-- What a path leads to. -/
def locate (fs : FileSystem) (followLast : Bool) (p : Path) : Except IoFault Place := do
  fs.follow followLast linkLimit (← fs.start p) (steps p)

/-- The last piece of a path: the root, a dot, two dots, or a name. -/
inductive Last where
  | root
  | here
  | up
  | name (name : FileName)
deriving DecidableEq, Repr

/-- The directory that the last piece of a path is looked up in, and that piece. -/
def locateLast (fs : FileSystem) (p : Path) : Except IoFault (Location × Last) := do
  let directory ← fs.start p
  let named := p.pieces.filter (· ≠ [])
  match named.getLast? with
  | none => return ([], .root)
  | some piece =>
    match ← fs.follow true linkLimit directory (named.dropLast ++ [[dot]]) with
    | .found location .directory =>
      if piece = [dot] then return (location, .here)
      else if piece = [dot, dot] then return (location, .up)
      else if IsLost location then throw .noSuchEntry
      else if nameLimit < piece.length then throw .nameTooLong
      else return (location, .name piece)
    | .found .. => throw .notDirectory
    | .vacant .. => throw .noSuchEntry

/-! ### What is there -/

/-- The entry that a path names, links followed. -/
def status (fs : FileSystem) (p : Path) : Except IoFault (Location × Node) := do
  match ← fs.locate true p with
  | .found location node => return (location, node)
  | .vacant .. => throw .noSuchEntry

/-- The entry that a path names, a link at the end not followed. -/
def linkStatus (fs : FileSystem) (p : Path) : Except IoFault (Location × Node) := do
  match ← fs.locate false p with
  | .found location node => return (location, node)
  | .vacant .. => throw .noSuchEntry

/-- Whether something is there. -/
def pathExists (fs : FileSystem) (p : Path) : Bool := (fs.status p).toBool

/-- Whether a directory is there. -/
def isDirectoryPath (fs : FileSystem) (p : Path) : Bool :=
  match fs.status p with
  | .ok (_, .directory) => true
  | _ => false

/-! ### Paths from the root -/

/-- The path of a location. -/
def pathOf (location : Location) : Path := ⟨slash :: Text.intercalated slash location⟩

/-- A path made absolute against the working directory. Links are not resolved. -/
def absolute (fs : FileSystem) (p : Path) : Except IoFault Path :=
  if p.bytes.isEmpty then .error (.other "cannot make an empty path absolute")
  else if p.isAbsolute then .ok (Path.absoluteFrom ⟨[slash]⟩ p)
  else if IsLost fs.workingDirectory then .error .noSuchEntry
  else .ok (Path.absoluteFrom (pathOf fs.workingDirectory) p)

end FileSystem

end IdlBuild
