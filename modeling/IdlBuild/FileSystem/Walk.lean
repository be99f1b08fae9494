import IdlBuild.FileSystem.Requests

/-!
# Walks

The entries below a directory, visited one after another: each directory before its contents, the
entries of one directory in the order of their names, links followed. A link to a directory that is
open on the way to it is a loop: it is reported and not entered, so that every walk ends. An entry
that cannot be read is reported in its place and hides no other.
-/

namespace IdlBuild.FileSystem

/-! ### Order of names -/

section Sorting

variable {κ α : Type} [LE κ] [DecidableLE κ]

/-- Puts an entry before the first one with a greater name. -/
def insertByName (entry : κ × α) : List (κ × α) → List (κ × α)
  | [] => [entry]
  | first :: rest =>
    if first.1 ≤ entry.1 then first :: insertByName entry rest else entry :: first :: rest

/-- The entries in the order of their names. -/
def sortedByName (entries : List (κ × α)) : List (κ × α) :=
  entries.foldr insertByName []

theorem insertByName_perm (entry : κ × α) (entries : List (κ × α)) :
    (insertByName entry entries).Perm (entry :: entries) := by
  induction entries with
  | nil => exact List.Perm.refl _
  | cons first rest ih =>
    unfold insertByName
    split
    · exact (ih.cons first).trans (List.Perm.swap ..)
    · exact List.Perm.refl _

theorem sortedByName_perm (entries : List (κ × α)) :
    (sortedByName entries).Perm entries := by
  induction entries with
  | nil => exact List.Perm.refl _
  | cons entry rest ih => exact (insertByName_perm entry _).trans (ih.cons entry)

end Sorting

/-! ### Faults -/

/-- Why an entry could not be visited. -/
inductive WalkFault where
  | request (path : Path) (fault : IoFault)
  | loop (ancestor child : Path)
deriving DecidableEq, Repr

namespace WalkFault

/-- How a fault of a walk is shown. -/
def message : WalkFault → String
  | request path fault => s!"IO error for operation on {path.text}: {fault.message}"
  | loop ancestor child =>
    s!"File system loop found: {child.text} points to an ancestor {ancestor.text}"

/-- Whether the entry turned out not to be there. -/
def isMissing : WalkFault → Bool
  | request _ fault => fault.isMissing
  | loop .. => false

/-- The fault as one of the operating system. -/
def toIoFault (fault : WalkFault) : IoFault := .other fault.message

end WalkFault

/-! ### Visits -/

/-- What a visited entry is, links followed. -/
inductive Kind where
  | directory
  | file
deriving DecidableEq, Repr

/-- One step of a walk. -/
inductive Visit where
  | entry (path : Path) (kind : Kind)
  | fault (fault : WalkFault)
deriving DecidableEq, Repr

/-- A directory on the way from the root of a walk to the current entry. -/
structure OpenDirectory where
  location : Location
  path : Path
deriving DecidableEq, Repr

/-- The innermost open directory at a location. -/
def openAt? (opened : List OpenDirectory) (location : Location) : Option OpenDirectory :=
  opened.find? fun d => d.location == location

/-- One entry of a directory, and the directory to go on into when it is one. -/
def visitEntry (fs : FileSystem) (opened : List OpenDirectory) (child : Path) :
    Node → Visit × Option OpenDirectory
  | .file _ _ => (.entry child .file, none)
  | .directory =>
    match fs.status child with
    | .ok (location, _) => (.entry child .directory, some ⟨location, child⟩)
    | .error fault => (.fault (.request child fault), none)
  | .link _ =>
    match fs.status child with
    | .error fault => (.fault (.request child fault), none)
    | .ok (location, .directory) =>
      match openAt? opened location with
      | some ancestor => (.fault (.loop ancestor.path child), none)
      | none => (.entry child .directory, some ⟨location, child⟩)
    | .ok _ => (.entry child .file, none)

/-- Visits what is below the innermost open directory, down to a depth. -/
def visitBelow (fs : FileSystem) : (depth : Nat) → OpenDirectory → List OpenDirectory → List Visit
  | 0, _, _ => []
  | depth + 1, directory, opened =>
    match fs.readDirectory directory.path with
    | .error fault => [.fault (.request directory.path fault)]
    | .ok entries =>
      (sortedByName entries).flatMap fun (name, node) =>
        let (visit, inner?) :=
          visitEntry fs (directory :: opened) (directory.path.join ⟨name⟩) node
        match inner? with
        | none => [visit]
        | some inner => visit :: visitBelow fs depth inner (directory :: opened)

/-- A depth that no walk reaches: a directory entered through a link is not open yet, and between
two such directories a walk goes only as deep as the tree. -/
def depthBound (fs : FileSystem) : Nat := (fs.entries.length + 2) * (fs.entries.length + 2)

/-- The entries below a directory. -/
def walkBelow (fs : FileSystem) (directory : Path) : List Visit :=
  match fs.status directory with
  | .error fault => [.fault (.request directory fault)]
  | .ok (location, _) => fs.visitBelow fs.depthBound ⟨location, directory⟩ []

/-- One entry of a directory that is listed and not walked. A sub-directory is not looked up, since
nothing in it is asked for. -/
def listEntry (fs : FileSystem) (directory : OpenDirectory) (name : FileName) (node : Node) : Visit :=
  if node = .directory then .entry (directory.path.join ⟨name⟩) .directory
  else (visitEntry fs [directory] (directory.path.join ⟨name⟩) node).1

/-- The entries of a directory itself, not those of its sub-directories. -/
def list (fs : FileSystem) (directory : Path) : List Visit :=
  match fs.status directory with
  | .error fault => [.fault (.request directory fault)]
  | .ok (location, _) =>
    match fs.readDirectory directory with
    | .error fault => [.fault (.request directory fault)]
    | .ok entries =>
      (sortedByName entries).map fun (name, node) => fs.listEntry ⟨location, directory⟩ name node

end IdlBuild.FileSystem
