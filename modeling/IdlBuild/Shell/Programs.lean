import IdlBuild.Shell.Session

/-!
# Programs

What a file that is to be run turns out to be. A standard program is a file with a mark in front of
its name, so that a copy of it or a link to it is the same program; a script names in its first line
the program that reads it, which may be a script in turn.
-/

namespace IdlBuild.Shell.Programs

open Text (Bytes)

/-! ### Standard programs -/

/-- What the file of a standard program begins with. -/
def mark : Bytes := [0x7F, 0x45, 0x4C, 0x46]

/-- The content of the file of a standard program. -/
def imageOf (name : String) : Bytes := mark ++ Text.encode name

/-- The standard program that a content is, if it is one. -/
def imageName? (content : Bytes) : Option String :=
  if mark.isPrefixOf content then some (Text.decodeLossy (content.drop mark.length)) else none

/-- The directories that programs are looked for in, unless something else is said. -/
def standardDirectories : String :=
  "/usr/local/sbin:/usr/local/bin:/usr/sbin:/usr/bin:/sbin:/bin"

/-- The directories that programs are looked for in. -/
def searchPath (s : Session) : String := (s.valueOf? "PATH").getD standardDirectories

/-! ### First lines -/

/-- The number of bytes that a first line is looked for in. -/
def firstLineLimit : Nat := 255

/-- Whether a byte is a blank. -/
def isBlank (b : UInt8) : Bool := b == 0x20 || b == 9

/-- The interpreter of a script and the argument that its first line gives; an error if the first
line is not a usable one. -/
def interpreter? (content : Bytes) : Option (Except IoFault (String × List String)) :=
  match content with
  | 0x23 :: 0x21 :: rest =>
    let shown := rest.take (firstLineLimit - 2)
    let line := shown.takeWhile (· != 10)
    let whole := line.length < shown.length || shown.length < firstLineLimit - 2
    let body := ((line.dropWhile isBlank).reverse.dropWhile isBlank).reverse
    let program := body.takeWhile fun b => !isBlank b && b != 0
    let behind := body.drop program.length
    if program.isEmpty || (!whole && behind.isEmpty) then some (.error (.system 8))
    else
      let argument := (behind.dropWhile isBlank).takeWhile (· != 0)
      some (.ok (Text.Units.ofBytes program,
        if argument.isEmpty then [] else [Text.Units.ofBytes argument]))
  | _ => none

/-! ### Running a file -/

/-- The fault of a file that nothing can run. -/
def noFormat : IoFault := .system 8

/-- The standard program that runs a file, and how it is called; `depth` bounds how often scripts
name scripts. -/
def resolve (files : FileSystem) : (depth : Nat) → (path : String) → Call →
    Except IoFault (String × Call)
  | 0, _, _ => .error .tooManyLinks
  | depth + 1, path, call => do
    match ← files.status (pathOf path) with
    | (location, .file content mode) =>
      if !FileSystem.isExecutable mode || Machine.isDevice location then throw .permissionDenied
      match imageName? content with
      | some image => return (image, call)
      | none =>
        match interpreter? content with
        | none => throw noFormat
        | some (.error fault) => throw fault
        | some (.ok (program, more)) =>
          resolve files depth program ⟨program, more ++ path :: call.arguments⟩
    | _ => throw .permissionDenied

/-- How often scripts may name scripts. -/
def depth : Nat := 6

/-! ### Looking for names -/

/-- The paths that a name may mean, when programs are looked for in some directories. -/
def candidates (directories name : String) : List String :=
  if name.toList.contains '/' then [name]
  else (Text.fields ':' directories.toList).map fun d =>
    if d.isEmpty then name else String.ofList d ++ "/" ++ name

/-- Whether a fault of one candidate lets the others be tried. -/
def isPassed (fault : IoFault) : Bool :=
  fault == .noSuchEntry || fault == .notDirectory || fault == .permissionDenied

/-- Runs the first of some candidates that can be run. What is not permitted is remembered. -/
def resolveFirst (files : FileSystem) (call : Call) : (remembered : IoFault) → List String →
    Except IoFault (String × Call)
  | remembered, [] => .error remembered
  | remembered, path :: rest =>
    match resolve files depth path ⟨call.name, call.arguments⟩ with
    | .ok found => .ok found
    | .error fault =>
      if isPassed fault then
        resolveFirst files call (if fault == .permissionDenied then fault else remembered) rest
      else .error fault

/-- Starts what a call names, as the operating system does it: a name without a slash is looked for
in some directories. -/
def start (files : FileSystem) (directories : String) (call : Call) :
    Except IoFault (String × Call) :=
  if call.name.isEmpty then .error .noSuchEntry
  else if call.name.toList.contains '/' then resolve files depth call.name call
  else if FileSystem.nameLimit < call.name.length then .error .nameTooLong
  else resolveFirst files call .noSuchEntry (candidates directories call.name)

/-- The path of a program that a name without a slash means to a shell. -/
def pathOf? (files : FileSystem) (directories name : String) : Option String :=
  (candidates directories name).find? fun path =>
    match files.status (pathOf path) with
    | .ok (location, .file _ mode) => FileSystem.isExecutable mode && !Machine.isDevice location
    | _ => false

end IdlBuild.Shell.Programs
