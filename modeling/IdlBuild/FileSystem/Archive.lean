import IdlBuild.FileSystem.Requests

/-!
# Archives

A file system as one stretch of bytes, so that it can be handed over. Each entry has a header line
with its kind, its mode and the sizes of its path and its content; path, content and a line feed
follow. The content of a link is its target. Entries come in an order in which they can be made
again.
-/

namespace IdlBuild.FileSystem.Archive

open Text (Bytes)

/-! ### Writing -/

/-- The line feed after each entry. -/
def lineFeed : UInt8 := 10

/-- One entry. -/
def encodeEntry (kind : String) (mode : Nat) (path content : Bytes) : Bytes :=
  Text.encode s!"{kind} {mode} {path.length} {content.length}\n" ++ path ++ content ++ [lineFeed]

/-- The entry of a node at a location. -/
def encodeNode (location : Location) (node : Node) : Bytes :=
  let path := (pathOf location).bytes
  match node with
  | .directory => encodeEntry "directory" 0 path []
  | .file content mode => encodeEntry "file" mode path content
  | .link target => encodeEntry "link" 0 path target.bytes

/-- Entries one behind the other. -/
def encodeEntries (entries : List (Location × Node)) : Bytes :=
  entries.flatMap fun (location, node) => encodeNode location node

/-- All entries of a file system. -/
def encode (fs : FileSystem) : Bytes := encodeEntries fs.entries

/-! ### Reading -/

/-- What a header says. -/
structure Header where
  kind : String
  mode : Nat
  pathSize : Nat
  contentSize : Nat

/-- Reads a header line. -/
def readHeader (line : Bytes) : Option Header := do
  match (Text.fields ' ' (← Text.decode line).toList).map String.ofList with
  | [kind, mode, pathSize, contentSize] =>
    return ⟨kind, ← mode.toNat?, ← pathSize.toNat?, ← contentSize.toNat?⟩
  | _ => none

/-- Makes the entry that a header describes. -/
def makeEntry (fs : FileSystem) (header : Header) (path : Path) (content : Bytes) :
    Option FileSystem :=
  let made : Except IoFault FileSystem := do
    match fs.makeDirectories (path.parent?.getD ⟨[slash]⟩) with
    | (.error fault, _) => throw fault
    | (.ok (), fs) =>
      match header.kind with
      | "directory" => if fs.isDirectoryPath path then return fs else fs.makeDirectory path
      | "link" => fs.makeLink path ⟨content⟩
      | "file" => (← fs.writeFile path content).setMode path header.mode
      | _ => throw .invalidArgument
  made.toOption

/-- Makes the entries of an archive; `fuel` bounds its size. -/
def decodeWithin : (fuel : Nat) → FileSystem → Bytes → Option FileSystem
  | 0, fs, _ => some fs
  | _, fs, [] => some fs
  | fuel + 1, fs, bytes => do
    let (line, rest) ← Text.cutFirst lineFeed bytes
    let header ← readHeader line
    let path := rest.take header.pathSize
    let content := (rest.drop header.pathSize).take header.contentSize
    let after := rest.drop (header.pathSize + header.contentSize)
    if after.head? != some lineFeed then none
    decodeWithin fuel (← makeEntry fs header ⟨path⟩ content) after.tail

/-- The file system that an archive describes. -/
def decode (bytes : Bytes) : Option FileSystem := decodeWithin bytes.length .empty bytes

end IdlBuild.FileSystem.Archive
