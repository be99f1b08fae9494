import IdlBuild.Tool.Entries

/-!
# Copying and moving

The tools that copy entries, alone or with what is in them, move them, or put them in place.
-/

namespace IdlBuild.Tool

open Shell (Session Call Tool pathOf unitsOfPath)

/-- How copies are made. -/
structure CopyStyle where
  /-- Whether directories are copied with what is in them. -/
  deep : Bool
  /-- Whether links that are named are followed, and whether links below are. -/
  follows : Bool × Bool
  /-- Whether copies keep the stamp and the mode of what they are copies of. -/
  keeps : Bool
  skipsExisting : Bool
  asks : Bool
  /-- Whether only what is older is replaced. -/
  updates : Bool
  shown : Bool
  /-- Whether what is there already goes first. -/
  replaces : Bool
  /-- Whether links are made in place of copies: symbolic ones if so. -/
  links : Option Bool
deriving DecidableEq, Repr

/-- Whether two paths name the same entry. -/
def sameEntry (files : FileSystem) (a b : String) : Bool :=
  match files.status (pathOf a), files.status (pathOf b) with
  | .ok (x, _), .ok (y, _) => x == y
  | _, _ => false

/-- Asks whether something is to be done, and takes a line for an answer. -/
def isGranted (question : String) (s : Session) : Bool × Session :=
  let s := writeTo 2 question.toList s
  let (bytes, s) := s.readSome 0 fun all =>
    min all.length ((all.takeWhile (· != 10)).length + 1)
  (bytes.head? == some 0x79 || bytes.head? == some 0x59, s)

/-- What stands at a path, links followed or not. -/
def nodeAt (s : Session) (follows : Bool) (p : String) : Except IoFault (Location × Node) :=
  if follows then s.files.status (pathOf p) else s.files.linkStatus (pathOf p)

/-- When what a path names was last changed. -/
def stampAt (s : Session) (p : String) : Option Int :=
  (s.files.linkStatus (pathOf p)).toOption.map fun (location, _) => s.machine.stampOf location

/-- The shell on whose machine an entry has a stamp. -/
def withStamp (p : String) (stamp : Option Int) (s : Session) : Session :=
  match stamp, s.files.linkStatus (pathOf p) with
  | some t, .ok (location, _) => { s with machine := s.machine.stampedAt location t }
  | _, _ => s

/-! ### Copying -/

/-- Tells that an entry was copied. -/
def tellCopy (style : CopyStyle) (source target : String) (s : Session) : Session :=
  if style.shown then s.printLine s!"{quotedName source} -> {quotedName target}" else s

/-- Puts a content at a path. -/
def copyContent (c : Call) (style : CopyStyle) (content : Text.Bytes) (mode : Nat)
    (source target : String) (s : Session) : Session :=
  let isNew := !s.files.pathExists (pathOf target)
  let refused (fault : IoFault) : Session :=
    complain s s!"{c.name}: cannot create regular file {quotedName target}: {fault.reason}"
  if isNew && isThere s target then
    complain s s!"{c.name}: not writing through dangling symlink {quotedName target}"
  else if isNew && target.endsWith "/" then refused .notDirectory
  else match s.machine.openForOutput (pathOf target) s.newMode true false with
    | .error fault => refused fault
    | .ok (channel, machine) =>
      let stamp := stampAt s source
      let machine := machine.write content channel
      let s := { s with machine }
      let s := match s.files.status (pathOf target) with
        | .ok (location, .file content old) =>
          let masked := mode - (mode &&& s.mask)
          s.withFiles (s.files.overwrite location content
            (if style.keeps then mode else if isNew then masked else old))
        | _ => s
      tellCopy style source target (if style.keeps then withStamp target stamp s else s)

/-- Whether an entry may be put at a path, given what is there. -/
def mayReplace (c : Call) (style : CopyStyle) (source target : String) (s : Session) :
    Bool × Session :=
  if !isThere s target then (true, s)
  else if style.skipsExisting then (false, s)
  else if style.updates && (stampAt s source).getD 0 ≤ (stampAt s target).getD 0 then (false, s)
  else if style.asks then isGranted s!"{c.name}: overwrite {quotedName target}? " s
  else (true, s)

/-- What is said when a directory would take the place of something else. -/
def notOverwritten (target source : String) : String :=
  s!"cannot overwrite non-directory {quotedName target} with directory {quotedName source}"

/-- Copies an entry to a path; `depth` bounds how deep directories are. -/
def copyEntry (c : Call) (style : CopyStyle) : (depth : Nat) → (isNamed : Bool) →
    (source target : String) → Session → Session
  | 0, _, _, _, s => s
  | depth + 1, isNamed, source, target, s =>
    let follows := if isNamed then style.follows.1 else style.follows.2
    match nodeAt s follows source with
    | .error fault =>
      complain s s!"{c.name}: cannot stat {quotedName source}: {fault.reason}"
    | .ok (location, .directory) =>
      if !style.deep then
        complain s s!"{c.name}: -r not specified; omitting directory {quotedName source}"
      else
        let made : Except String Session := if s.files.isDirectoryPath (pathOf target) then .ok s
          else if isThere s target then
            .error (notOverwritten target source)
          else match s.files.makeDirectory (pathOf target) with
            | .ok files => .ok (tellCopy style source target (withChanged target files s))
            | .error fault =>
              .error s!"cannot create directory {quotedName target}: {fault.reason}"
        match made with
        | .error message => complain s s!"{c.name}: {message}"
        | .ok s =>
          (FileSystem.sortedByName (s.files.children location)).foldl (fun s entry =>
            let name := Text.Units.ofBytes entry.1
            copyEntry c style depth false (inDirectory source name) (inDirectory target name) s) s
    | .ok (_, node) =>
      if s.files.isDirectoryPath (pathOf target) then
        complain s s!"{c.name}: cannot overwrite directory {quotedName target} with non-directory"
      else
        let (granted, s) := mayReplace c style source target s
        if !granted then s
        else
          let cleared := match s.files.removeFile (pathOf target) with
            | .ok files => s.withFiles files
            | .error _ => s
          let linked (kind : String) (made : Except IoFault FileSystem) : Session :=
            match made with
            | .ok files => tellCopy style source target (s.withFiles files)
            | .error fault =>
              let ends := s!"{quotedName target} to {quotedName source}"
              complain s s!"{c.name}: cannot create {kind} link {ends}: {fault.reason}"
          match style.links, node with
          | some true, _ =>
            linked "symbolic" ((if style.replaces then cleared else s).files.makeLink
              (pathOf target) (pathOf source))
          | some false, _ =>
            linked "hard" (hardLink (if style.replaces then cleared else s).files source target
              false)
          | none, .link text =>
            match cleared.files.makeLink (pathOf target) text with
            | .ok files => tellCopy style source target (s.withFiles files)
            | .error fault =>
              complain s
                s!"{c.name}: cannot create symbolic link {quotedName target}: {fault.reason}"
          | none, .file content mode =>
            copyContent c style content mode source target (if style.replaces then cleared else s)
          | none, .directory => s

/-! ### Where things go -/

/-- Where operands go: the sources and their target, and whether the target is a directory that they
go into. -/
structure Destination where
  sources : List String
  target : String
  into : Bool
deriving DecidableEq, Repr

/-- Where the operands of a call go; otherwise the call is refused. -/
def destination (o : Options) (c : Call) (s : Session) : Except Session Destination :=
  match o.value? "t", o.operands with
  | _, [] => .error (misused c 1 "missing file operand" s)
  | some target, sources =>
    match s.files.status (pathOf target) with
    | .ok (_, .directory) => .ok ⟨sources, target, true⟩
    | .ok _ =>
      .error (complain s s!"{c.name}: target directory {quotedName target}: Not a directory")
    | .error fault =>
      .error (complain s s!"{c.name}: target directory {quotedName target}: {fault.reason}")
  | none, [source] =>
    .error (misused c 1 s!"missing destination file operand after {quotedName source}" s)
  | none, operands =>
    let target := operands.getLast?.getD ""
    let sources := operands.dropLast
    let into := !o.has "T" && s.files.isDirectoryPath (pathOf target)
    if into || sources.length ≤ 1 then .ok ⟨sources, target, into⟩
    else if o.has "T" then .error (extraOperand c 1 target s)
    else
      let fault := match s.files.status (pathOf target) with
        | .ok _ => IoFault.notDirectory
        | .error fault => fault
      .error (complain s s!"{c.name}: target {quotedName target}: {fault.reason}")

/-- Where one source goes. -/
def Destination.placeOf (d : Destination) (source : String) : String :=
  if d.into then
    let name := baseName source
    if name == ".." || name == "." then d.target else inDirectory d.target name
  else d.target

/-- Whether a path leads into the directory that another one names, or to it. -/
def leadsInto (files : FileSystem) (directory p : String) : Bool :=
  match files.status (pathOf directory), leadsTo files .nothing p with
  | .ok (above, .directory), .ok below => above.isPrefixOf below
  | _, _ => false

/-- Copies entries. -/
def cp : Tool :=
  withOptions [flag 'r' "recursive", flag 'R' "", flag 'a' "archive", flag 'p' "",
      flag 'f' "force", flag 'i' "interactive", flag 'n' "no-clobber", flag 'v' "verbose",
      flag 'u' "", flag 'T' "no-target-directory", taking 't' "target-directory",
      flag 'L' "dereference", flag 'P' "no-dereference", flag 'H' "", flag 'd' "",
      flag 's' "symbolic-link", flag 'l' "link", flag 'x' "one-file-system", flag 'b' "",
      longFlag "parents", longFlag "remove-destination", longPerhaps "preserve",
      longPerhaps "update", longPerhaps "backup", longPerhaps "reflink",
      longFlag "strip-trailing-slashes"] 1 fun o c s =>
    let deep := o.has "r" || o.has "R" || o.has "a"
    let plain := o.has "P" || o.has "d" || o.has "a"
    let style : CopyStyle :=
      { deep
        follows := if o.has "L" then (true, true)
          else if plain then (false, false)
          else if deep then (o.has "H", false) else (true, true)
        keeps := o.has "p" || o.has "a" || o.has "preserve"
        skipsExisting := o.last? ["n", "i", "f"] == some "n" || o.value? "update" == some "none"
        asks := o.last? ["n", "i"] == some "i"
        updates := o.has "u" || o.value? "update" == some "" || o.value? "update" == some "older"
        shown := o.has "v"
        replaces := o.has "f" && (o.has "s" || o.has "l") || o.has "remove-destination"
        links := if o.has "s" then some true else if o.has "l" then some false else none }
    match destination o c s with
    | .error s => s
    | .ok d => d.sources.foldl (fun s source =>
        let place := if o.has "parents" then inDirectory d.target source else d.placeOf source
        let isDirectory := match nodeAt s style.follows.1 source with
          | .ok (_, .directory) => true
          | _ => false
        if sameEntry s.files source place && !isDirectory && !style.skipsExisting then
          complain s s!"{c.name}: {quotedName source} and {quotedName place} are the same file"
        else if deep && isDirectory && leadsInto s.files source place then
          let s := match s.files.makeDirectory (pathOf place) with
            | .ok files => withChanged place files s
            | .error _ => s
          let names := s!"{quotedName source}, into itself, {quotedName place}"
          complain s s!"{c.name}: cannot copy a directory, {names}"
        else
          let s := if o.has "parents" then
              let (_, files) := s.files.makeDirectories (pathOf (directoryName place))
              s.withFiles files
            else s
          copyEntry c style (s.files.entries.length + 2) true source place s) s

/-! ### Moving -/

/-- Stamps of the entries in and below a place, carried over to another one. -/
def carriedStamps (s : Session) (source target : Location) : List (Location × Int) :=
  s.machine.stamps.map fun (location, stamp) =>
    if source.isPrefixOf location then (target ++ location.drop source.length, stamp)
    else (location, stamp)

/-- Moves an entry to a path: what it replaces goes first. -/
def moveEntry (source target : String) (s : Session) : Except String Session := do
  let failed (fault : IoFault) : String :=
    s!"cannot move {quotedName source} to {quotedName target}: {fault.reason}"
  let (location, node) ← (s.files.linkStatus (pathOf source)).mapError failed
  let cleared ← match s.files.linkStatus (pathOf target) with
    | .ok (_, .directory) =>
      if node ≠ .directory then
        .error s!"cannot overwrite directory {quotedName target} with non-directory"
      else match s.files.removeDirectory (pathOf target) with
        | .ok files => .ok files
        | .error fault => .error s!"cannot overwrite {quotedName target}: {fault.reason}"
    | .ok _ =>
      if node = .directory then
        .error (notOverwritten target source)
      else (s.files.removeFile (pathOf target)).mapError failed
    | .error _ => .ok s.files
  if target.endsWith "/" && node ≠ .directory then throw (failed .notDirectory)
  let (directory, last) ← (cleared.locateLast (pathOf target)).mapError failed
  let name ← match last with
    | .name name => .ok name
    | _ => .error (failed .deviceBusy)
  let place := directory ++ [name]
  let moved := s.files.entries.filter fun e => location.isPrefixOf e.1
  let added := moved.foldl (fun (files : FileSystem) e =>
    let there := place ++ e.1.drop location.length
    files.add there.dropLast (there.getLast?.getD []) e.2) cleared
  let files := moved.reverse.foldl (fun (files : FileSystem) e => files.erase e.1) added
  let stamps := carriedStamps s location place
  let files := if location.isPrefixOf s.files.workingDirectory then
      files.enter (place ++ s.files.workingDirectory.drop location.length)
    else files
  let s := s.withFiles files
  let opened := s.machine.opened.map fun file =>
    if location.isPrefixOf file.location then
      { file with location := place ++ file.location.drop location.length }
    else file
  return { s with machine := { s.machine with stamps, opened } }

/-- Moves entries. -/
def mv : Tool :=
  withOptions [flag 'f' "force", flag 'i' "interactive", flag 'n' "no-clobber",
      flag 'v' "verbose", flag 'u' "", flag 'T' "no-target-directory",
      taking 't' "target-directory", flag 'b' "", longPerhaps "update", longPerhaps "backup",
      longFlag "strip-trailing-slashes"] 1 fun o c s =>
    let style : CopyStyle :=
      { deep := true, follows := (false, false), keeps := true
        skipsExisting := o.last? ["n", "i", "f"] == some "n"
        asks := o.last? ["n", "i", "f"] == some "i"
        updates := o.has "u" || o.has "update"
        shown := o.has "v", replaces := true, links := none }
    match destination o c s with
    | .error s => s
    | .ok d => d.sources.foldl (fun s source =>
        let place := d.placeOf source
        match s.files.linkStatus (pathOf source) with
        | .error fault =>
          complain s s!"{c.name}: cannot stat {quotedName source}: {fault.reason}"
        | .ok (location, node) =>
          let isSame := match s.files.linkStatus (pathOf place) with
            | .ok (other, _) => other == location
            | .error _ => false
          if node == .directory && leadsInto s.files source place then
            let names := s!"{quotedName source} to a subdirectory of itself, {quotedName place}"
            complain s s!"{c.name}: cannot move {names}"
          else if isSame then
            complain s s!"{c.name}: {quotedName source} and {quotedName place} are the same file"
          else
            let (granted, s) := mayReplace c style source place s
            if !granted then s
            else match moveEntry source place s with
              | .ok s =>
                if o.has "v" then
                  s.printLine s!"renamed {quotedName source} -> {quotedName place}"
                else s
              | .error message => complain s s!"{c.name}: {message}") s

/-! ### Putting in place -/

/-- Copies files with a mode, or makes directories. -/
def install : Tool :=
  withOptions [flag 'd' "directory", flag 'D' "", taking 'm' "mode", flag 'v' "verbose",
      flag 'c' "", flag 'p' "preserve-timestamps", taking 'o' "owner", taking 'g' "group",
      flag 's' "strip", flag 'C' "compare", flag 'T' "no-target-directory", flag 'b' "",
      taking 't' "target-directory"] 1 fun o c s =>
    let text := (o.value? "m").getD "755"
    match modeFrom? text false 0 0 with
    | none => complain s s!"{c.name}: invalid mode {quotedValue text}"
    | some mode =>
      let parents (s : Session) (p : String) : Session :=
        (ancestorsOf p).foldl (fun s path =>
          if s.files.isDirectoryPath (pathOf path) then s
          else match s.files.makeDirectory (pathOf path) with
            | .ok files =>
              let s := withChanged path files s
              if o.has "v" then s.printLine s!"{c.name}: creating directory {quotedName path}"
              else s
            | .error fault =>
              complain s s!"{c.name}: cannot create directory {quotedName path}: {fault.reason}") s
      if o.has "d" then
        if o.operands.isEmpty then misused c 1 "missing file operand" s
        else o.operands.foldl parents s
      else
        let s := if o.has "D" then
            match o.value? "t", o.operands with
            | some directory, _ => parents s directory
            | none, [_, target] => parents s (directoryName target)
            | none, _ => s
          else s
        let style : CopyStyle :=
          { deep := false, follows := (true, true), keeps := false, skipsExisting := false
            asks := false, updates := false, shown := o.has "v", replaces := true, links := none }
        match destination o c s with
        | .error s => s
        | .ok d => d.sources.foldl (fun s source =>
            let place := d.placeOf source
            match s.files.status (pathOf source) with
            | .ok (_, .directory) =>
              complain s s!"{c.name}: omitting directory {quotedName source}"
            | _ =>
              let done := copyEntry c style 1 true source place s
              if done.status != s.status then done
              else match done.files.setMode (pathOf place) mode with
                | .ok files => done.withFiles files
                | .error _ => done) s

end IdlBuild.Tool
