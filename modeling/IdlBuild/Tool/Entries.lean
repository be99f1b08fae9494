import IdlBuild.FileSystem.Walk
import IdlBuild.Tool.Modes
import IdlBuild.Tool.Paths

/-!
# Entries

The tools that make, change and remove entries of the file system. A hard link is a copy here.
-/

namespace IdlBuild.Tool

open Shell (Session Call Tool pathOf unitsOfPath)

/-! ### Stamps -/

/-- The shell on whose machine an entry has been changed just now. -/
def stamped (p : String) (s : Session) : Session :=
  match s.files.status (pathOf p) with
  | .ok (location, _) => { s with machine := s.machine.stamped location }
  | .error _ => s

/-- The shell with other files, in which what is at a path was changed just now. -/
def withChanged (p : String) (files : FileSystem) (s : Session) : Session :=
  stamped p (s.withFiles files)

/-- Whether an entry is there, be it a link that leads nowhere. -/
def isThere (s : Session) (p : String) : Bool := (s.files.linkStatus (pathOf p)).toBool

/-! ### Directories -/

/-- The beginnings of a path that end before a slash, and the path itself. -/
def ancestorsOf (p : String) : List String :=
  let cs := withoutEndSlashes p.toList
  let ends := (cs.zip (cs.drop 1)).zipIdx.filterMap fun ((a, b), i) =>
    if a != '/' && b == '/' then some (i + 1) else none
  ends.map (fun n => String.ofList (cs.take n)) ++ [p]

/-- Makes a directory and the parents that it lacks, telling what was made if that is asked for. -/
def makeParents (c : Call) (shown : Bool) (p : String) (s : Session) : Session :=
  let all := ancestorsOf p
  let rec go (s : Session) : List String → Session
    | [] => s
    | path :: rest =>
      match s.files.makeDirectory (pathOf path) with
      | .ok files =>
        let s := withChanged path files s
        go (if shown then s.printLine s!"{c.name}: created directory {quotedName path}" else s) rest
      | .error fault =>
        if s.files.isDirectoryPath (pathOf path) then go s rest
        else
          let isFile := fault == .fileExists && s.files.pathExists (pathOf path)
          let fault := if isFile && !rest.isEmpty then .notDirectory else fault
          complain s s!"{c.name}: cannot create directory {quotedName path}: {fault.reason}"
  go s all

/-- Makes directories. -/
def mkdir : Tool :=
  withOptions [flag 'p' "parents", flag 'v' "verbose", taking 'm' "mode"] 1 fun o c s =>
    let mode := (o.value? "m").getD "755"
    if o.operands.isEmpty then missingOperand c 1 s
    else if (modeFrom? mode true s.mask 0o777).isNone then
      complain s s!"{c.name}: invalid mode {quotedValue mode}"
    else o.operands.foldl (fun s p =>
      if o.has "p" then makeParents c (o.has "v") p s
      else match s.files.makeDirectory (pathOf p) with
        | .ok files =>
          let s := withChanged p files s
          if o.has "v" then s.printLine s!"{c.name}: created directory {quotedName p}" else s
        | .error fault =>
          complain s s!"{c.name}: cannot create directory {quotedName p}: {fault.reason}") s

/-- Removes empty directories, and with them their parents if that is asked for. -/
def rmdir : Tool :=
  withOptions [flag 'p' "parents", flag 'v' "verbose", longFlag "ignore-fail-on-non-empty"] 1
    fun o c s =>
      let remove (s : Session) (p : String) (what : String) : Bool × Session :=
        let s := if o.has "v" then s.printLine s!"{c.name}: removing directory, {quotedName p}"
          else s
        match s.files.removeDirectory (pathOf p) with
        | .ok files => (true, s.withFiles files)
        | .error fault =>
          if o.has "ignore-fail-on-non-empty" && fault == .notEmpty then (false, s)
          else (false,
            complain s s!"{c.name}: failed to remove {what}{quotedName p}: {fault.reason}")
      if o.operands.isEmpty then missingOperand c 1 s
      else o.operands.foldl (fun s p =>
        match remove s p "" with
        | (false, s) => s
        | (true, s) =>
          if o.has "p" then
            ((ancestorsOf p).dropLast.reverse.foldl (fun (going, s) parent =>
              if going then remove s parent "directory " else (false, s)) (true, s)).2
          else s) s

/-! ### Times -/

/-- The days from the first of March of the year 0 to a date. -/
def dayNumber (year month day : Nat) : Nat :=
  let y := if month ≤ 2 then year - 1 else year
  let m := (month + 9) % 12
  y * 365 + y / 4 - y / 100 + y / 400 + (m * 306 + 5) / 10 + (day - 1)

/-- The seconds from the beginning of 1970 to a time. -/
def secondsOf (year month day hour minute second : Nat) : Int :=
  ((dayNumber year month day : Int) - 719468) * 86400 + (hour * 3600 + minute * 60 + second : Nat)

/-- The moment at which children start, in seconds from the beginning of 1970, as far as stamps of
entries are concerned. -/
def startMoment : Int := 1767225600

/-- The numbers that a text holds, if there is nothing but marks between them. -/
def numbersIn? (text : String) : Option (List Nat) :=
  let pieces := (text.toList.map fun c => if "-:T ".toList.contains c then ' ' else c)
  let words := (Text.fields ' ' pieces).filter fun w => !w.isEmpty
  words.mapM fun w => (String.ofList w).toNat?

/-- The moment that a date names, in seconds from the beginning of 1970. -/
def momentOfDate? (text : String) : Option Int :=
  match text.toList with
  | '@' :: digits => (String.ofList digits).toInt?
  | _ =>
    match text, numbersIn? text with
    | "now", _ => some startMoment
    | "yesterday", _ => some (startMoment - 86400)
    | "tomorrow", _ => some (startMoment + 86400)
    | _, some [y, m, d] => some (secondsOf y m d 0 0 0)
    | _, some [y, m, d, h, min] => some (secondsOf y m d h min 0)
    | _, some [y, m, d, h, min, sec] => some (secondsOf y m d h min sec)
    | _, _ => none

/-- The moment that digits as in `202501312359.59` name. -/
def momentOfDigits? (text : String) : Option Int :=
  let cs := text.toList
  let (main, seconds) := (Text.cutFirst '.' cs).getD (cs, [])
  let number (ds : List Char) : Nat := ((String.ofList ds).toNat?).getD 0
  let full := match main.length with
    | 8 => "2026".toList ++ main
    | 10 => (if number (main.take 2) < 69 then "20".toList else "19".toList) ++ main
    | _ => main
  if full.length != 12 || !(full ++ seconds).all Char.isDigit then none
  else
    let pair (i : Nat) : Nat := number ((full.drop i).take 2)
    some (secondsOf (number (full.take 4)) (pair 4) (pair 6) (pair 8) (pair 10) (number seconds))

/-- Makes files that are not there, and marks all as changed now or at another time. -/
def touch : Tool :=
  withOptions [flag 'a' "", flag 'm' "", flag 'f' "", flag 'c' "no-create",
      flag 'h' "no-dereference", taking 'd' "date", taking 'r' "reference", taking 't' "",
      longTaking "time"] 1 fun o c s =>
    let moment : Except String (Option Int) :=
      match o.value? "r", o.value? "d", o.value? "t" with
      | some p, _, _ =>
        match s.files.status (pathOf p) with
        | .ok (location, _) => .ok (some (s.machine.stampOf location))
        | .error fault =>
          .error s!"failed to get attributes of {quotedName p}: {fault.reason}"
      | none, some text, _ =>
        match momentOfDate? text with
        | some t => .ok (some ((t - startMoment) * 1000000))
        | none => .error s!"invalid date format {quotedValue text}"
      | none, none, some text =>
        match momentOfDigits? text with
        | some t => .ok (some ((t - startMoment) * 1000000))
        | none => .error s!"invalid date format {quotedValue text}"
      | none, none, none => .ok none
    match moment with
    | .error message => complain s s!"{c.name}: {message}"
    | .ok time =>
      if o.operands.isEmpty then misused c 1 "missing file operand" s
      else o.operands.foldl (fun s p =>
        let mark (s : Session) : Session :=
          match time, s.files.status (pathOf p) with
          | some t, .ok (location, _) => { s with machine := s.machine.stampedAt location t }
          | _, _ => stamped p s
        if s.files.pathExists (pathOf p) then mark s
        else if o.has "c" || p == "-" then s
        else if p.endsWith "/" && !p.isEmpty then
          complain s s!"{c.name}: setting times of {quotedName p}: No such file or directory"
        else match s.machine.openForOutput (pathOf p) s.newMode false true with
          | .ok (_, machine) => mark { s with machine }
          | .error fault =>
            complain s s!"{c.name}: cannot touch {quotedName p}: {fault.reason}") s

/-! ### Links -/

/-- Copies a file under another name, as a link that is not symbolic. -/
def hardLink (files : FileSystem) (source target : String) (follows : Bool) :
    Except IoFault FileSystem := do
  let (_, node) ← if follows then files.status (pathOf source)
    else files.linkStatus (pathOf source)
  if (files.linkStatus (pathOf target)).toBool then throw .fileExists
  match node with
  | .directory => throw (.system 1)
  | .link text => files.makeLink (pathOf target) text
  | .file content mode =>
    let files ← files.writeFile (pathOf target) content
    files.setMode (pathOf target) mode

/-- Makes one link. -/
def makeLinkAt (o : Options) (c : Call) (s : Session) (source target : String) : Session :=
  let symbolic := o.has "s"
  let text := if o.has "r" then
      match leadsTo s.files .nothing source, leadsTo s.files .nothing (directoryName target) with
      | .ok there, .ok here => relativeText here there
      | _, _ => source
    else source
  let missing := if symbolic then none else
    match s.files.linkStatus (pathOf source) with
    | .error fault => some s!"failed to access {quotedName source}: {fault.reason}"
    | .ok (_, .directory) => some s!"{shownName source}: hard link not allowed for directory"
    | .ok _ => none
  match missing with
  | some message => complain s s!"{c.name}: {message}"
  | none =>
    let cleared := if o.has "f" && isThere s target then
        match s.files.removeFile (pathOf target) with
        | .ok files => files
        | .error _ => s.files
      else s.files
    let kind := if symbolic then "symbolic" else "hard"
    let arrow := if symbolic then "->" else "=>"
    let made := if symbolic then cleared.makeLink (pathOf target) (pathOf text)
      else hardLink cleared source target (o.has "L")
    match made with
    | .ok files =>
      let s := s.withFiles files
      if o.has "v" then
        s.printLine s!"{quotedName target} {arrow} {quotedName text}"
      else s
    | .error fault =>
      let shown := if fault == .fileExists || (symbolic && !text.isEmpty) then ""
        else s!" {arrow} {quotedName text}"
      complain s
        s!"{c.name}: failed to create {kind} link {quotedName target}{shown}: {fault.reason}"

/-- Makes links. -/
def ln : Tool :=
  withOptions [flag 's' "symbolic", flag 'f' "force", flag 'n' "no-dereference",
      flag 'T' "no-target-directory", flag 'v' "verbose", flag 'r' "relative",
      flag 'i' "interactive", flag 'L' "logical", flag 'P' "physical",
      taking 't' "target-directory"] 1 fun o c s =>
    let isDirectory (p : String) : Bool :=
      s.files.isDirectoryPath (pathOf p) &&
        !(o.has "n" && match s.files.linkStatus (pathOf p) with
          | .ok (_, .link _) => true
          | _ => false)
    let into (directory : String) (s : Session) (source : String) : Session :=
      makeLinkAt o c s source (inDirectory directory (baseName source))
    match o.value? "t", o.operands with
    | _, [] => misused c 1 "missing file operand" s
    | some directory, sources =>
      if isDirectory directory then sources.foldl (into directory) s
      else complain s s!"{c.name}: target {quotedName directory} is not a directory"
    | none, [source] =>
      if o.has "T" then
        misused c 1 s!"missing destination file operand after {quotedName source}" s
      else into "." s source
    | none, [source, target] =>
      if !o.has "T" && isDirectory target then into target s source
      else makeLinkAt o c s source target
    | none, sources =>
      let directory := sources.getLast?.getD ""
      if isDirectory directory then sources.dropLast.foldl (into directory) s
      else
        let fault := match s.files.status (pathOf directory) with
          | .ok _ => IoFault.notDirectory
          | .error fault => fault
        complain s s!"{c.name}: target {quotedName directory}: {fault.reason}"

/-- Makes a link that is not symbolic. -/
def link : Tool := withOptions [] 1 fun o c s =>
  match o.operands with
  | [] => missingOperand c 1 s
  | [source] => misused c 1 s!"missing operand after {quotedValue source}" s
  | [source, target] =>
    change c s!"cannot create link {quotedName target} to {quotedName source}" s
      (hardLink s.files source target false)
  | _ :: _ :: extra :: _ => extraOperand c 1 extra s

/-- Removes a file or a link. -/
def unlink : Tool := withOptions [] 1 fun o c s =>
  match o.operands with
  | [] => missingOperand c 1 s
  | [p] => change c s!"cannot unlink {quotedName p}" s (s.files.removeFile (pathOf p))
  | _ :: extra :: _ => extraOperand c 1 extra s

/-! ### Modes -/

/-- The options of `chmod`, and its operands; an option that looks like a mode is one. -/
def modeArguments (arguments : List String) : List String × List String :=
  let isMode (a : String) : Bool :=
    match a.toList with
    | '-' :: c :: _ => "rwxXstugo".toList.contains c
    | _ => false
  match arguments.find? isMode with
  | some mode => (["--", mode], arguments.filter (· != mode))
  | none => ([], arguments)

/-- Entries below a path in the order of their names, itself first; `depth` bounds how deep. -/
def entriesBelow (files : FileSystem) : (depth : Nat) → (p : String) → List String
  | 0, p => [p]
  | depth + 1, p =>
    p :: match files.linkStatus (pathOf p) with
      | .ok (location, .directory) =>
        (FileSystem.sortedByName (files.children location)).flatMap fun (name, _) =>
          entriesBelow files depth (inDirectory p (Text.Units.ofBytes name))
      | _ => []

/-- Changes the mode of one entry. -/
def changeMode (o : Options) (c : Call) (text : String) (s : Session) (p : String) : Session :=
  let tell (s : Session) (old new : Nat) : Session :=
    let shown (m : Nat) : String := s!"{modeDigits 4 m} ({modeLetters m})"
    if old = new then
      if o.has "v" then s.printLine s!"mode of {quotedName p} retained as {shown old}" else s
    else if o.has "v" || o.has "c" then
      s.printLine s!"mode of {quotedName p} changed from {shown old} to {shown new}"
    else s
  match s.files.status (pathOf p) with
  | .error fault =>
    if o.has "f" then s.withStatus 1
    else match s.files.linkStatus (pathOf p) with
      | .ok _ => complain s s!"{c.name}: cannot operate on dangling symlink {quotedName p}"
      | .error _ => complain s s!"{c.name}: cannot access {quotedName p}: {fault.reason}"
  | .ok (location, .file content old) =>
    let new := (modeFrom? text false s.mask old).getD old
    tell (s.withFiles (s.files.overwrite location content new)) old new
  | .ok (_, _) =>
    let old := 0o755
    tell s old ((modeFrom? text true s.mask old).getD old)

/-- Changes modes. -/
def chmod : Tool := fun c s =>
  let (mode, others) := modeArguments c.arguments
  withOptions [flag 'R' "recursive", flag 'v' "verbose", flag 'c' "changes", flag 'f' "silent",
      longFlag "quiet", longTaking "reference"] 1 (fun o c s =>
    match mode.drop 1 ++ o.operands with
    | [] => missingOperand c 1 s
    | [text] => misused c 1 s!"missing operand after {quotedValue text}" s
    | text :: paths =>
      if (modeFrom? text false 0 0).isNone then misused c 1 s!"invalid mode: {quotedValue text}" s
      else
        let all := if o.has "R" then
            paths.flatMap (entriesBelow s.files (s.files.entries.length + 1))
          else paths
        all.foldl (changeMode o c text) s) { c with arguments := others } s

/-- Changes owners, which entries do not have here. -/
def chown : Tool :=
  withOptions [flag 'R' "recursive", flag 'v' "verbose", flag 'c' "changes", flag 'f' "silent",
      flag 'h' "no-dereference"] 1 fun o c s =>
    match o.operands with
    | [] => missingOperand c 1 s
    | [text] => misused c 1 s!"missing operand after {quotedValue text}" s
    | _ :: paths => paths.foldl (fun s p =>
        match s.files.status (pathOf p) with
        | .ok _ => s
        | .error fault =>
          complain s s!"{c.name}: cannot access {quotedName p}: {fault.reason}") s

/-! ### Removing -/

/-- Removes an entry and what is in it, telling what is removed if that is asked for; `depth` bounds
how deep it is. -/
def removeTree (shown : Bool) : (depth : Nat) → Session → String → Except IoFault Session
  | 0, _, _ => .error .tooManyLinks
  | depth + 1, s, p => do
    let tell (kind : String) (s : Session) : Session :=
      if shown then s.printLine s!"removed {kind}{quotedName p}" else s
    match ← s.files.linkStatus (pathOf p) with
    | (location, .directory) =>
      let s ← (FileSystem.sortedByName (s.files.children location)).foldlM (fun s entry =>
        removeTree shown depth s (inDirectory p (Text.Units.ofBytes entry.1))) s
      return tell "directory " (s.withFiles (← s.files.removeDirectory (pathOf p)))
    | _ => return tell "" (s.withFiles (← s.files.removeFile (pathOf p)))

/-- Whether a path is one of a directory itself or its parent. -/
def isDots (p : String) : Bool :=
  let last := baseName p
  last == "." || last == ".."

/-- Removes entries. -/
def rm : Tool :=
  withOptions [flag 'r' "recursive", flag 'R' "", flag 'f' "force", flag 'i' "", flag 'I' "",
      flag 'v' "verbose", flag 'd' "dir", longFlag "no-preserve-root", longFlag "preserve-root",
      longFlag "one-file-system", longPerhaps "interactive"] 1 fun o c s =>
    let deep := o.has "r" || o.has "R"
    let force := o.has "f"
    if o.operands.isEmpty then (if force then s else missingOperand c 1 s)
    else o.operands.foldl (fun s p =>
      if deep && isDots p then
        complain s
          s!"{c.name}: refusing to remove '.' or '..' directory: skipping {quotedName p}"
      else if deep && !p.isEmpty && (withoutEndSlashes p.toList).isEmpty then
        ((s.complain s!"{c.name}: it is dangerous to operate recursively on '/'").complain
          s!"{c.name}: use --no-preserve-root to override this failsafe").withStatus 1
      else
        let isDirectory := match s.files.linkStatus (pathOf p) with
          | .ok (_, .directory) => true
          | _ => false
        let removed := if isDirectory && !deep then
            if o.has "d" then
              (s.files.removeDirectory (pathOf p)).map fun files =>
                let s := s.withFiles files
                if o.has "v" then s.printLine s!"removed directory {quotedName p}" else s
            else .error .isDirectory
          else removeTree (o.has "v") (s.files.entries.length + 1) s p
        match removed with
        | .ok s => s
        | .error fault =>
          if force && (fault == .noSuchEntry || fault == .notDirectory) then s
          else complain s s!"{c.name}: cannot remove {quotedName p}: {fault.reason}") s

/-! ### Sizes -/

/-- The number that a letter behind a size stands for. -/
def unitSize? (text : String) : Option Nat :=
  let power (base n : Nat) : Nat := Nat.pow base n
  match text with
  | "" | "c" => some 1
  | "b" => some 512
  | "K" | "k" | "KiB" => some 1024
  | "M" | "m" | "MiB" => some (power 1024 2)
  | "G" | "g" | "GiB" => some (power 1024 3)
  | "T" | "t" | "TiB" => some (power 1024 4)
  | "P" | "PiB" => some (power 1024 5)
  | "kB" | "KB" => some 1000
  | "MB" => some (power 1000 2)
  | "GB" => some (power 1000 3)
  | "TB" => some (power 1000 4)
  | _ => none

/-- A size: digits with a unit. -/
def sizeOf? (cs : List Char) : Option Nat :=
  let digits := cs.takeWhile Char.isDigit
  match (String.ofList digits).toNat?, unitSize? (String.ofList (cs.drop digits.length)) with
  | some n, some unit => some (n * unit)
  | none, some unit => if digits.isEmpty && unit != 1 then some unit else none
  | _, _ => none

/-- The size that a text makes of another one. -/
def newSize? (text : String) (old : Nat) : Option Nat :=
  match text.toList with
  | '+' :: rest => (sizeOf? rest).map (old + ·)
  | '-' :: rest => (sizeOf? rest).map (old - ·)
  | '<' :: rest => (sizeOf? rest).map (min old)
  | '>' :: rest => (sizeOf? rest).map (max old)
  | '/' :: rest => (sizeOf? rest).map fun n => old / n * n
  | '%' :: rest => (sizeOf? rest).map fun n => (old + n - 1) / n * n
  | cs => sizeOf? cs

/-- Cuts files, or fills them with zero bytes, to a size. -/
def truncate : Tool :=
  withOptions [taking 's' "size", flag 'c' "no-create", taking 'r' "reference",
      flag 'o' "io-blocks"] 1 fun o c s =>
    match o.value? "s", o.value? "r" with
    | none, none => misused c 1 "you must specify either '--size' or '--reference'" s
    | size?, reference? =>
      let text := match reference? with
        | some p => toString (((s.files.readFile (pathOf p)).toOption.map List.length).getD 0)
        | none => size?.getD ""
      if (newSize? text 0).isNone then complain s s!"{c.name}: Invalid number: {quotedValue text}"
      else if o.operands.isEmpty then misused c 1 "missing file operand" s
      else o.operands.foldl (fun s p =>
        if o.has "c" && !s.files.pathExists (pathOf p) then s
        else match s.machine.openForOutput (pathOf p) s.newMode false false with
          | .error fault =>
            complain s s!"{c.name}: cannot open {quotedName p} for writing: {fault.reason}"
          | .ok (_, machine) =>
            let s := { s with machine }
            match s.files.status (pathOf p) with
            | .ok (location, .file content mode) =>
              let n := (newSize? text content.length).getD 0
              let filled := content.take n ++ List.replicate (n - content.length) 0
              stamped p (s.withFiles (s.files.overwrite location filled mode))
            | _ => s) s

end IdlBuild.Tool
