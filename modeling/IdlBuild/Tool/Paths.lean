import IdlBuild.Shell.Programs
import IdlBuild.Tool.Input

/-!
# Paths

The tools that say something about paths: their parts, what they lead to, where programs are, and
which names are still free.
-/

namespace IdlBuild.Tool

open Shell (Session Call Tool pathOf unitsOfPath)

/-! ### Parts of paths -/

/-- A path without the slashes at its end. -/
def withoutEndSlashes (cs : List Char) : List Char := (cs.reverse.dropWhile (· == '/')).reverse

/-- The part of a path after its last slash; slashes at the end do not count. -/
def baseName (p : String) : String :=
  let trimmed := withoutEndSlashes p.toList
  if trimmed.isEmpty then (if p.isEmpty then "" else "/")
  else String.ofList (trimmed.reverse.takeWhile (· != '/')).reverse

/-- The part of a path before its last slash. -/
def directoryName (p : String) : String :=
  let behind := (p.toList.reverse.dropWhile (· == '/')).dropWhile (· != '/')
  if behind.isEmpty then (if p.toList.head? == some '/' then "/" else ".")
  else
    let kept := behind.dropWhile (· == '/')
    if kept.isEmpty then "/" else String.ofList kept.reverse

/-- The path of an entry in a directory. -/
def inDirectory (directory name : String) : String :=
  if directory.endsWith "/" then directory ++ name else directory ++ "/" ++ name

/-- A name without an ending, unless nothing would be left. -/
def withoutEnding (name ending : String) : String :=
  if ending != name && name.endsWith ending then
    String.ofList (name.toList.take (name.length - ending.length))
  else name

/-- What ends an item that is printed. -/
def itemEnd (o : Options) : String := if o.has "z" then "\x00" else "\n"

/-- Prints the last parts of paths, without an ending if they have that. -/
def basename : Tool :=
  withOrderedOptions [flag 'a' "multiple", taking 's' "suffix", flag 'z' "zero"] 1 fun o c s =>
    let print (s : Session) (path ending : String) : Session :=
      s.print (withoutEnding (baseName path) ending ++ itemEnd o)
    match o.operands with
    | [] => missingOperand c 1 s
    | path :: rest =>
      if o.has "a" || o.has "s" then
        o.operands.foldl (fun s p => print s p ((o.value? "s").getD "")) s
      else match rest with
        | _ :: extra :: _ => extraOperand c 1 extra s
        | _ => print s path (rest.head?.getD "")

/-- Prints the parts of paths before their last slashes. -/
def dirname : Tool := withOptions [flag 'z' "zero"] 1 fun o c s =>
  if o.operands.isEmpty then missingOperand c 1 s
  else o.operands.foldl (fun s p => s.print (directoryName p ++ itemEnd o)) s

/-! ### What paths lead to -/

/-- The text of a location. -/
def locationText (location : Location) : String := unitsOfPath (FileSystem.pathOf location)

/-- How much of a path has to be there. -/
inductive Existence where
  | all
  | allButLast
  | nothing
deriving DecidableEq, Repr

/-- The location that pieces lead to from another one, links not considered. -/
def plainSteps (location : Location) (pieces : List String) : Location :=
  pieces.foldl (fun l piece =>
    if piece == "." || piece.isEmpty then l
    else if piece == ".." then l.dropLast else l ++ [Text.Units.bytesOf piece]) location

/-- The location that a path leads to when nothing has to be there: as far as it leads anywhere,
links are followed; `count` is the number of pieces that are taken as they are. -/
def looseLocation (files : FileSystem) (p : String) : (count : Nat) → List String → Location
  | 0, behind => plainSteps [] behind
  | count + 1, behind =>
    let pieces := (Text.fields '/' p.toList).map String.ofList
    let front := "/".intercalate (pieces.take (count + 1))
    let front := if front.isEmpty && p.startsWith "/" then "/" else front
    match files.status (pathOf front) with
    | .ok (location, _) => plainSteps location behind
    | .error _ =>
      if count = 0 && !p.startsWith "/" then
        plainSteps files.workingDirectory ((pieces.take 1) ++ behind)
      else looseLocation files p count (pieces[count]?.toList ++ behind)

/-- The location that a path leads to, links followed. -/
def trueLocation (files : FileSystem) (existence : Existence) (p : String) :
    Except IoFault Location :=
  match existence with
  | .all => (files.status (pathOf p)).map Prod.fst
  | .allButLast => do
    match ← files.locate true (pathOf p) with
    | .found location _ => return location
    | .vacant directory name => return directory ++ [name]
  | .nothing =>
    if p.isEmpty then .error .noSuchEntry
    else .ok (looseLocation files p (Text.fields '/' p.toList).length [])

/-- The location that a path leads to. A slash behind what is not there is passed over. -/
def leadsTo (files : FileSystem) (existence : Existence) (p : String) : Except IoFault Location :=
  match trueLocation files existence p with
  | .ok location => .ok location
  | .error fault =>
    let trimmed := String.ofList (withoutEndSlashes p.toList)
    if existence == .allButLast && p.endsWith "/" && !files.pathExists (pathOf trimmed) then
      trueLocation files existence trimmed
    else .error fault

/-- The way from one location to another. -/
def relativeText (source target : Location) : String :=
  let rec common : Location → Location → Nat
    | a :: as, b :: bs => if a = b then common as bs + 1 else 0
    | _, _ => 0
  let shared := common source target
  let steps := List.replicate (source.length - shared) ".." ++
    (target.drop shared).map Text.Units.ofBytes
  if steps.isEmpty then "." else "/".intercalate steps

/-- What has to be there, as options say. -/
def existenceOf (o : Options) (otherwise : Existence) : Existence :=
  match o.last? ["e", "f", "m"] with
  | some "e" => .all
  | some "f" => .allButLast
  | some "m" => .nothing
  | _ => otherwise

/-- Prints where links lead. -/
def readlink : Tool :=
  withOptions [flag 'f' "canonicalize", flag 'e' "canonicalize-existing",
      flag 'm' "canonicalize-missing", flag 'n' "no-newline", flag 'q' "quiet", flag 's' "silent",
      flag 'v' "verbose", flag 'z' "zero"] 1 fun o c s =>
    let ending := if o.has "n" && o.operands.length ≤ 1 then "" else itemEnd o
    let fail (s : Session) (p : String) (fault : IoFault) : Session :=
      if o.has "v" then complain s s!"{c.name}: {shownName p}: {fault.reason}" else s.withStatus 1
    let s := if o.has "n" && 1 < o.operands.length then
        s.complain s!"{c.name}: ignoring --no-newline with multiple arguments"
      else s
    if o.operands.isEmpty then missingOperand c 1 s
    else o.operands.foldl (fun s p =>
      if o.has "f" || o.has "e" || o.has "m" then
        match leadsTo s.files (existenceOf o .allButLast) p with
        | .ok location => s.print (locationText location ++ ending)
        | .error fault => fail s p fault
      else match s.files.linkStatus (pathOf p) with
        | .ok (_, .link target) => s.print (unitsOfPath target ++ ending)
        | .ok _ => fail s p .invalidArgument
        | .error fault => fail s p fault) s

/-- Prints paths without links. -/
def realpath : Tool :=
  withOptions [flag 'e' "canonicalize-existing", flag 'm' "canonicalize-missing",
      flag 'L' "logical", flag 'P' "physical", flag 'q' "quiet", flag 's' "strip",
      flag 'z' "zero", longTaking "relative-to", longTaking "relative-base"] 1 fun o c s =>
    let existence := existenceOf o .allButLast
    let resolve (s : Session) (p : String) : Except IoFault Location :=
      if o.has "s" && !p.isEmpty then
        .ok (plainSteps (if p.startsWith "/" then [] else s.files.workingDirectory)
          ((Text.fields '/' p.toList).map String.ofList))
      else leadsTo s.files existence p
    if o.operands.isEmpty then missingOperand c 1 s
    else
      let base := (o.value? "relative-to").getD ""
      let base? := (o.value? "relative-to").map (resolve s)
      let within? := (o.value? "relative-base").map (resolve s)
      match base? with
      | some (.error fault) => complain s s!"{c.name}: {shownName base}: {fault.reason}"
      | _ =>
        o.operands.foldl (fun s p =>
          match resolve s p with
          | .ok location =>
            let text := match base?, within? with
              | some (.ok base), _ => relativeText base location
              | none, some (.ok within) =>
                if within.isPrefixOf location then relativeText within location
                else locationText location
              | _, _ => locationText location
            s.print (text ++ itemEnd o)
          | .error fault =>
            if o.has "q" then s.withStatus 1
            else complain s s!"{c.name}: {shownName p}: {fault.reason}") s

/-- Prints the working directory. -/
def pwd : Tool := withOptions [flag 'L' "logical", flag 'P' "physical"] 1 fun o _ s =>
  let logical := s.valueOf? "PWD"
  match o.last? ["L", "P"], logical with
  | some "L", some path =>
    if path.startsWith "/" && (s.files.status (pathOf path)).toOption.map Prod.fst ==
        some s.files.workingDirectory then s.printLine path
    else s.printLine (locationText s.files.workingDirectory)
  | _, _ => s.printLine (locationText s.files.workingDirectory)

/-! ### Programs -/

/-- Prints where programs are. -/
def which : Tool := fun c s =>
  match readOptions [flag 'a' "", flag 's' ""] true c.arguments with
  | .error (.unknownLetter letter) =>
    ((s.complain s!"Illegal option -{letter}").complain
      s!"Usage: {c.name} [-as] args").withStatus 2
  | .error _ =>
    ((s.complain "Illegal option --").complain s!"Usage: {c.name} [-as] args").withStatus 2
  | .ok o =>
    let directories := (s.valueOf? "PATH").getD ""
    o.operands.foldl (fun s name =>
      let found := (Shell.Programs.candidates directories name).filter fun path =>
        (Shell.Programs.pathOf? s.files "" path).isSome
      if found.isEmpty then s.withStatus 1
      else if o.has "s" then s
      else (if o.has "a" then found else found.take 1).foldl Session.printLine s)
      (s.withStatus (if o.operands.isEmpty then 1 else 0))

/-! ### Free names -/

/-- Letters that a number is written with. -/
def nameLetters : Array Char :=
  "abcdefghijklmnopqrstuvwxyzABCDEFGHIJKLMNOPQRSTUVWXYZ0123456789".toList.toArray

/-- Some letters made of a number. -/
def lettersOf : (count : Nat) → (number : Nat) → List Char
  | 0, _ => []
  | count + 1, number =>
    (nameLetters[number % 62]?).getD 'x' :: lettersOf count (number / 7 + 31 * count + 17)

/-- The parts of a template: what stands before its last run of `X`, how long that is, and what
stands behind it. -/
def templateParts (template : List Char) : List Char × Nat × List Char :=
  let back := template.reverse
  let behind := back.takeWhile (· != 'X')
  let marks := (back.drop behind.length).takeWhile (· == 'X')
  ((back.drop (behind.length + marks.length)).reverse, marks.length, behind.reverse)

/-- Makes a file or a directory with a name that is free, and prints the name. -/
def mktemp : Tool :=
  withOptions [flag 'd' "directory", flag 'u' "dry-run", flag 'q' "quiet", longTaking "suffix",
      ⟨some 'p', ["tmpdir"], .value⟩, flag 't' ""] 1 fun o c s =>
    let template := (o.operands.head?.getD "tmp.XXXXXXXXXX") ++ (o.value? "suffix").getD ""
    let home := ((o.value? "p").or (s.valueOf? "TMPDIR")).getD "/tmp"
    let placed := if o.operands.isEmpty || o.has "p" || o.has "t" then inDirectory home template
      else template
    let (front, count, behind) := templateParts placed.toList
    let kind := if o.has "d" then "directory" else "file"
    match o.operands with
    | _ :: _ :: _ => misused c 1 "too many templates" s
    | _ =>
      if count < 3 then complain s s!"{c.name}: too few X's in template {quotedValue template}"
      else
        let name (n : Nat) : String := String.ofList (front ++ lettersOf count n ++ behind)
        let free := (List.range 100).find? fun i =>
          !(s.files.linkStatus (pathOf (name (s.machine.nextNumber * 101 + i)))).toBool
        let path := name (s.machine.nextNumber * 101 + free.getD 0)
        let made := if o.has "u" then .ok s.files
          else if o.has "d" then s.files.makeDirectory (pathOf path)
          else (s.files.writeFile (pathOf path) []).bind fun files =>
            files.setMode (pathOf path) 0o600
        match made with
        | .ok files => (s.withFiles files).printLine path
        | .error fault =>
          if o.has "q" then s.withStatus 1
          else complain s
            s!"{c.name}: failed to create {kind} via template {quotedValue placed}: {fault.reason}"

end IdlBuild.Tool
