import IdlBuild.Shell.Condition
import IdlBuild.Shell.Expansion
import IdlBuild.Shell.Formats
import IdlBuild.Shell.LineFields
import IdlBuild.Shell.Listing

/-!
# Builtins

The commands that act on the shell that runs them. A builtin that is refused leaves the shell in the
flow `failed`; its caller decides what becomes of that.
-/

namespace IdlBuild.Shell

/-- A builtin: what it does with its arguments. -/
abbrev Builtin := List String → Session → Session

namespace Builtin

/-! ### Arguments -/

/-- Prints a text, if the output can be written. -/
def print (name : String) (s : Session) (text : String) : Session :=
  if !s.canWrite 1 && !text.isEmpty then
    (s.complainHere s!"{name}: I/O error").withStatus 1
  else (s.print text).withStatus 0

/-- Something is done with a number without a sign. -/
def withNumber (text : String) (f : Nat → Session → Session) (s : Session) : Session :=
  if !text.isEmpty && text.toList.all Char.isDigit then f (text.toNat?.getD 0) s
  else s.fail s!"Illegal number: {text}" 2

/-- Something is done with the number that is the first argument, or with another one. -/
def withCount (arguments : List String) (other : Nat) (f : Nat → Session → Session)
    (s : Session) : Session :=
  match arguments with
  | [] => f other s
  | text :: _ => withNumber text f s

/-- The letters of the options in front and the arguments behind them, or the first letter that is
unknown. -/
def optionsOf (known : String) : List String → Except Char (List Char × List String)
  | [] => .ok ([], [])
  | "--" :: rest => .ok ([], rest)
  | argument :: rest =>
    match argument.toList with
    | '-' :: c :: letters =>
      match (c :: letters).find? fun l => !known.toList.contains l with
      | some wrong => .error wrong
      | none => (optionsOf known rest).map fun (others, rest) => (c :: letters ++ others, rest)
    | _ => .ok ([], argument :: rest)

/-- A builtin that takes options of some letters. -/
def withOptions (known : String) (f : List Char → Builtin) : Builtin := fun arguments s =>
  match optionsOf known arguments with
  | .error wrong => s.fail s!"Illegal option -{wrong}" 2
  | .ok (letters, rest) => f letters rest s

/-! ### Printing and asking -/

/-- Prints its arguments. -/
def echo : Builtin := fun arguments s => print "echo" s (Formats.echo arguments)

/-- Prints its arguments in a format. -/
def printf : Builtin := withOptions "" fun _ arguments s =>
  match arguments with
  | [] => s.fail "usage: printf format [arg ...]" 2
  | format :: arguments =>
    let made := Formats.printf format arguments
    let s := made.complaints.foldl (fun s (argument, fault) =>
      s.complainHere (fault.message argument)) s
    let s := print "printf" s made.text
    match made.fault with
    | some fault => s.fail fault.message 2
    | none => if made.complaints.isEmpty then s else s.withStatus 1

/-- Decides a condition. -/
def test : Builtin := fun words s =>
  match Condition.holds s.machine words with
  | .ok answer => s.withStatus (if answer then 0 else 1)
  | .error fault => s.fail fault 2

/-- Decides a condition in brackets. -/
def bracket : Builtin := fun words s =>
  if words.getLast? == some "]" then test words.dropLast s else s.fail "missing ]" 2

/-- The working directory without links. -/
def physicalDirectory (s : Session) : String :=
  unitsOfPath (FileSystem.pathOf s.files.workingDirectory)

/-- Prints the working directory. -/
def pwd : Builtin := withOptions "LP" fun letters _ s =>
  print "pwd" s ((if letters.getLast? == some 'P' then physicalDirectory s else s.directory) ++ "\n")

/-! ### Control -/

/-- Ends the shell. -/
def exit : Builtin := fun arguments s =>
  withCount arguments s.status (fun n s => s.exit (n % 256)) s

/-- Ends a function. -/
def returnNow : Builtin := fun arguments s =>
  withCount arguments s.status (fun n s => { s with status := n % 256, flow := .returning }) s

/-- Leaves loops in a way. -/
def leaveLoops (flow : Nat → Flow) : Builtin := fun arguments s =>
  withCount arguments 1 (fun n s =>
    if n = 0 then s.fail "Illegal number: 0" 2
    else { s with
      status := 0, flow := if s.loops = 0 then s.flow else flow (min n s.loops) }) s

/-! ### Variables and arguments -/

/-- Words of the form `name=value` or `name`: something is done with the name, and the value is
assigned first. -/
def assignWords (f : Session → String → Session) (words : List String) (s : Session) : Session :=
  words.foldl (fun s word =>
    if s.flow != .going then s
    else
      let (name, value) := match Text.cutFirst '=' word.toList with
        | some (name, value) => (name, some (String.ofList value))
        | none => (word.toList, none)
      let name := String.ofList name
      if !Reader.isName name.toList then s.fail s!"{name}: bad variable name" 2
      else match value with
        | some value =>
          let s := s.assign name value
          if s.flow != .going then s else f s name
        | none => f s name) (s.withStatus 0)

/-- Hands variables on to the programs that are called. -/
def exportNames : Builtin := withOptions "p" fun letters words s =>
  if words.isEmpty || letters.contains 'p' then (s.printNames "export" s.exported).withStatus 0
  else assignWords (fun s name =>
    if s.exported.contains name then s else { s with exported := name :: s.exported }) words s

/-- Assigns variables that are not to change. -/
def readonly : Builtin := withOptions "p" fun letters words s =>
  if words.isEmpty || letters.contains 'p' then (s.printNames "readonly" s.fixed).withStatus 0
  else assignWords (fun s name =>
    if s.fixed.contains name then s else { s with fixed := name :: s.fixed }) words s

/-- Variables of a function, which are put back at its end; a dash stands for the options. -/
def localVariables : Builtin := fun words s =>
  match s.locals with
  | none => s.fail "not in a function" 2
  | some _ =>
    words.foldl (fun s word =>
      if s.flow != .going then s
      else if word == "-" then
        { s with locals := s.locals.map fun l => ("-", some (String.ofList s.options), false) :: l }
      else
        let name := String.ofList (word.toList.takeWhile (· != '='))
        if !Reader.isName name.toList then s.fail s!"{name}: bad variable name" 2
        else
          let old := (name, s.valueOf? name, s.exported.contains name)
          let s := { s with locals := s.locals.map (old :: ·) }
          match Text.cutFirst '=' word.toList with
          | some (_, value) => s.assign name (String.ofList value)
          | none => s) (s.withStatus 0)

/-- Takes variables or functions away. -/
def unset : Builtin := withOptions "vf" fun letters names s =>
  names.foldl (fun s name =>
    if s.flow != .going then s
    else if letters.getLast? == some 'f' then
      { s with functions := s.functions.filter (·.1 != name) }
    else if !Reader.isName name.toList then s.fail s!"{name}: bad variable name" 2
    else s.forget name) (s.withStatus 0)

/-- The shell with other arguments. -/
def withArguments (s : Session) (arguments : List String) : Session :=
  { s with arguments, optionPlace := (1, none) }

/-- Takes arguments away from the front. -/
def shift : Builtin := fun arguments s =>
  withCount arguments 1 (fun n s =>
    if s.arguments.length < n then s.fail "can't shift that many" 2
    else (withArguments s (s.arguments.drop n)).withStatus 0) s

/-- The letters of the options of a shell. -/
def optionLetters : List Char := optionNames.filterMap Prod.snd

/-- The shell with an option set or not. -/
def withOption (s : Session) (letter : Char) (isOn : Bool) : Session :=
  let others := s.options.filter (· != letter)
  { s with options := if isOn then letter :: others else others }

/-- Sets options and arguments. -/
def setOptions : (first : Bool) → Builtin
  | _, [], s => s
  | first, word :: rest, s =>
    match word.toList with
    | ['-', '-'] => withArguments s rest
    | ['-'] =>
      let s := withOption (withOption s 'x' false) 'v' false
      if rest.isEmpty then s else withArguments s rest
    | ['-', 'o'] | ['+', 'o'] =>
      let isOn := word == "-o"
      match rest with
      | [] => s.printOptions (!isOn)
      | name :: rest =>
        match optionNames.lookup name with
        | none => s.fail s!"Illegal option {word} {name}" 2
        | some none => setOptions false rest s
        | some (some letter) => setOptions false rest (withOption s letter isOn)
    | mark :: c :: letters =>
      if mark == '-' || mark == '+' then
        match (c :: letters).find? fun l => l != 'o' && !optionLetters.contains l with
        | some wrong => s.fail s!"Illegal option {mark}{wrong}" 2
        | none =>
          let s := (c :: letters).foldl (fun s l =>
            if l == 'o' then s else withOption s l (mark == '-')) s
          if (c :: letters).contains 'o' then
            match rest with
            | [] => s.printOptions (mark == '+')
            | name :: rest =>
              match (optionNames.lookup name).join with
              | none => s.fail s!"Illegal option {mark}o {name}" 2
              | some letter => setOptions false rest (withOption s letter (mark == '-'))
          else setOptions false rest s
      else withArguments s (word :: rest)
    | _ => if first && word == "+" then setOptions false rest s else withArguments s (word :: rest)

/-- Sets options and arguments, or shows all variables. -/
def set : Builtin := fun arguments s =>
  if arguments.isEmpty then s.printVariables.withStatus 0
  else setOptions true arguments (s.withStatus 0)

/-! ### Reading -/

/-- What was taken from the front of bytes as a line: its characters, the number of bytes, and
whether it had an end. -/
structure TakenLine where
  back : List LineFields.Marked
  count : Nat
  ended : Bool

/-- Takes a line; a backslash makes the next character an ordinary one, or joins the next line, if
`raw` does not say otherwise. -/
def takeLine (raw : Bool) : (escaped : Bool) → Text.Bytes → TakenLine → TakenLine
  | _, [], t => t
  | true, b :: bytes, t =>
    let t := { t with count := t.count + 1 }
    takeLine raw false bytes
      (if b = 10 || b = 0 then t else { t with back := (Char.ofNat b.toNat, true) :: t.back })
  | false, b :: bytes, t =>
    let t := { t with count := t.count + 1 }
    if b = 10 then { t with ended := true }
    else if b = 0 then takeLine raw false bytes t
    else if b = 0x5C && !raw then takeLine raw true bytes t
    else takeLine raw false bytes { t with back := (Char.ofNat b.toNat, false) :: t.back }

/-- Reads a line into variables. -/
def read : Builtin := fun arguments s =>
  let rec split : List String → Except Char (Bool × List String)
    | [] => .ok (false, [])
    | "--" :: rest => .ok (false, rest)
    | "-p" :: _ :: rest => split rest
    | word :: rest =>
      match word.toList with
      | '-' :: c :: letters =>
        if c == 'p' then split rest
        else match (c :: letters).find? (· != 'r') with
          | some wrong => .error wrong
          | none => (split rest).map fun (_, names) => (true, names)
      | _ => .ok (false, word :: rest)
  match split arguments with
  | .error wrong => s.fail s!"Illegal option -{wrong}" 2
  | .ok (_, []) => s.fail "arg count" 2
  | .ok (raw, names) =>
    let taken (bytes : Text.Bytes) : TakenLine := takeLine raw false bytes ⟨[], 0, false⟩
    let (bytes, s) := s.readSome 0 fun bytes => (taken bytes).count
    let line := taken bytes
    let values := LineFields.ofLine s.separators names.length line.back.reverse
    let s := (names.zip values).foldl (fun s (name, value) =>
      if s.flow != .going then s
      else if !Reader.isName name.toList then s.fail s!"{name}: bad variable name" 2
      else s.assign name value) s
    if s.flow != .going then s else s.withStatus (if line.ended then 0 else 1)

/-- The options that are read from arguments: the letter, whether there is one, the value that goes
with it, the place after it and a complaint. -/
structure NextOption where
  letter : Char
  found : Bool
  value : Option String
  place : Nat × Option Nat
  complaint : Option String

/-- The letters of an option text, with whether they take a value. -/
def optionTable : List Char → List (Char × Bool)
  | [] => []
  | c :: ':' :: rest => (c, true) :: optionTable rest
  | c :: rest => (c, false) :: optionTable rest

/-- The next option among arguments. -/
def nextOption (known : String) (arguments : List String) (place : Nat × Option Nat) :
    NextOption :=
  let (index, offset) := place
  let quiet := known.startsWith ":"
  let table := optionTable (if quiet then known.toList.tail else known.toList)
  let current := match offset with
    | some n => (arguments[index - 2]?.map fun a => a.toList.drop n).getD []
    | none => []
  let begun : Option (List Char × Nat) :=
    if !current.isEmpty then some (current, index)
    else match arguments[index - 1]? with
      | none => none
      | some argument =>
        match argument.toList with
        | '-' :: c :: rest => if c == '-' && rest.isEmpty then none else some (c :: rest, index + 1)
        | _ => none
  let skipsMark := current.isEmpty && arguments[index - 1]? == some "--"
  match begun with
  | none => ⟨'?', false, none, (if skipsMark then index + 1 else index, none), none⟩
  | some ([], index) => ⟨'?', false, none, (index, none), none⟩
  | some (c :: rest, index) =>
    let whole := (arguments[index - 2]?.map String.length).getD 0
    let after : Nat × Option Nat :=
      (index, if rest.isEmpty then none else some (whole - rest.length))
    match if c == ':' then none else table.lookup c with
    | none =>
      if quiet then ⟨'?', true, some (String.ofList [c]), after, none⟩
      else ⟨'?', true, none, after, some s!"Illegal option -{c}"⟩
    | some false => ⟨c, true, some "", after, none⟩
    | some true =>
      if !rest.isEmpty then ⟨c, true, some (String.ofList rest), (index, none), none⟩
      else match arguments[index - 1]? with
        | some value => ⟨c, true, some value, (index + 1, none), none⟩
        | none =>
          if quiet then ⟨':', true, some (String.ofList [c]), (index, none), none⟩
          else ⟨'?', true, none, (index, none), some s!"No arg for -{c} option"⟩

/-- Takes the next option from the arguments. -/
def getopts : Builtin := fun arguments s =>
  match arguments with
  | known :: name :: others =>
    let given := if others.isEmpty then s.arguments else others
    let place := if given.length + 1 < s.optionPlace.1 then (1, none) else s.optionPlace
    let next := nextOption known given place
    let s := match next.complaint with
      | some complaint => s.complain complaint
      | none => s
    let s := if next.found then
        match next.value with
        | some value => s.bind "OPTARG" value
        | none => { s with bindings := s.bindings.filter (·.1 != "OPTARG") }
      else s
    let s := s.bind "OPTIND" (toString next.place.1)
    let s := s.assign name (String.ofList [next.letter])
    { s with optionPlace := next.place, status := if next.found then 0 else 1 }
  | _ => s.fail "Usage: getopts optstring var [arg]" 2

/-! ### Places -/

/-- A path put behind another one, with the dots in it taken away by what they say. -/
def joinedPath (base target : String) : String :=
  let pieces (text : String) : List (List Char) := Text.fields '/' text.toList
  let all := if target.startsWith "/" then pieces target else pieces base ++ pieces target
  let kept := all.foldl (fun (kept : List (List Char)) piece =>
    if piece.isEmpty || piece == ['.'] then kept
    else if piece == ['.', '.'] then kept.drop 1
    else piece :: kept) []
  "/" ++ "/".intercalate (kept.reverse.map String.ofList)

/-- Changes the working directory. -/
def enter (physical shows : Bool) (target shown : String) (s : Session) : Session :=
  let logical := joinedPath s.directory target
  match s.files.status (pathOf (if physical then target else logical)) with
  | .ok (location, .directory) =>
    let place := if physical then unitsOfPath (FileSystem.pathOf location) else logical
    let old := s.directory
    let s := { s with
      machine := { s.machine with files := s.files.enter location }, directory := place }
    let s := (s.bind "OLDPWD" old).bind "PWD" place
    if shows then print "cd" s (place ++ "\n") else s.withStatus 0
  | _ => s.fail s!"can't cd to {shown}" 2

/-- Changes the working directory to the one that is named, which may lie in one of several. -/
def cd : Builtin := withOptions "LP" fun letters arguments s =>
  let physical := letters.getLast? == some 'P'
  let (target, shows) := match arguments.head? with
    | none => ((s.valueOf? "HOME").getD "", false)
    | some "-" => ((s.valueOf? "OLDPWD").getD "", true)
    | some path => (path, false)
  let isPlaced := target.startsWith "/" || target == "." || target == ".." ||
    target.startsWith "./" || target.startsWith "../"
  let directories := match s.valueOf? "CDPATH" with
    | some paths => if isPlaced then [] else (Text.fields ':' paths.toList).map String.ofList
    | none => []
  let candidates := directories.map fun d =>
    (if d.isEmpty then target else d ++ "/" ++ target, !d.isEmpty)
  match candidates.find? fun (path, _) => s.files.isDirectoryPath (pathOf path) with
  | some (path, found) => enter physical (shows || found) path target s
  | none => enter physical shows (if target.isEmpty then "." else target) target s

/-- Does nothing. -/
def succeed : Builtin := fun _ s => s.withStatus 0

/-- Digits of a number in base eight. -/
def octalText (n : Nat) : String :=
  let digits := Nat.toDigits 8 n
  String.ofList (List.replicate (4 - digits.length) '0' ++ digits)

/-- The permissions of a class of users, as letters. -/
def permissionLetters (bits : Nat) : String :=
  (if bits / 4 % 2 = 1 then "r" else "") ++ (if bits / 2 % 2 = 1 then "w" else "") ++
    (if bits % 2 = 1 then "x" else "")

/-- The bits of permission letters. -/
def permissionBits (letters : List Char) : Nat :=
  (if letters.contains 'r' then 4 else 0) ||| (if letters.contains 'w' then 2 else 0) |||
    (if letters.contains 'x' then 1 else 0)

/-- Permissions after a change such as `g-w`. -/
def changedPermissions (clause : List Char) (allowed : Nat) : Option Nat :=
  let who := clause.takeWhile "ugoa".toList.contains
  let classes := if who.isEmpty || who.contains 'a' then "ugo".toList else who
  match clause.drop who.length with
  | operator :: letters =>
    if !letters.all "rwx".toList.contains then none
    else
      let bits := permissionBits letters
      let place (c : Char) : Nat := if c == 'u' then 6 else if c == 'g' then 3 else 0
      match operator with
      | '=' => some (classes.foldl (fun n c =>
          (n - (n &&& (7 <<< place c))) ||| (bits <<< place c)) allowed)
      | '+' => some (classes.foldl (fun n c => n ||| (bits <<< place c)) allowed)
      | '-' => some (classes.foldl (fun n c => n - (n &&& (bits <<< place c))) allowed)
      | _ => none
  | [] => none

/-- Says or sets which permissions new files lack. -/
def umask : Builtin := withOptions "S" fun letters arguments s =>
  match arguments with
  | [] =>
    if letters.contains 'S' then
      let allowed := 0o777 - (0o777 &&& s.mask)
      print "umask" s ("u=" ++ permissionLetters (allowed / 64) ++ ",g=" ++
        permissionLetters (allowed / 8) ++ ",o=" ++ permissionLetters allowed ++ "\n")
    else print "umask" s (octalText s.mask ++ "\n")
  | text :: _ =>
    if (text.toList.head?.map Char.isDigit).getD false then
      match text.toList.find? fun c => !('0' ≤ c && c ≤ '7') with
      | some _ => s.fail s!"Illegal number: {text}" 2
      | none =>
        let n := text.toList.foldl (fun n c => n * 8 + (c.toNat - 0x30)) 0
        { s with mask := n % 0o1000, status := 0 }
    else
      let allowed := 0o777 - (0o777 &&& s.mask)
      match (Text.fields ',' text.toList).foldlM (fun n clause =>
        changedPermissions clause n) allowed with
      | some n => { s with mask := 0o777 - n, status := 0 }
      | none => s.fail s!"Illegal mode: {text}" 2

/-! ### Other names -/

/-- Lets names stand for texts, or shows what they stand for. -/
def setAlias : Builtin := fun words s =>
  if words.isEmpty then
    ((spreadOrder 39 s.aliases).foldl (fun s (name, text) => s.printAlias name text) s).withStatus 0
  else words.foldl (fun s word =>
    match word.toList with
    | [] => s
    | c :: cs =>
      match Text.cutFirst '=' cs with
      | some (name, text) =>
        let name := String.ofList (c :: name)
        let entry := (name, String.ofList text)
        { s with aliases :=
            if s.aliases.any (·.1 == name) then
              s.aliases.map fun old => if old.1 == name then entry else old
            else s.aliases ++ [entry] }
      | none =>
        match s.aliases.lookup word with
        | some text => s.printAlias word text
        | none => (s.complain s!"alias: {word} not found").withStatus 1) (s.withStatus 0)

/-- Lets names stand for themselves again. -/
def unalias : Builtin := withOptions "a" fun letters names s =>
  if letters.contains 'a' then { s with aliases := [], status := 0 }
  else names.foldl (fun s name =>
    if s.aliases.any (·.1 == name) then { s with aliases := s.aliases.filter (·.1 != name) }
    else (s.complain s!"unalias: {name} not found").withStatus 1) (s.withStatus 0)

/-! ### Commands in the background -/

/-- Waits for commands in the background: for all of them, or for those that are named. -/
def wait : Builtin := fun arguments s =>
  if arguments.isEmpty then
    (s.withStatus 0).spend (s.machine.busyUntil - s.machine.clock)
  else arguments.foldl (fun s text =>
    if s.flow != .going then s
    else if text.startsWith "%" then s.fail s!"No such job: {text}" 2
    else withNumber text (fun n s =>
      match s.machine.jobs.find? (·.number == n) with
      | none => s.withStatus 127
      | some job =>
        let s := s.spend (job.finish - s.machine.clock)
        let s := if 128 < job.status && job.status < 193 && !isSilentSignal (job.status - 128) then
            s.complain (signalDescription (job.status - 128)) else s
        s.withStatus job.status) s) s

/-- The limits of a shell, which are none. -/
def ulimit : Builtin := fun arguments s =>
  if arguments.all fun a => a.startsWith "-" then print "ulimit" s "unlimited\n" else s.withStatus 0

/-- The time that the shell and its commands have taken. -/
def times : Builtin := fun _ s =>
  print "times" s "0m0.000000s 0m0.000000s\n0m0.000000s 0m0.000000s\n"

/-- Continues a command that was stopped; there is none. -/
def resume : Builtin := fun _ s => s.fail "No current job" 2

/-! ### Names -/

/-- The builtins that end the shell when they fail, and whose assignments stay. -/
def special : List (String × Builtin) :=
  [(":", succeed), ("break", leaveLoops .breaking), ("continue", leaveLoops .continuing),
   ("exit", exit), ("export", exportNames), ("readonly", readonly), ("return", returnNow),
   ("set", set), ("shift", shift), ("times", times), ("unset", unset)]

/-- The other builtins. -/
def regular : List (String × Builtin) :=
  [("echo", echo), ("printf", printf), ("test", test), ("[", bracket), ("pwd", pwd),
   ("true", succeed), ("false", fun _ s => s.withStatus 1), ("read", read), ("cd", cd),
   ("chdir", cd), ("local", localVariables), ("umask", umask), ("ulimit", ulimit),
   ("alias", setAlias), ("unalias", unalias), ("wait", wait), ("jobs", succeed), ("bg", resume),
   ("fg", resume), ("getopts", getopts)]

end Builtin

end IdlBuild.Shell
