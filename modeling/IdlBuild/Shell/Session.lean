import IdlBuild.Shell.Machine

/-!
# Sessions

A shell in the middle of its work. Besides the machine it has what a subshell gets a copy of:
descriptors, variables, arguments, and how far its script has come.
-/

namespace IdlBuild.Shell

open Text (Bytes)

/-- How a script goes on. -/
inductive Flow where
  | going
  | breaking (loops : Nat)
  | continuing (loops : Nat)
  | returning
  /-- The shell ends with the status it has. -/
  | ended
  /-- A command has been refused; the shell ends unless the command was a harmless one. -/
  | failed
  /-- The shell has become another program, which has ended. -/
  | replaced
  /-- The child ended without being asked. -/
  | killed (ending : Child.Ending)
deriving DecidableEq, Repr

/-- A shell in the middle of its work. -/
structure Session where
  machine : Machine
  descriptors : List (Nat × Channel)
  bindings : List (String × String)
  exported : List String
  /-- The variables that cannot change any more. -/
  fixed : List String
  functions : List (String × Command)
  /-- The names that other texts stand for. -/
  aliases : List (String × String)
  /-- The name that messages begin with. -/
  name : String
  arguments : List String
  status : Nat
  /-- The status of the last script whose output was captured. -/
  captured : Nat
  flow : Flow
  /-- The line that is being run. -/
  line : Nat
  /-- The builtin that is being run, as messages name it. -/
  within : Option String
  /-- The letters of the options that are set. -/
  options : List Char
  /-- The variables of the function that is being run, with the values that they had before; none
  outside functions. -/
  locals : Option (List (String × Option String × Bool))
  /-- How many loops the command that is being run stands in. -/
  loops : Nat
  /-- What is run at a signal, or at the end (`EXIT`). -/
  traps : List (String × String)
  /-- The number that the shell is known by. -/
  number : Nat
  /-- The number of the last command in the background. -/
  lastJob : Option Nat
  /-- The argument that options are read from, and the place in it. -/
  optionPlace : Nat × Option Nat
  /-- The working directory as it was entered. -/
  directory : String
  /-- The permissions that new files lack. -/
  mask : Nat
  /-- The programs that have been found, by name. -/
  remembered : List (String × String)

namespace Session

/-! ### Time -/

/-- Lets time pass. A child is killed when its time is over. -/
def spend (s : Session) (microseconds : Nat) : Session :=
  let clock := s.machine.clock + microseconds
  match s.machine.deadline with
  | some deadline =>
    if deadline ≤ clock then
      { s with machine := { s.machine with clock := deadline }, flow := .killed .overtime }
    else { s with machine := { s.machine with clock } }
  | none => { s with machine := { s.machine with clock } }

/-- The microseconds that no child is given. -/
def forever : Nat := 1000000000000000

/-! ### Outcomes -/

/-- The shell with a status. -/
def withStatus (s : Session) (status : Nat) : Session := { s with status }

/-- Ends the shell with a status. -/
def exit (s : Session) (status : Nat) : Session := { s with status, flow := .ended }

/-- The files. -/
def files (s : Session) : FileSystem := s.machine.files

/-- The shell with other files. -/
def withFiles (s : Session) (files : FileSystem) : Session :=
  { s with machine := { s.machine with files } }

/-- The mode of new files. -/
def newMode (s : Session) : Nat := 0o666 - (0o666 &&& s.mask)

/-! ### Reading and writing -/

/-- What a descriptor stands for, if it is open. -/
def channel? (s : Session) (descriptor : Nat) : Option Channel :=
  (s.descriptors.find? (·.1 == descriptor)).map Prod.snd

/-- The shell with a descriptor that stands for something else, or is closed. -/
def withChannel (s : Session) (descriptor : Nat) (channel : Option Channel) : Session :=
  let others := s.descriptors.filter (·.1 != descriptor)
  { s with descriptors := (channel.map fun c => (descriptor, c)).toList ++ others }

/-- Whether what is written to a descriptor gets anywhere. -/
def canWrite (s : Session) (descriptor : Nat) : Bool :=
  match s.channel? descriptor with
  | none | some .full => false
  | _ => true

/-- Writes bytes to a descriptor, if it is open. Whoever writes more than anyone waits for is ended
by that. -/
def write (s : Session) (descriptor : Nat) (bytes : Bytes) : Session :=
  if bytes.isEmpty then s
  else match s.channel? descriptor with
    | some channel =>
      if s.machine.isOverrun channel then { s with status := 141, flow := .replaced }
      else { s with machine := s.machine.write bytes channel }
    | none => s

/-- Writes a text. -/
def print (s : Session) (text : String) : Session := s.write 1 (Text.Units.bytesOf text)

/-- Writes a line. -/
def printLine (s : Session) (text : String) : Session := s.print (text ++ "\n")

/-- Writes a line on the error stream. -/
def complain (s : Session) (message : String) : Session :=
  s.write 2 (Text.Units.bytesOf (message ++ "\n"))

/-- A complaint of the shell itself about the line that is being run. -/
def complainHere (s : Session) (message : String) : Session :=
  let place := match s.within with
    | some name => s!"{name}: "
    | none => ""
  s.complain s!"{s.name}: {s.line}: {place}{message}"

/-- Refuses the command that is being run, with a complaint. -/
def fail (s : Session) (message : String) (status : Nat) : Session :=
  { s.complainHere message with status, flow := .failed }

/-- Takes some of what a descriptor has to read. -/
def readSome (s : Session) (descriptor : Nat) (count : Bytes → Nat) : Bytes × Session :=
  match s.channel? descriptor with
  | none => ([], s)
  | some channel =>
    let machine := s.machine.settled channel
    let bytes := machine.available channel
    let n := count bytes
    (bytes.take n, { s with machine := machine.consume n channel })

/-- Takes everything that a descriptor has to read. -/
def readAll (s : Session) (descriptor : Nat) : Bytes × Session := s.readSome descriptor List.length

/-! ### Variables -/

/-- The value of a variable. -/
def valueOf? (s : Session) (name : String) : Option String :=
  (s.bindings.find? (·.1 == name)).map Prod.snd

/-- Gives a variable a value, whether it may change or not. -/
def bind (s : Session) (name value : String) : Session :=
  let s := { s with bindings := (name, value) :: s.bindings.filter (·.1 != name) }
  match name with
  | "OPTIND" => { s with optionPlace := ((value.toNat?.getD 1).max 1, none) }
  | "PATH" => { s with remembered := [] }
  | _ => s

/-- Gives a variable a value. -/
def assign (s : Session) (name value : String) : Session :=
  if s.fixed.contains name then s.fail s!"{name}: is read only" 2
  else
    let s := s.bind name value
    if s.options.contains 'a' && !s.exported.contains name then
      { s with exported := name :: s.exported }
    else s

/-- Takes a variable away. -/
def forget (s : Session) (name : String) : Session :=
  if s.fixed.contains name then s.fail s!"{name}: is read only" 2
  else
    { s with
      bindings := s.bindings.filter (·.1 != name)
      exported := s.exported.filter (· != name) }

/-- The characters that separate fields. -/
def separators (s : Session) : List Char := ((s.valueOf? "IFS").getD " \t\n").toList

/-- The letters of the options in the order in which they are shown. -/
def optionOrder : List Char := "ubaCEVvxsnmiIfe".toList

/-- What is put between arguments that are made one text. -/
def joint (s : Session) : String :=
  match s.valueOf? "IFS" with
  | none => " "
  | some marks => String.ofList (marks.toList.take 1)

/-- The value of a parameter, if it is set. -/
def parameter? (s : Session) (name : String) : Option String :=
  match name with
  | "@" | "*" =>
    if s.arguments.isEmpty then none else some (s.joint.intercalate s.arguments)
  | "#" => some (toString s.arguments.length)
  | "?" => some (toString s.status)
  | "$" => some (toString s.number)
  | "!" => s.lastJob.map toString
  | "-" => some (String.ofList (optionOrder.filter s.options.contains))
  | "0" => some s.name
  | _ =>
    match name.toNat? with
    | some n => if 0 < n then s.arguments[n - 1]? else some s.name
    | none => s.valueOf? name

/-- The variables that are handed on to programs. -/
def environment (s : Session) : List (String × String) :=
  s.bindings.filter fun (name, _) => s.exported.contains name

/-- How many lists a shell keeps its variables in. -/
def listCount : Nat := 39

/-- The list in which a shell keeps a variable. -/
def listOf (name : String) : Nat :=
  (name.toList.foldl (fun n c => n + c.toNat) ((name.toList.head?.getD '\x00').toNat * 16)) %
    listCount

/-- The shell as the programs that it calls see it: the variables that are handed on stand in front,
list by list. -/
def handingOn (s : Session) : Session :=
  let handed := s.environment.reverse.mergeSort fun a b => listOf a.1 ≤ listOf b.1
  { s with bindings := handed ++ s.bindings.filter fun (name, _) => !s.exported.contains name }

/-! ### Subshells -/

/-- A shell as it was, on the machine as it is after its subshell. What ends the subshell does not
end the shell, unless the child itself was killed. -/
def afterSubshell (s inner : Session) : Session :=
  let files := inner.machine.files.enter s.machine.files.workingDirectory
  { s with
    machine := { inner.machine with files }
    status := inner.status
    flow := match inner.flow with
      | .killed ending => .killed ending
      | _ => s.flow }

end Session

/-! ### Programs -/

/-- A call of a program: the name that it goes by, and its arguments. -/
structure Call where
  name : String
  arguments : List String
deriving DecidableEq, Repr

/-- What a program does to the shell that calls it. -/
abbrev Tool := Call → Session → Session

/-- Calls the program that the first of some words names. -/
abbrev Caller := List String → Session → Session

end IdlBuild.Shell
