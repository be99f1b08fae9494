import IdlBuild.Shell.Builtins
import IdlBuild.Shell.Programs
import IdlBuild.Shell.Reader

/-!
# Running commands

What a command does to a shell. A command that is run inside another one is run by the same function
with less fuel, so that everything else here takes that function as a parameter (`Runner`). Commands
joined by a bar and commands in the background run one after the other, each on a clock of its own.
The standard programs other than the shell itself are a parameter too (`Toolbox`). The shell stands
in for the one of a real machine, and no theorem is about it.
-/

namespace IdlBuild.Shell

open Text (Bytes)

/-- Runs a command. A command is tested if its failure is no reason to stop. -/
abbrev Runner := (tested : Bool) → Command → Session → Session

/-- The standard programs by name; those that call other programs do so by the caller. -/
abbrev Toolbox := Caller → String → Option Tool

namespace Run

/-! ### Time -/

/-- The microseconds that a builtin takes. -/
def builtinTime : Nat := 2

/-- The microseconds that a program takes to start. -/
def programTime : Nat := 1000

/-! ### Redirections -/

/-- Whether a fault says that something is not there. -/
def isAbsent (fault : IoFault) : Bool := fault == .noSuchEntry || fault == .notDirectory

/-- What is said when a path cannot be opened. -/
def openFailure (mode : OpenMode) (path : String) (fault : IoFault) : String :=
  match mode with
  | .input =>
    s!"cannot open {path}: " ++ (if isAbsent fault then "No such file" else fault.reason)
  | _ =>
    s!"cannot create {path}: " ++
      (if isAbsent fault then "Directory nonexistent" else fault.reason)

/-- A refused redirection: the shell has complained. -/
def refused (s : Session) (message : String) : Except Session Session :=
  .error ((s.complainHere message).withStatus 2)

/-- Makes a descriptor the same as another one. -/
def duplicate (s : Session) (descriptor : Nat) (source : String) : Except Session Session :=
  if source == "-" then .ok (s.withChannel descriptor none)
  else if source.toList.all Char.isDigit && source.length == 1 then
    match s.channel? (source.toNat?.getD 0) with
    | some channel => .ok (s.withChannel descriptor (some channel))
    | none => refused s s!"{source}: Bad file descriptor"
  else .error (s.fail "Syntax error: Bad fd number" 2)

/-- The descriptor that a path stands for, if it does. -/
def descriptorOf? (path : String) : Option String :=
  match path with
  | "/dev/stdin" => some "0"
  | "/dev/stdout" => some "1"
  | "/dev/stderr" => some "2"
  | _ => if path.startsWith "/dev/fd/" then some (String.ofList (path.toList.drop 8)) else none

/-- Opens a path for a descriptor. -/
def openFor (s : Session) (descriptor : Nat) (mode : OpenMode) (path : String) :
    Except Session Session :=
  match descriptorOf? path with
  | some source =>
    match s.channel? (source.toNat?.getD 99) with
    | some channel => .ok (s.withChannel descriptor (some channel))
    | none => refused s (openFailure mode path .noSuchEntry)
  | none =>
    let isKept := mode == .output && s.options.contains 'C' &&
      match s.files.status (pathOf path) with
      | .ok (location, .file ..) => !Machine.isDevice location
      | _ => false
    if isKept then refused s (openFailure mode path .fileExists)
    else match s.machine.openPath mode (pathOf path) s.newMode with
      | .ok (channel, machine) => .ok ({ s with machine }.withChannel descriptor (some channel))
      | .error fault => refused s (openFailure mode path fault)

/-- Makes the changes of descriptors in order, up to the first that is refused. -/
def redirect (capture : Expansion.Capture) : List Redirection → Session → Except Session Session
  | [], s => .ok s
  | change :: rest, s => do
    let s ← match change with
      | .file descriptor mode target =>
        let (path, s) := Expansion.text capture target s
        if s.flow != .going then .error s else openFor s descriptor mode path
      | .duplicate descriptor source =>
        let (text, s) := Expansion.text capture source s
        if s.flow != .going then .error s else duplicate s descriptor text
      | .document descriptor content =>
        let (items, s) := Expansion.itemsOfPieces capture content s
        if s.flow != .going then .error s
        else
          let text := Expansion.textOf s.joint items
          let (channel, machine) := s.machine.openBuffer (Text.Units.bytesOf text)
          .ok ({ s with machine }.withChannel descriptor (some channel))
    redirect capture rest s

/-- Runs something under changes of descriptors, which are undone afterwards. -/
def underRedirections (capture : Expansion.Capture) (changes : List Redirection)
    (body : Session → Session) (s : Session) : Session :=
  match redirect capture changes s with
  | .ok inner => { body inner with descriptors := s.descriptors }
  | .error failed => { failed with descriptors := s.descriptors }

/-! ### Scripts -/

/-- Runs the lines of a script, showing them first if that is asked for; `fuel` bounds their
number. -/
def lines (run : Command → Session → Session) (shown : Bool) (total : Nat) :
    (fuel : Nat) → List Char → Session → Session
  | 0, _, s => s
  | fuel + 1, cs, s =>
    if cs.isEmpty then s
    else match Reader.nextLine s.aliases total cs with
      | .error fault =>
        let failed := { s with line := fault.line }.complainHere fault.message
        { failed with status := 2, flow := .failed }
      | .ok (command, rest) =>
        let text := String.ofList (cs.take (cs.length - rest.length))
        let s := if shown && s.options.contains 'v' then s.write 2 (Text.Units.bytesOf text) else s
        let s := run command s
        if s.flow == .going then lines run shown total fuel rest s else s

/-- Runs a script. -/
def script (run : Command → Session → Session) (shown : Bool) (text : String) (s : Session) :
    Session :=
  let cs := text.toList.filter (· != '\x00')
  lines run shown (cs.count '\n') (cs.length + 1) cs s

/-- Runs what is to be run when a shell ends, which keeps the status that it had. -/
def farewell (run : Runner) (done : Session) : Session :=
  match done.flow, done.traps.lookup "EXIT" with
  | .killed _, _ | .replaced, _ => done
  | _, none => done
  | _, some text =>
    let status := done.status
    let after := script (run false) false text
      { done with
        flow := .going, traps := done.traps.filter (·.1 != "EXIT"), within := none, line := 1 }
    match after.flow with
    | .ended | .failed | .killed _ | .replaced => after
    | _ => { after with status, flow := .ended }

/-- Runs a script as a whole shell does, with what is to be run at the end. -/
def wholeScript (run : Runner) (shown : Bool) (text : String) (s : Session) : Session :=
  farewell run (script (run false) shown text (s.withStatus 0))

/-! ### Subshells -/

/-- Runs something in a subshell, which forgets what is to be run at signals. -/
def inSubshell (run : Runner) (body : Session → Session) (s : Session) : Session :=
  let kept := s.traps.filter fun (name, text) => text.isEmpty && name != "EXIT"
  s.afterSubshell (farewell run (body { s with traps := kept }))

/-- Runs something and captures what it prints. -/
def captured (run : Runner) (body : Session → Session) (s : Session) : String × Session :=
  let (channel, machine) := s.machine.openBuffer []
  let done := inSubshell run (fun s => body (s.withChannel 1 (some channel))) { s with machine }
  let bytes := done.machine.available channel
  let text := (bytes.reverse.dropWhile (· == 10)).reverse.filter (· != 0)
  (Text.Units.ofBytes text, { done with captured := done.status, status := s.status })

/-- Runs something whose output another command reads. -/
def piped (run : Runner) (first second : Session → Session) (s : Session) : Session :=
  let (channel, machine) := s.machine.openBuffer []
  let s := inSubshell run (fun s => first (s.withChannel 1 (some channel))) { s with machine }
  if s.flow != .going then s
  else inSubshell run (fun s => second (s.withChannel 0 (some channel))) s

/-- The streams that a command in the background holds open: those that its own redirections leave
alone. -/
def heldStreams (s : Session) (body : Command) : List Child.Stream :=
  let changes := match body with
    | .redirected _ _ changes => changes
    | .simple _ _ _ changes => changes
    | _ => []
  let channels := changes.foldl (fun (channels : List (Nat × Channel)) change =>
    let without (descriptor : Nat) : List (Nat × Channel) :=
      channels.filter (·.1 != descriptor)
    match change with
    | .file descriptor .. | .document descriptor _ => without descriptor
    | .duplicate descriptor source =>
      let number := (String.ofList (Reader.plainText source).1).toNat?
      match number.bind fun n => channels.lookup n with
      | some channel => (descriptor, channel) :: without descriptor
      | none => without descriptor) s.descriptors
  Child.Stream.all.filter fun stream =>
    channels.any fun (descriptor, channel) => descriptor ≤ 2 && channel == .stream stream

/-- Runs a command in the background: it does not take the time of the shell, and it is not killed
with it. -/
def inBackground (run : Runner) (body : Command) (s : Session) : Session :=
  let start := s.machine.clock
  let deadline := s.machine.deadline
  let number := s.machine.nextNumber
  let before := s.machine.writes.length
  let inner := farewell run (run false body { s with
    machine := { s.machine with deadline := none, nextNumber := number + 1 }
    descriptors := (0, .nowhere) :: s.descriptors.filter (·.1 != 0)
    traps := [] })
  let finish := inner.machine.clock
  let held := (heldStreams s body).map fun stream => (stream, finish, number)
  let done := s.afterSubshell { inner with flow := .going }
  let status := match inner.flow with
    | .killed (.signalled n) => 128 + n
    | _ => inner.status
  { done with
    status := 0
    lastJob := some number
    machine := { done.machine with
      clock := start
      deadline
      held := held ++ done.machine.held
      jobs := ⟨number, status, finish, (before, done.machine.writes.length)⟩ ::
        done.machine.jobs } }

/-! ### Loops -/

/-- What a loop makes of the flow after one round: the shell, and whether there is another round. -/
def afterRound (s : Session) : Session × Bool :=
  match s.flow with
  | .breaking n => ({ s with flow := if n ≤ 1 then .going else .breaking (n - 1) }, false)
  | .continuing n =>
    if n ≤ 1 then ({ s with flow := .going }, true)
    else ({ s with flow := .continuing (n - 1) }, false)
  | .going => (s, true)
  | _ => (s, false)

/-- Repeats a body while the condition has an outcome. `last` is the status of the last round, and
`fuel` bounds the number of rounds: a loop that goes on after them never ends. -/
def repeatWhile (condition body : Session → Session) (outcome : Bool) :
    (fuel : Nat) → (last : Nat) → Session → Session
  | 0, _, s => s.spend Session.forever
  | fuel + 1, last, s =>
    let (s, goesOn) := afterRound (condition s)
    if !goesOn then s
    else if (s.status == 0) != outcome then s.withStatus last
    else
      let (s, goesOn) := afterRound (body s)
      if goesOn then repeatWhile condition body outcome fuel s.status s else s

/-- Runs a body once for each value of a variable. -/
def repeatFor (name : String) (body : Session → Session) : List String → Session → Session
  | [], s => s
  | value :: rest, s =>
    let assigned := s.assign name value
    if assigned.flow != .going then assigned
    else
      let (s, goesOn) := afterRound (body assigned)
      if goesOn then repeatFor name body rest s else s

/-! ### Choices -/

/-- Whether one of some patterns stands for a text. -/
def anyPattern (capture : Expansion.Capture) (subject : List Char) :
    List Word → Session → Bool × Session
  | [], s => (false, s)
  | word :: rest, s =>
    let (items, s) := Expansion.pattern capture word s
    if s.flow != .going then (false, s)
    else if matchesPattern items subject then (true, s)
    else anyPattern capture subject rest s

/-- Runs the commands of the first clause with a pattern that stands for the subject. -/
def choose (capture : Expansion.Capture) (run : Command → Session → Session) (subject : List Char) :
    List (List Word × Command) → Session → Session
  | [], s => s.withStatus 0
  | (patterns, body) :: rest, s =>
    let (found, s) := anyPattern capture subject patterns s
    if s.flow != .going then s
    else if found then run body (s.withStatus 0) else choose capture run subject rest s

/-! ### Programs -/

/-- A new shell for a script that is called by name. -/
def newShell (s : Session) (name : String) (arguments : List String) : Session :=
  { s with
    bindings := ("PWD", s.directory) :: (s.environment.filter fun (v, _) =>
      v != "PWD" && v != "OPTIND").reverse
    exported := if s.exported.contains "PWD" then s.exported else "PWD" :: s.exported
    fixed := []
    functions := []
    aliases := []
    name
    arguments
    status := 0
    captured := 0
    flow := .going
    line := 1
    within := none
    options := []
    locals := none
    loops := 0
    traps := s.traps.filter fun (name, text) => text.isEmpty && name != "EXIT"
    number := s.machine.nextNumber
    lastJob := none
    optionPlace := (1, none)
    remembered := []
    machine := { s.machine with nextNumber := s.machine.nextNumber + 1 } }

/-- A shell after a program that it has called. The end by a signal is told of. -/
def afterProgram (s done : Session) : Session :=
  match done.flow with
  | .killed (.signalled n) =>
    let left := { done with flow := s.flow, status := 128 + n }
    if isSilentSignal n then left else left.complain (signalDescription n)
  | _ => done

/-- How a shell is called: whether the script is an argument, whether it is the input, and what comes
behind the options. -/
structure ShellCall where
  command : Bool
  input : Bool
  operands : List String

/-- Reads the options of a call of a shell; the shell that is refused has complained. -/
def shellCall : (command input : Bool) → List String → Session → Except Session (ShellCall × Session)
  | command, input, [], s => .ok (⟨command, input, []⟩, s)
  | command, input, argument :: rest, s =>
    let refuse (message : String) : Except Session (ShellCall × Session) :=
      .error ((s.complain s!"{s.name}: 0: {message}").exit 2)
    let here (operands : List String) : Except Session (ShellCall × Session) :=
      .ok (⟨command, input, operands⟩, s)
    match argument.toList with
    | ['-'] | ['-', '-'] => here rest
    | ['-', 'o'] | ['+', 'o'] =>
      match rest with
      | [] => .ok (⟨command, input, []⟩, s.printOptions (argument == "+o"))
      | name :: rest =>
        match (optionNames.lookup name).join with
        | none => refuse s!"Illegal option {argument} {name}"
        | some letter =>
          shellCall command input rest (Builtin.withOption s letter (argument == "-o"))
    | sign :: c :: letters =>
      if sign == '-' || sign == '+' then
        let letters := c :: letters
        let known (l : Char) : Bool := l == 'c' || l == 'l' || Builtin.optionLetters.contains l
        match letters.find? fun l => !known l with
        | some wrong => refuse s!"Illegal option {sign}{wrong}"
        | none =>
          let s := letters.foldl (fun s l =>
            if l == 'c' || l == 'l' then s else Builtin.withOption s l (sign == '-')) s
          shellCall (command || letters.contains 'c') (input || letters.contains 's') rest s
      else here (argument :: rest)
    | _ => here (argument :: rest)

/-- Calls a shell with arguments: a script after `-c`, a file, or what it reads. -/
def callShell (run : Runner) (arguments : List String) (s : Session) : Session :=
  match shellCall false false arguments s with
  | .error refused => refused
  | .ok (call, s) =>
    let fromInput (operands : List String) : Session :=
      let (bytes, s) := s.readAll 0
      wholeScript run true (Text.Units.ofBytes bytes)
        (Builtin.withOption { s with arguments := operands } 's' true)
    match call.command, call.input, call.operands with
    | true, _, [] => (s.complain s!"{s.name}: 0: -c requires an argument").exit 2
    | true, _, [text] => wholeScript run false text s
    | true, _, text :: name :: rest => wholeScript run false text { s with name, arguments := rest }
    | false, true, operands => fromInput operands
    | false, false, [] => fromInput []
    | false, false, path :: rest =>
      match s.files.status (pathOf path) with
      | .error fault =>
        (s.complain (s!"{s.name}: 0: " ++ openFailure .input path fault)).exit 2
      | .ok (_, .file content _) =>
        wholeScript run true (Text.Units.ofBytes content)
          { s with name := path, arguments := rest }
      | .ok _ => (s.complain s!"{path}: 0: Is a directory").exit 2

/-- The names of the shell itself. -/
def shellNames : List String := ["sh", "dash"]

/-- Runs a standard program. -/
def callImage (tools : Toolbox) (run : Runner) (call : Caller) (image : String) (c : Call)
    (s : Session) : Session :=
  if shellNames.contains image then callShell run c.arguments (newShell s c.name [])
  else match tools call image with
    | some tool => tool c { s with status := 0, options := [], locals := none }
    | none => s.withStatus 0

/-- Runs what a name and arguments call, up to its end. A text that the system cannot run is run as a
script. -/
def runProgram (tools : Toolbox) (run : Runner) (call : Caller) (name : String)
    (arguments : List String) (s : Session) : Except IoFault Session :=
  match Programs.start s.files (Programs.searchPath s) ⟨name, arguments⟩ with
  | .ok (image, c) => .ok (callImage tools run call image c s)
  | .error fault =>
    if fault != Programs.noFormat then .error fault
    else match Programs.pathOf? s.files (Programs.searchPath s) name with
      | none => .error fault
      | some path =>
        match s.files.readFile (pathOf path) with
        | .error fault => .error fault
        | .ok content =>
          .ok (wholeScript run true (Text.Units.ofBytes content) (newShell s path arguments))

/-- The complaint about a program that cannot be run, and the status. -/
def refusedProgram (name : String) (fault : IoFault) (s : Session) : Session :=
  if isAbsent fault then (s.complainHere s!"{name}: not found").withStatus 127
  else
    let isUnknown := !name.toList.contains '/' || fault == .tooManyLinks || fault == .nameTooLong
    (s.complainHere s!"{name}: {fault.reason}").withStatus (if isUnknown then 127 else 126)

/-- Calls a program by name; `depth` bounds how often one call leads to another. The end of the
program by a signal is left as the end of the caller. -/
def callProgram (tools : Toolbox) (run : Runner) : (depth : Nat) → Caller
  | 0, _, s => s.withStatus 126
  | _, [], s => s.withStatus 0
  | depth + 1, name :: arguments, s =>
    let call := callProgram tools run depth
    let s := s.spend programTime
    if s.flow != .going then s
    else match runProgram tools run call name arguments s with
      | .ok inner => s.afterSubshell inner
      | .error fault => refusedProgram name fault s

/-- How often one call may lead to another. -/
def callDepth : Nat := 16

/-- Calls a program as a shell does. -/
def callFromShell (tools : Toolbox) (run : Runner) (words : List String) (s : Session) : Session :=
  let done := callProgram tools run callDepth words s.handingOn
  afterProgram s { done with bindings := s.bindings }

/-! ### Signals -/

/-- The signals that do nothing unless they are caught. -/
def harmlessSignals : List Nat := [0, 17, 18, 23, 28]

/-- The signals that stop the child for good. -/
def stoppingSignals : List Nat := [19, 20, 21, 22]

/-- The signals that cannot be caught. -/
def uncaughtSignals : List Nat := [9, 19]

/-- What a signal does to the shell that gets it. -/
def receive (run : Runner) (signal : Nat) (s : Session) : Session :=
  let caught := if uncaughtSignals.contains signal then none
    else (signalName? signal).bind fun name => s.traps.lookup name
  match caught with
  | some text =>
    if text.isEmpty || signal = 0 then s
    else
      let done := script (run true) false text { s with line := 1 }
      if done.flow == .going then { done with status := s.status, line := s.line } else done
  | none =>
    if harmlessSignals.contains signal then s
    else if stoppingSignals.contains signal then s.spend Session.forever
    else { s with flow := .killed (.signalled signal) }

/-- How `kill` is to be called. -/
def killUsage : String :=
  "Usage: kill [-s sigspec | -signum | -sigspec] [pid | job]... or\nkill -l [exitstatus]"

/-- Shows the names of signals. -/
def listSignals (arguments : List String) (s : Session) : Session :=
  match arguments with
  | [] =>
    ((List.range 64).foldl (fun s n =>
      s.printLine ((signalName? (n + 1)).getD "")) (s.printLine "0")).withStatus 0
  | text :: _ =>
    Builtin.withNumber text (fun n s =>
      let signal := if 128 < n then n - 128 else n
      match if signal = 0 then none else signalName? signal with
      | some name => (s.printLine name).withStatus 0
      | none => s.fail s!"invalid signal number or exit status: {text}" 2) s

/-- Sends a signal to what a text names. -/
def sendTo (run : Runner) (signal : Nat) (s : Session) (target : String) : Session :=
  let digits := if target.startsWith "-" then String.ofList target.toList.tail else target
  if s.flow != .going then s
  else if target.startsWith "%" then s.fail s!"No such job: {target}" 2
  else Builtin.withNumber digits (fun n s =>
    if n = s.number || n = 0 then receive run signal s
    else match s.machine.jobs.find? (·.number == n) with
      | some _ =>
        if harmlessSignals.contains signal then s
        else { s with machine := s.machine.endJob n (128 + signal) }
      | none => (s.complainHere "No such process\n").withStatus 1) s

/-- Sends signals. -/
def kill (run : Runner) : Builtin := fun arguments s =>
  let send (signal : Nat) (targets : List String) : Session :=
    if targets.isEmpty then s.fail killUsage 2
    else targets.foldl (sendTo run signal) (s.withStatus 0)
  match arguments with
  | [] => s.fail killUsage 2
  | first :: rest =>
    match first.toList with
    | '-' :: c :: letters =>
      match signalNumber? 1 (String.ofList (c :: letters)) with
      | some signal => send signal rest
      | none =>
        match first, rest with
        | "-0", _ => send 0 rest
        | "--", _ => send 15 rest
        | "-l", _ => listSignals rest s
        | "-s", name :: targets =>
          match signalNumber? 0 name with
          | some signal => send signal targets
          | none => s.fail s!"invalid signal number or name: {name}" 2
        | _, _ =>
          if c == 's' && !letters.isEmpty then
            match signalNumber? 0 (String.ofList letters) with
            | some signal => send signal rest
            | none => s.fail s!"invalid signal number or name: {String.ofList letters}" 2
          else if c == 's' then s.fail "No arg for -s option" 2
          else s.fail s!"Illegal option -{c}" 2
    | _ => send 15 arguments

/-- Says what is to be run at signals, or shows it. -/
def trap : Builtin := fun arguments s =>
  let arguments := if arguments.head? == some "--" then arguments.tail else arguments
  let numbered := s.traps.filterMap fun (name, text) =>
    (signalNumber? 0 name).map fun n => (n, name, text)
  let forget (s : Session) (name : String) : Session :=
    match (signalNumber? 0 name).bind signalName? with
    | some known => { s with traps := s.traps.filter (·.1 != known) }
    | none => (s.complain s!"trap: {name}: bad trap").withStatus 1
  match arguments with
  | [] =>
    ((numbered.mergeSort fun a b => a.1 ≤ b.1).foldl (fun s (_, name, text) =>
      s.printLine s!"trap -- {singleQuoted text} {name}") s).withStatus 0
  | [name] => forget (s.withStatus 0) name
  | text :: names =>
    if text.toList.all Char.isDigit && !text.isEmpty then
      arguments.foldl forget (s.withStatus 0)
    else names.foldl (fun s name =>
      match (signalNumber? 0 name).bind signalName? with
      | some known =>
        let others := s.traps.filter (·.1 != known)
        { s with traps := if text == "-" then others else (known, text) :: others }
      | none => (s.complain s!"trap: {name}: bad trap").withStatus 1) (s.withStatus 0)

/-! ### Builtins that run commands -/

/-- Runs its arguments as a script. -/
def eval (run : Runner) : Builtin := fun arguments s =>
  let done := script (run false) false (" ".intercalate arguments)
    { s with status := 0, line := 1 }
  { done with line := s.line }

/-- Runs a file as a script in the shell itself. -/
def source (run : Runner) : Builtin := fun arguments s =>
  match arguments with
  | [] => s.withStatus 0
  | name :: _ =>
    let found := if name.toList.contains '/' then [name]
      else Programs.candidates (Programs.searchPath s) name
    let content? := found.findSome? fun path =>
      match s.files.status (pathOf path) with
      | .ok (_, .file content _) => some (path, content)
      | _ => none
    match content? with
    | none =>
      if name.toList.contains '/' then
        match s.files.readFile (pathOf name) with
        | .error fault => s.fail (openFailure .input name fault) 2
        | .ok _ => s
      else s.fail s!"{name}: not found" 2
    | some (path, content) =>
      let done := script (run false) true (Text.Units.ofBytes content)
        { s with status := 0, within := some path, line := 1 }
      let done := { done with within := s.within, line := s.line }
      if done.flow == .returning then { done with flow := .going } else done

/-- Becomes another program. -/
def become (tools : Toolbox) (run : Runner) : Builtin := fun arguments s =>
  match if arguments.head? == some "--" then arguments.tail else arguments with
  | [] => s.withStatus 0
  | name :: rest =>
    let s := s.spend programTime
    if s.flow != .going then s
    else match runProgram tools run (callProgram tools run callDepth) name rest s.handingOn with
      | .error fault => { refusedProgram name fault s with flow := .ended }
      | .ok inner =>
        let flow : Flow := match inner.flow with
          | .killed ending => .killed ending
          | _ => .replaced
        { s.afterSubshell inner with flow }

/-! ### Simple commands -/

/-- Ends the shell if a failure is a reason to stop. -/
def stopOnFailure (tested : Bool) (s : Session) : Session :=
  if !tested && s.status != 0 && s.flow == .going && s.options.contains 'e' then
    { s with flow := .ended }
  else s

/-- Makes assignments in order, and gives the values. -/
def assignAll (capture : Expansion.Capture) : List (String × Word) → Session →
    List (String × String) × Session
  | [], s => ([], s)
  | (name, word) :: rest, s =>
    let (value, s) := Expansion.valueText capture word s
    if s.flow != .going then ([], s)
    else
      let s := s.assign name value
      if s.flow != .going then ([], s)
      else
        let (others, s) := assignAll capture rest s
        ((name, value) :: others, s)

/-- Puts back the variables that were assigned for one command. -/
def withVariablesOf (before s : Session) (assignments : List (String × Word)) : Session :=
  if assignments.isEmpty then s
  else
    let names := assignments.map Prod.fst
    { s with
      exported := before.exported.filter names.contains ++
        s.exported.filter fun v => !names.contains v
      bindings := before.bindings.filter (fun v => names.contains v.1) ++
        s.bindings.filter (fun v => !names.contains v.1) }

/-- Puts back the variables of a function, the last one first. -/
def withoutLocals (saved : List (String × Option String × Bool)) (s : Session) : Session :=
  saved.foldl (fun s (name, value, isExported) =>
    if name == "-" then { s with options := (value.getD "").toList }
    else
      let others := s.bindings.filter (·.1 != name)
      let exported := s.exported.filter (· != name)
      { s with
        bindings := match value with
          | some value => (name, value) :: others
          | none => others
        exported := if isExported then name :: exported else exported }) s

/-- Calls a function of the shell. -/
def callFunction (run : Runner) (tested : Bool) (body : Command) (arguments : List String)
    (s : Session) : Session :=
  let done := run tested body
    { s with arguments, locals := some [], optionPlace := (1, none), loops := 0 }
  let done := withoutLocals (done.locals.getD []) done
  { done with
    arguments := s.arguments
    locals := s.locals
    optionPlace := s.optionPlace
    loops := s.loops
    flow := if done.flow == .returning then .going else done.flow }

/-- The builtins that run commands and end the shell when they fail. -/
def specialRunning (tools : Toolbox) (run : Runner) : List (String × Builtin) :=
  [("eval", eval run), (".", source run), ("exec", become tools run), ("trap", trap)]

/-- What a name is to a shell. -/
inductive Meaning where
  | special (builtin : Builtin)
  | function (body : Command)
  | regular (builtin : Builtin)
  | program

/-- The words that stand for themselves in the language of a shell. -/
def keywords : List String := Reader.openingWords ++ Reader.closingWords

/-- Remembers where a program was found. -/
def remember (s : Session) (name : String) : Session :=
  if name.toList.contains '/' || s.remembered.any (·.1 == name) then s
  else match Programs.pathOf? s.files (Programs.searchPath s) name with
    | some path => { s with remembered := s.remembered ++ [(name, path)] }
    | none => s

/-- Says what a name is; `briefly` only what to write for it. -/
def describe (isBuiltin isSpecial : String → Bool) (briefly : Bool) (s : Session) (name : String) :
    Session :=
  if keywords.contains name then
    s.printLine (if briefly then name else s!"{name} is a shell keyword")
  else match s.aliases.lookup name with
    | some text =>
      if briefly then s.printLine s!"alias {name}={singleQuoted text}"
      else s.printLine s!"{name} is an alias for {text}"
    | none =>
      if isSpecial name then
        s.printLine (if briefly then name else s!"{name} is a special shell builtin")
      else if s.functions.any (·.1 == name) then
        s.printLine (if briefly then name else s!"{name} is a shell function")
      else if isBuiltin name then
        s.printLine (if briefly then name else s!"{name} is a shell builtin")
      else match Programs.pathOf? s.files (Programs.searchPath s) name with
        | some path =>
          if briefly then s.printLine path
          else if s.remembered.any (·.1 == name) then
            s.printLine s!"{name} is a tracked alias for {path}"
          else s.printLine s!"{name} is {path}"
        | none => (if briefly then s else s.printLine s!"{name}: not found").withStatus 127

/-- Remembers programs, forgets them, or shows them. -/
def hash (isBuiltin : String → Bool) : Builtin := fun arguments s =>
  match arguments with
  | [] =>
    ((spreadOrder 31 s.remembered).foldl (fun s (_, path) => s.printLine path) s).withStatus 0
  | "-r" :: _ => { s with remembered := [], status := 0 }
  | names => names.foldl (fun s name =>
      let s := { s with remembered := s.remembered.filter (·.1 != name) }
      if isBuiltin name || s.functions.any (·.1 == name) then s
      else match Programs.pathOf? s.files (Programs.searchPath s) name with
        | some _ => remember s name
        | none => (s.complainHere s!"{name}: not found").withStatus 1) (s.withStatus 0)

/-- The names of the regular builtins that know the others. -/
def knowingNames : List String := ["type", "hash", "kill", "command"]

/-- Whether a name is that of a special builtin. -/
def isSpecialName (name : String) : Bool := Reader.specialNames.contains name

/-- Whether a name is that of a builtin. -/
def isBuiltinName (name : String) : Bool :=
  isSpecialName name || knowingNames.contains name || (Builtin.regular.lookup name).isSome

/-- What a name is to a shell, if it is no alias. -/
def meaning (tools : Toolbox) (run : Runner) (s : Session) (name : String) : Meaning :=
  match (specialRunning tools run).lookup name |>.or (Builtin.special.lookup name) with
  | some builtin => .special builtin
  | none =>
    match s.functions.lookup name with
    | some body => .function body
    | none =>
      match name with
      | "kill" => .regular (kill run)
      | "hash" => .regular (hash isBuiltinName)
      | "type" => .regular fun names s =>
          names.foldl (describe isBuiltinName isSpecialName false) (s.withStatus 0)
      | _ =>
        match Builtin.regular.lookup name with
        | some builtin => .regular builtin
        | none => .program

/-- Runs a builtin under its name. One that is refused ends the shell only if it is a special
one. -/
def runBuiltin (name : String) (isSpecial : Bool) (builtin : Builtin) (arguments : List String)
    (s : Session) : Session :=
  let done := builtin arguments { s.spend builtinTime with within := some name }
  let done := { done with within := s.within }
  if done.flow == .failed && !isSpecial then { done with flow := .going } else done

/-- Says what names are, or how they would be written. -/
def describeAll (briefly : Bool) : Builtin := fun names s =>
  names.foldl (describe isBuiltinName isSpecialName briefly) (s.withStatus 0)

/-- Calls what the first word of a command names. With `command` before it, functions are passed
over, and no builtin ends the shell when it fails. -/
def callWords (tools : Toolbox) (run : Runner) (tested : Bool) : List String → Session → Session
  | [], s => s
  | "command" :: words, s =>
    let rec go : List String → Session → Session
      | [], s => s.withStatus 0
      | "command" :: words, s | "-p" :: words, s | "--" :: words, s => go words s
      | "-v" :: names, s => runBuiltin "command" false (describeAll true) (names.take 1) s
      | "-V" :: names, s => runBuiltin "command" false (describeAll false) (names.take 1) s
      | name :: arguments, s =>
        match meaning tools run { s with functions := [] } name with
        | .special builtin | .regular builtin => runBuiltin name false builtin arguments s
        | _ => callFromShell tools run (name :: arguments) (remember s name)
    go words s
  | name :: arguments, s =>
    match meaning tools run s name with
    | .special builtin => runBuiltin name true builtin arguments s
    | .function body => callFunction run tested body arguments (s.spend builtinTime)
    | .regular builtin => runBuiltin name false builtin arguments s
    | .program => callFromShell tools run (name :: arguments) (remember s name)

/-- Tells what is about to be run, if that is asked for. -/
def traced (channel : Option Channel) (assigned : List (String × String)) (found : List String)
    (s : Session) : Session :=
  match if s.options.contains 'x' then channel else none with
  | none => s
  | some channel =>
    let front := (s.valueOf? "PS4").getD "+ "
    let words := assigned.map (fun (name, value) => name ++ "=" ++ value) ++ found
    let bytes := Text.Units.bytesOf (front ++ " ".intercalate words ++ "\n")
    { s with machine := s.machine.write bytes channel }

/-- Whether assignments before a name stay: before a special builtin they do. -/
def keepsAssignments (name : String) : Bool := isSpecialName name

/-- Runs a simple command. -/
def simple (tools : Toolbox) (run : Runner) (tested : Bool) (capture : Expansion.Capture)
    (assignments : List (String × Word)) (words : List Word) (changes : List Redirection)
    (s : Session) : Session :=
  let (found, s) := Expansion.commandFields capture [] words { s with captured := 0 }
  if s.flow != .going then s
  else
    let errors := s.channel? 2
    match found with
    | [] =>
      underRedirections capture changes (fun s =>
        let (assigned, s) := assignAll capture assignments s
        if s.flow != .going then s
        else
          let s := if assigned.isEmpty then s else traced errors assigned [] s
          s.withStatus s.captured) s
    | name :: arguments =>
      let isSpecial := keepsAssignments name
      if name == "exec" && arguments.isEmpty then
        match redirect capture changes s with
        | .ok done =>
          let (_, done) := assignAll capture assignments (traced errors [] found done)
          if done.flow == .going then done.withStatus 0 else done
        | .error failed =>
          { failed with flow := if failed.flow == .going then .failed else failed.flow }
      else match redirect capture changes s with
        | .error failed =>
          let failed := { failed with descriptors := s.descriptors }
          if isSpecial && failed.flow == .going then { failed with flow := .failed } else failed
        | .ok inner =>
          let (assigned, prepared) := assignAll capture assignments inner
          if prepared.flow != .going then { prepared with descriptors := s.descriptors }
          else
            let prepared := { prepared with
              exported := assignments.map Prod.fst ++
                prepared.exported.filter fun v => !assignments.any (·.1 == v) }
            let prepared := traced errors assigned found prepared
            let done := callWords tools run tested found prepared
            let done := { done with descriptors := s.descriptors }
            if isSpecial then
              { done with exported := done.exported.filter fun v =>
                  s.exported.contains v || !assignments.any (·.1 == v) }
            else withVariablesOf s done assignments

end Run

/-! ### Commands -/

/-- Runs a command; `fuel` bounds how deep commands may stand in commands, and how often a loop may
go round. -/
def run (tools : Toolbox) : (fuel : Nat) → Runner
  | 0, _, _, s => s.spend Session.forever
  | fuel + 1, tested, command, s =>
    let again := run tools fuel
    let capture : Expansion.Capture := fun script s => Run.captured again (again tested script) s
    if s.flow != .going || s.options.contains 'n' then s
    else match command with
      | .nothing => s
      | .simple line assignments words changes =>
        Run.stopOnFailure tested
          (Run.simple tools again tested capture assignments words changes { s with line })
      | .redirected line body changes =>
        Run.underRedirections capture changes (again tested body) { s with line }
      | .sequence first second =>
        let s := again tested first s
        if s.flow == .going then again tested second s else s
      | .background body => Run.inBackground again body s
      | .conjunction first second =>
        let s := again true first s
        if s.flow == .going && s.status == 0 then again tested second s else s
      | .disjunction first second =>
        let s := again true first s
        if s.flow == .going && s.status != 0 then again tested second s else s
      | .negated body =>
        let s := again true body s
        if s.flow == .going then s.withStatus (if s.status == 0 then 1 else 0) else s
      | .pipeline first second =>
        Run.stopOnFailure tested (Run.piped again (again tested first) (again tested second) s)
      | .subshell body => Run.stopOnFailure tested (Run.inSubshell again (again tested body) s)
      | .conditional condition body otherwise =>
        let s := again true condition s
        if s.flow != .going then s
        else if s.status == 0 then again tested body (s.withStatus 0)
        else again tested otherwise (s.withStatus 0)
      | .loop outcome condition body =>
        let done := Run.repeatWhile (again true condition) (again tested body) outcome fuel 0
          { s with loops := s.loops + 1 }
        { done with loops := s.loops }
      | .each line name words body =>
        let (values, s) := match words with
          | some words => Expansion.fields capture words { s with line }
          | none => (s.arguments, s)
        if s.flow != .going then s
        else
          let done := Run.repeatFor name (again tested body) values
            { s with status := 0, loops := s.loops + 1 }
          { done with loops := s.loops }
      | .choice line subject clauses =>
        let (text, s) := Expansion.text capture subject { s with line }
        if s.flow != .going then s
        else Run.choose capture (again tested) text.toList clauses s
      | .define name body =>
        { s with functions := (name, body) :: s.functions.filter (·.1 != name), status := 0 }

/-- How deep commands may stand in commands, and how often a loop may go round. -/
def depth : Nat := 1000000

end IdlBuild.Shell
