import IdlBuild.Shell.Programs
import IdlBuild.Text.RealReader
import IdlBuild.Tool.Input

/-!
# Tools that call programs

`env`, `nice`, `nohup`, `stdbuf`, `setsid`, `timeout` and `xargs`, and how long `sleep` sleeps.
-/

namespace IdlBuild.Tool

open Shell (Session Call Tool Caller)

/-! ### Starting -/

/-- Why the program that some words call cannot be started, if it cannot. -/
def startFault? (s : Session) (words : List String) : Option IoFault :=
  match words with
  | [] => none
  | name :: arguments =>
    match Shell.Programs.start s.files (Shell.Programs.searchPath s) ⟨name, arguments⟩ with
    | .ok _ => none
    | .error fault => if fault == Shell.Programs.noFormat then none else some fault

/-- The status of a program that could not be started. -/
def startStatus (fault : IoFault) : Nat := if fault == .noSuchEntry then 127 else 126

/-- Calls a program, or says why that is not possible. -/
def startOr (caller : Caller) (c : Call) (what : String → String) (words : List String)
    (s : Session) : Session :=
  match startFault? s words with
  | none => caller words s
  | some fault =>
    let shown := what (words.head?.getD "")
    (s.complain s!"{c.name}: {shown}: {fault.reason}").withStatus (startStatus fault)

/-- Calls a program and goes on after it: what it left, and the signal that ended it, if one did. -/
def callThrough (caller : Caller) (words : List String) (s : Session) : Session × Option Nat :=
  let done := caller words s
  match done.flow with
  | .killed (.signalled n) => ({ done with flow := s.flow, status := 128 + n }, some n)
  | _ => (done, none)

/-- How most tools name the program that they could not start. -/
def failedRun (name : String) : String := s!"failed to run command {quotedValue name}"

/-! ### Lengths of time -/

/-- The microseconds of a unit of time. -/
def timeUnit? (rest : List Char) : Option Nat :=
  match rest with
  | [] | ['s'] => some 1000000
  | ['m'] => some 60000000
  | ['h'] => some 3600000000
  | ['d'] => some 86400000000
  | _ => none

/-- The microseconds that a text says. -/
def interval? (text : String) : Option Nat :=
  match Text.ReadReal.ofChars? text.toList with
  | none => none
  | some read =>
    match read.value, timeUnit? read.rest with
    | .finite false num den, some unit => some ((num * unit + den - 1) / den)
    | .infinite false, some _ => some Session.forever
    | _, _ => none

/-- Sleeps. -/
def sleep : Tool := withOptions [] 1 fun o c s =>
  if o.operands.isEmpty then missingOperand c 1 s
  else
    let wrong := o.operands.filter fun text => (interval? text).isNone
    match wrong.reverse with
    | [] => s.spend ((o.operands.filterMap interval?).foldl (· + ·) 0)
    | last :: others =>
      let s := others.reverse.foldl (fun s text =>
        s.complain s!"{c.name}: invalid time interval {quotedValue text}") s
      misused c 1 s!"invalid time interval {quotedValue last}" s

/-- Ends a program when its time is over. -/
def timeout (caller : Caller) : Tool :=
  withOrderedOptions [taking 's' "signal", taking 'k' "kill-after", longFlag "preserve-status",
    longFlag "foreground", flag 'v' "verbose"] 125 fun o c s =>
  match o.operands with
  | [] | [_] => (s.complain s!"Try '{c.name} --help' for more information.").withStatus 125
  | duration :: words =>
    match interval? duration with
    | none => misused c 125 s!"invalid time interval {quotedValue duration}" s
    | some length =>
      match startFault? s words with
      | some _ => startOr caller c failedRun words s
      | none =>
        let kills := (o.value? "s").any fun name => ["KILL", "9", "SIGKILL"].contains name
        let own := s.machine.clock + length
        let before := s.machine.deadline
        let isOwn := length != 0 && before.all (own < ·)
        let machine := if isOwn then { s.machine with deadline := some own } else s.machine
        let done := caller words { s with machine }
        let done := { done with machine := { done.machine with deadline := before } }
        match done.flow with
        | .killed .overtime =>
          if isOwn then
            let done := { done with flow := s.flow }
            if kills then { done with flow := .killed (.signalled 9) }
            else done.withStatus (if o.has "preserve-status" then 143 else 124)
          else done
        | _ => done

/-! ### Surroundings of a program -/

/-- Gives a variable a value that is handed on. -/
def withHandedOn (s : Session) (name value : String) : Session :=
  let bindings := if s.exported.contains name && s.bindings.any (·.1 == name) then
      s.bindings.map fun (n, v) => if n == name then (n, value) else (n, v)
    else s.environment ++ [(name, value)] ++
      s.bindings.filter fun (n, _) => n != name && !s.exported.contains n
  { s with
    bindings
    exported := if s.exported.contains name then s.exported else name :: s.exported }

/-- The assignments that some words begin with, and what is behind them. -/
def leadingAssignments : List String → List (String × String) × List String
  | [] => ([], [])
  | word :: rest =>
    match Text.cutFirst '=' word.toList with
    | some (name, value) =>
      let (others, words) := leadingAssignments rest
      ((String.ofList name, String.ofList value) :: others, words)
    | none => ([], word :: rest)

/-- Runs a program in other surroundings, or shows them. -/
def env (caller : Caller) : Tool := fun c s =>
  let alone := c.arguments.head? == some "-"
  let arguments := if alone then c.arguments.drop 1 else c.arguments
  withOrderedOptions [flag 'i' "ignore-environment", taking 'u' "unset", flag '0' "null",
    taking 'C' "chdir", taking 'S' "split-string", flag 'v' "debug"] 125 (fun o c s =>
    let s := if alone || o.has "i" then { s with bindings := [], exported := [] } else s
    let s := (o.values "u").foldl (fun s name =>
      { s with
        bindings := s.bindings.filter (·.1 != name)
        exported := s.exported.filter (· != name) }) s
    let split := (o.values "S").flatMap fun text =>
      ((Text.fields ' ' text.toList).filter (!·.isEmpty)).map String.ofList
    let operands := split ++ o.operands
    let operands := if operands.head? == some "-" then operands.drop 1 else operands
    let (assignments, words) := leadingAssignments operands
    let inner := assignments.foldl (fun s (name, value) => withHandedOn s name value) s
    let entered : Except (String × IoFault) Session := match o.value? "C" with
      | none => .ok inner
      | some directory =>
        match inner.files.status (Shell.pathOf directory) with
        | .ok (location, .directory) => .ok (inner.withFiles (inner.files.enter location))
        | .ok _ => .error (directory, IoFault.notDirectory)
        | .error fault => .error (directory, fault)
    match entered with
    | .error (directory, fault) =>
      (s.complain s!"{c.name}: cannot change directory to {quotedValue directory}: {fault.reason}"
        ).withStatus 125
    | .ok inner =>
      match words with
      | [] =>
        let ending := if o.has "0" then ['\x00'] else ['\n']
        put (inner.environment.flatMap fun (name, value) =>
          name.toList ++ '=' :: value.toList ++ ending) s
      | _ =>
        let done := startOr caller c quotedValue words inner
        let files := done.files.enter s.files.workingDirectory
        { done with
          bindings := s.bindings
          exported := s.exported
          machine := { done.machine with files } }) ⟨c.name, arguments⟩ s

/-- Shows variables that are handed on. -/
def printenv : Tool := withOrderedOptions [flag '0' "null"] 2 fun o _ s =>
  let ending := if o.has "0" then ['\x00'] else ['\n']
  if o.operands.isEmpty then
    put (s.environment.flatMap fun (name, value) => name.toList ++ '=' :: value.toList ++ ending) s
  else o.operands.foldl (fun s name =>
    match s.environment.lookup name with
    | some value => put (value.toList ++ ending) s
    | none => s.withStatus 1) s

/-- Runs a program that gives way to others. -/
def nice (caller : Caller) : Tool := withOrderedOptions [taking 'n' "adjustment"] 125 fun o c s =>
  let before := ((s.valueOf? " nice").bind String.toInt?).getD 0
  match o.value? "n", o.operands with
  | none, [] => s.printLine (toString before)
  | some _, [] => misused c 125 "a command must be given with an adjustment" s
  | given, words =>
    match (given.getD "10").toInt? with
    | none =>
      let shown := quotedValue (given.getD "")
      (s.complain s!"{c.name}: invalid adjustment {shown}").withStatus 125
    | some n =>
      let level := max (-20) (min 19 (before + n))
      let inner := { s with bindings := s.bindings ++ [(" nice", toString level)] }
      { startOr caller c quotedValue words inner with bindings := s.bindings }

/-- Runs a program that goes on when nobody is there any more. -/
def nohup (caller : Caller) : Tool := withOrderedOptions [] 125 fun o c s =>
  if o.operands.isEmpty then missingOperand c 125 s else startOr caller c failedRun o.operands s

/-- Runs a program with other buffers, which shows in nothing here. -/
def stdbuf (caller : Caller) : Tool :=
  withOrderedOptions [taking 'i' "input", taking 'o' "output", taking 'e' "error"] 125 fun o c s =>
  if o.operands.isEmpty then missingOperand c 125 s
  else if o.given.isEmpty then misused c 125 "you must specify a buffering mode option" s
  else startOr caller c failedRun o.operands s

/-- Runs a program on its own. -/
def setsid (caller : Caller) : Tool :=
  withOrderedOptions [flag 'c' "ctty", flag 'f' "fork", flag 'w' "wait"] 1 fun o c s =>
  match o.operands with
  | [] => (s.complain s!"{c.name}: no command specified\nTry '{c.name} --help' for more information."
      ).withStatus 1
  | words => startOr caller c (fun name => s!"failed to execute {name}") words s

/-! ### Arguments from the input -/

/-- Where items are read: outside quotes, or inside quotes of a kind. -/
inductive Quoting where
  | outside
  | inside (mark : Char)
deriving DecidableEq

/-- The items of a text with the numbers of their lines, and whether a quote is open at the end. With
`whole`, an item is a line. -/
def itemsIn (whole : Bool) : (quoting : Quoting) → (word : Option (List Char)) → (line : Nat) →
    (blank : Bool) → List Char → List (List Char × Nat) × Option Char
  | .outside, word, line, _, [] => ((word.map fun w => (w.reverse, line)).toList, none)
  | .inside mark, _, _, _, [] => ([], some mark)
  | .inside mark, word, line, _, c :: cs =>
    if c == '\n' then ([], some mark)
    else if c == mark then itemsIn whole .outside word line false cs
    else itemsIn whole (.inside mark) (some (c :: word.getD [])) line false cs
  | .outside, word, line, _, '\\' :: c :: cs =>
    itemsIn whole .outside (some (c :: word.getD [])) line false cs
  | .outside, word, line, blank, c :: cs =>
    if c == '\n' then
      let line' := if blank && !whole then line else line + 1
      let (others, open') := itemsIn whole .outside none line' false cs
      ((word.map fun w => (w.reverse, line)).toList ++ others, open')
    else if c == ' ' || c == '\t' then
      if whole then itemsIn whole .outside (word.map (c :: ·)) line true cs
      else
        let (others, open') := itemsIn whole .outside none line true cs
        ((word.map fun w => (w.reverse, line)).toList ++ others, open')
    else if c == '\'' || c == '"' then
      itemsIn whole (.inside c) (some (word.getD [])) line false cs
    else itemsIn whole .outside (some (c :: word.getD [])) line false cs

/-- The length of a command line that is not made longer. -/
def lineLimit : Nat := 131072

/-- The room that arguments take. -/
def roomOf (words : List String) : Nat := words.foldl (fun n w => n + w.length + 1) 0

/-- Items in groups: at most a number of them, from at most a number of lines, and none of them
longer than a command line may be. -/
def batches (most lines : Option Nat) (room : Nat) : (group : List String) → (size first : Nat) →
    List (String × Nat) → List (List String)
  | group, _, _, [] => if group.isEmpty then [] else [group.reverse]
  | group, size, first, (item, line) :: rest =>
    let isFull := most.any (· ≤ group.length) || lines.any (fun n => first + n ≤ line) ||
      room < size + item.length + 1
    if isFull && !group.isEmpty then
      group.reverse :: batches most lines room [item] (item.length + 1) line rest
    else
      batches most lines room (item :: group) (size + item.length + 1)
        (if group.isEmpty then line else first) rest

/-- The unit that a text for a delimiter stands for. -/
def delimiterOf (text : String) : Char :=
  match text.toList with
  | ['\\', 'n'] => '\n'
  | ['\\', 't'] => '\t'
  | ['\\', '0'] => '\x00'
  | ['\\', '\\'] => '\\'
  | c :: _ => c
  | [] => '\x00'

/-- Calls a program for one group after another; one that fails with the highest status ends it. -/
def callGroups (caller : Caller) (c : Call) (tells : Bool) : List (List String) → Session → Session
  | [], s => s
  | words :: rest, s =>
    let s := if tells then s.complain (" ".intercalate (words.map shownName)) else s
    match startFault? s words with
    | some fault =>
      let name := words.head?.getD ""
      (s.complain s!"{c.name}: {name}: {fault.reason}").withStatus (startStatus fault)
    | none =>
      let before := s.status
      let input := s.channel? 0
      let (done, signal) := callThrough caller words (s.withChannel 0 (some .nowhere))
      let done := done.withChannel 0 input
      let name := words.head?.getD ""
      if done.flow != .going then done
      else if let some n := signal then
        (done.complain s!"{c.name}: {name}: terminated by signal {n}").withStatus 125
      else if done.status = 0 then callGroups caller c tells rest (done.withStatus before)
      else if done.status = 255 then
        (done.complain s!"{c.name}: {name}: exited with status 255; aborting").withStatus 124
      else callGroups caller c tells rest (done.withStatus 123)

/-- A text with all occurrences of another one replaced. -/
def replacedIn (mark text : List Char) : (fuel : Nat) → List Char → List Char
  | 0, cs => cs
  | _, [] => []
  | fuel + 1, c :: cs =>
    if !mark.isEmpty && mark.isPrefixOf (c :: cs) then
      text ++ replacedIn mark text fuel ((c :: cs).drop mark.length)
    else c :: replacedIn mark text fuel cs

/-- A number that is at least one. -/
def countOption (c : Call) (o : Options) (key : String) (s : Session) :
    Except Session (Option Nat) :=
  match o.value? key with
  | none => .ok none
  | some text =>
    match text.toInt? with
    | none => .error (misused c 1 s!"invalid number \"{text}\" for -{key} option" s)
    | some n =>
      if n < 1 then .error (misused c 1 s!"value {text} for -{key} option should be >= 1" s)
      else .ok (some n.toNat)

/-- The options of `xargs`. -/
def xargsOptions : List Known :=
  [taking 'n' "max-args", taking 'L' "max-lines", taking 'I' "", ⟨some 'i', ["replace"], .perhaps⟩,
   ⟨some 'l', [], .perhaps⟩, flag '0' "null", taking 'd' "delimiter", flag 't' "verbose",
   flag 'r' "no-run-if-empty", taking 'a' "arg-file", taking 'P' "max-procs",
   taking 's' "max-chars", flag 'x' "exit", flag 'p' "interactive", taking 'E' "",
   ⟨some 'e', ["eof"], .perhaps⟩, flag 'o' "open-tty", longFlag "show-limits"]

/-- Calls a program with arguments that are read. -/
def xargs (caller : Caller) : Tool := withOrderedOptions xargsOptions 1 fun o c s =>
  let replaces? := (o.value? "I").or ((o.value? "i").map fun v => if v.isEmpty then "\x7b\x7d" else v)
  let command := if o.operands.isEmpty then ["echo"] else o.operands
  match countOption c o "n" s, countOption c o "L" s with
  | .error failed, _ | _, .error failed => failed
  | .ok most, .ok lines =>
    let lines := if o.has "l" then some (((o.value? "l").bind String.toNat?).getD 1) else lines
    let (gotten, s) := match o.value? "a" with
      | some file => input file s
      | none => readDescriptor 0 s
    match gotten with
    | .unopened fault =>
      let file := quotedValue ((o.value? "a").getD "")
      complain s s!"{c.name}: Cannot open input file {file}: {fault.reason}"
    | .unread fault => complain s s!"{c.name}: read error: {fault.reason}"
    | .content cs =>
      let mark? := if o.has "0" then some '\x00' else (o.value? "d").map delimiterOf
      let (items, open') : List (List Char × Nat) × Option Char := match mark? with
        | some mark => ((piecesOf mark cs).zipIdx, none)
        | none => itemsIn replaces?.isSome .outside none 0 false cs
      let items := items.map fun (item, line) => (String.ofList item, line)
      let items : List (String × Nat) := match o.value? "E" with
        | some ending => items.takeWhile fun (item, _) => item != ending
        | none => items
      let groups := match replaces? with
        | some mark => items.map fun (item, _) => command.map fun word =>
            String.ofList (replacedIn mark.toList item.toList (word.length + 1) word.toList)
        | none =>
          let limit := ((o.value? "s").bind String.toNat?).getD lineLimit
          let found := batches most lines (limit - roomOf command) [] 0 0 items
          let found := if open'.isSome then
              found.filter fun group => most.any (· ≤ group.length)
            else found
          if found.isEmpty && !o.has "r" && open'.isNone then [command]
          else found.map (command ++ ·)
      let done := callGroups caller c (o.has "t") groups s
      match open' with
      | none => done
      | some mark =>
        let kind := if mark == '"' then "double" else "single"
        complain done <|
          s!"{c.name}: unmatched {kind} quote; by default quotes are special to xargs unless " ++
            "you use the -0 option"

end IdlBuild.Tool
