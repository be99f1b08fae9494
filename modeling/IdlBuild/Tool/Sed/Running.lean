import IdlBuild.Tool.Entries
import IdlBuild.Tool.Sed.Reading

/-!
# Editing streams

How a script is run over its inputs. For each line the commands are run in order; what is left of
the line is printed at the end, unless the tool was told to be quiet.
-/

namespace IdlBuild.Tool.Sed

open Shell (Session Call Tool Channel pathOf)
open Regex (Expression Subject)

/-! ### Streams -/

/-- An input with its lines, and whether its last line is ended. -/
structure Input where
  name : String
  lines : List (List Char)
  ended : Bool

/-- How far a range has come. -/
inductive RangeState where
  | waiting
  /-- The range ends with a line. -/
  | untilLine (n : Nat)
  /-- The range ends as its end says. -/
  | untilFound
  | over
deriving DecidableEq, Repr

/-- What is printed after the current line. -/
inductive Queued where
  | text (cs : List Char)
  | file (path : String)
deriving DecidableEq, Repr

/-- How a script is run. -/
structure Style where
  quiet : Bool
  separate : Bool
  /-- The ending of backups, if files are changed in place. -/
  inPlace : Option String
  ending : Char
  width : Nat

/-- A script that is being run. -/
structure State where
  session : Session
  pattern : List Char
  /-- Whether the line that was read last is ended. -/
  ended : Bool
  held : List Char
  number : Nat
  /-- The input that is being read, and those after it. -/
  current : Input
  waiting : List Input
  queue : List Queued
  ranges : Array RangeState
  last : Option Expression
  replaced : Bool
  /-- Whether a line feed is owed before more is printed. -/
  owes : Bool
  /-- What was printed for a file that is changed in place. -/
  printed : List Char
  /-- The files that lines are written to, and those that lines are taken from. -/
  targets : List (String × Channel)
  sources : List (String × List (List Char))
  /-- The status that the script ended with. -/
  quitting : Option Nat
  failed : Bool
  /-- The name of the tool, for complaints. -/
  tool : String

namespace State

/-! ### Printing -/

/-- Prints units as they are. -/
def emit (style : Style) (cs : List Char) (st : State) : State :=
  let all := if st.owes && !cs.isEmpty then style.ending :: cs else cs
  let owes := st.owes && cs.isEmpty
  if style.inPlace.isSome then { st with printed := all.reverse ++ st.printed, owes }
  else { st with session := put all st.session, owes }

/-- Prints a line; the last line of an input that is not ended is not ended either. -/
def printLine (style : Style) (line : List Char) (ended : Bool) (st : State) : State :=
  if ended then st.emit style (line ++ [style.ending])
  else
    let st := st.emit style line
    { st with owes := true }

/-- Prints the line as it is. -/
def printPattern (style : Style) (st : State) : State := st.printLine style st.pattern st.ended

/-! ### Reading -/

/-- Whether no more lines follow the one that was read last. -/
def isLast (style : Style) (st : State) : Bool :=
  st.current.lines.isEmpty &&
    (style.separate || st.waiting.all fun i => i.lines.isEmpty)

/-- Prints what waits for the end of the line. -/
def flush (style : Style) (st : State) : State :=
  let done := st.queue.foldl (fun st item =>
    match item with
    | .text cs => st.emit style cs
    | .file path =>
      match input path st.session with
      | (.content cs, session) => { st with session }.emit style cs
      | (_, session) => { st with session }) st
  { done with queue := [] }

/-- Puts what was printed for a file in its place. -/
def closeInput (style : Style) (st : State) : State :=
  match style.inPlace with
  | none => st
  | some ending =>
    let path := st.current.name
    let backup := if ending.toList.contains '*' then
        (Text.intercalated '*' (Text.fields '*' ending.toList)).flatMap fun c =>
          if c == '*' then path.toList else [c]
      else path.toList ++ ending.toList
    let s := st.session
    let old := s.files.status (pathOf path)
    let s := match old with
      | .ok (_, .file content mode) =>
        if ending.isEmpty then s
        else match s.files.writeFile (pathOf (String.ofList backup)) content with
          | .ok files =>
            match files.setMode (pathOf (String.ofList backup)) mode with
            | .ok files => s.withFiles files
            | .error _ => s.withFiles files
          | .error _ => s
      | _ => s
    let s := match old with
      | .ok (location, .file _ mode) =>
        stamped path
          (s.withFiles (s.files.overwrite location (bytesOf st.printed.reverse) mode))
      | _ => s
    { st with session := s, printed := [], owes := false }

/-- Takes the next line, from the next input if need be; `fuel` bounds the number of inputs. -/
def nextLine? (style : Style) : (fuel : Nat) → State → Option (List Char × State)
  | 0, _ => none
  | fuel + 1, st =>
    match st.current.lines with
    | line :: rest =>
      some (line, { st with
        current := { st.current with lines := rest }
        ended := !rest.isEmpty || st.current.ended
        number := st.number + 1 })
    | [] =>
      match st.waiting with
      | [] => none
      | first :: others =>
        let st := st.closeInput style
        nextLine? style fuel { st with
          current := first
          waiting := others
          number := if style.separate then 0 else st.number
          ranges := if style.separate then st.ranges.map fun r =>
              if r == .over then .waiting else r
            else st.ranges }

/-- Takes the next line, once what waits for the end of the current one is printed. -/
def advance (style : Style) (st : State) : Option (List Char × State) :=
  (st.flush style).nextLine? style (st.waiting.length + 1)

end State

/-! ### Choosing lines -/

/-- The subject that a text is. -/
def subjectOf (sought : Sought) (cs : List Char) : Subject :=
  ⟨cs.toArray, sought.folds, sought.byLines⟩

/-- The expression that is looked for, and the state in which it was the last one. -/
def resolved (sought : Sought) (st : State) : Expression × State :=
  match sought.expression with
  | some e => (e, { st with last := some e })
  | none => (st.last.getD .empty, st)

/-- Whether an expression is found in the line. -/
def isFoundIn (sought : Sought) (st : State) : Bool × State :=
  let (e, st) := resolved sought st
  (Regex.isFound e (subjectOf sought st.pattern), st)

/-- Whether an address stands for the line. -/
def fits (style : Style) (address : Address) (st : State) : Bool × State :=
  match address with
  | .line n => (st.number == n, st)
  | .stepped first step =>
    (if step = 0 then st.number == first
      else first ≤ st.number && (st.number - first) % step == 0, st)
  | .last => (st.isLast style, st)
  | .found sought => isFoundIn sought st

/-- The state of a range that begins with the line. -/
def begun (style : Style) (stop : RangeEnd) (st : State) : RangeState :=
  match stop with
  | .line n => if n ≤ st.number then .waiting else .untilLine n
  | .after count => if count = 0 then .waiting else .untilLine (st.number + count)
  | .multiple n =>
    if n = 0 || st.number % n = 0 then .waiting
    else .untilLine ((st.number / n + 1) * n)
  | .last => if st.isLast style then .waiting else .untilFound
  | .found _ => .untilFound

/-- Whether a command is for the line; `index` is its place. -/
def isSelected (style : Style) (index : Nat) (selection : Selection) (st : State) : Bool × State :=
  let withRange (r : RangeState) (st : State) : State :=
    { st with ranges := st.ranges.setIfInBounds index r }
  let (found, st) : Bool × State := match selection.first, selection.rangeEnd with
    | none, _ => (true, st)
    | some first, none => fits style first st
    | some first, some stop =>
      match (st.ranges[index]?).getD .waiting with
      | .untilLine n =>
        if n ≤ st.number then (st.number ≤ n, withRange .waiting st) else (true, st)
      | .untilFound =>
        match stop with
        | .found sought =>
          let (found, st) := isFoundIn sought st
          (true, if found then withRange (if selection.fromZero then .over else .waiting) st
            else st)
        | _ => (true, if st.isLast style then withRange .waiting st else st)
      | .over => (false, st)
      | .waiting =>
        let (found, st) := fits style first st
        if found then (true, withRange (begun style stop st) st) else (false, st)
  (found != selection.negated, st)

/-! ### Replacing -/

/-- How letters are changed: from here on, and for the next one. -/
structure CasingState where
  all : Casing
  next : Casing

/-- A letter in a casing. -/
def Casing.apply (casing : Casing) (c : Char) : Char :=
  match casing with
  | .none => c
  | .upper => c.toUpper
  | .lower => c.toLower

/-- Units with their casing; in reverse, before what is there already. -/
def casedOnto (cs : List Char) (casing : CasingState) (done : List Char) :
    List Char × CasingState :=
  cs.foldl (fun (done, casing) c =>
    let used := if casing.next == .none then casing.all else casing.next
    (used.apply c :: done, { casing with next := .none })) (done, casing)

/-- The text that a match is replaced by, in reverse, before what is there already. -/
def replacedOnto (s : Subject) (found : Regex.Match) (pieces : List Piece) (done : List Char) :
    List Char :=
  (pieces.foldl (fun (done, casing) piece =>
    match piece with
    | .text cs => casedOnto cs casing done
    | .group 0 => casedOnto (s.units.extract found.start found.stop).toList casing done
    | .group n => casedOnto ((Regex.groupText s found.groups n).getD []) casing done
    | .casing c => (done, { all := c, next := .none })
    | .nextCasing c => (done, { casing with next := c }))
    (done, (⟨.none, .none⟩ : CasingState))).1

/-- A line with its matches replaced, if there are enough of them. -/
def substituted (sub : Substitution) (e : Expression) (line : List Char) : Option (List Char) :=
  let s := subjectOf sub.sought line
  let found := Regex.allMatches e s
  let chosen := found.drop (sub.number - 1)
  let chosen := if sub.everywhere then chosen else chosen.take 1
  if chosen.isEmpty then none
  else
    let (done, place) := chosen.foldl (fun (done, place) found =>
      let before := (s.units.extract place found.start).toList
      (replacedOnto s found sub.replacement (before.reverse ++ done), found.stop))
      (([] : List Char), 0)
    some (done.reverse ++ (s.units.extract place s.units.size).toList)

/-! ### Showing -/

/-- A unit as it is shown unambiguously. -/
def shownPiece (c : Char) : List Char :=
  if c == '\\' then ['\\', '\\']
  else if c == '\n' then ['\\', 'n']
  else if isPrintable c then [c] else '\\' :: escapeOf c

/-- A line as it is shown unambiguously, in pieces of a width. -/
def shownLine (width : Nat) (line : List Char) : List Char :=
  let (done, _) := line.foldl (fun (done, column) c =>
    let piece := shownPiece c
    if 1 < width && width - 1 < column + piece.length then
      (piece.reverse ++ '\n' :: '\\' :: done, piece.length)
    else (piece.reverse ++ done, column + piece.length)) (([] : List Char), 0)
  ('\n' :: '$' :: done).reverse

/-! ### Running -/

/-- What comes after a command. -/
inductive Step where
  /-- The command at a place. -/
  | goto (place : Nat)
  /-- The next line; `prints` says whether this one is printed. -/
  | cycle (prints : Bool)
  /-- The commands once more, without a new line. -/
  | again
  | quit
deriving DecidableEq, Repr

/-- Writes a line to a file. -/
def writeLine (style : Style) (path : String) (line : List Char) (st : State) : State :=
  match path, st.targets.lookup path with
  | "/dev/stdout", _ => st.printLine style line true
  | "/dev/stderr", _ =>
    { st with session := writeTo 2 (line ++ [style.ending]) st.session }
  | _, some channel =>
    let machine := st.session.machine.write (bytesOf (line ++ [style.ending])) channel
    { st with session := { st.session with machine } }
  | _, none => st

/-- Runs a replacement. -/
def runSubstitution (style : Style) (sub : Substitution) (st : State) : State :=
  let (e, st) := resolved sub.sought st
  match substituted sub e st.pattern with
  | none => st
  | some line =>
    let st := { st with pattern := line, replaced := true }
    let st := if sub.prints then st.printPattern style else st
    match sub.target with
    | some path => writeLine style path st.pattern st
    | none => st

/-- Runs one command that the line is chosen for. -/
def runAction (style : Style) (commands : Array Command) (index : Nat) (command : Command)
    (st : State) : Step × State :=
  let go (st : State) : Step × State := (.goto (index + 1), st)
  let jump (name : String) (st : State) : Step × State :=
    (.goto ((labelPlace? commands name).getD commands.size), st)
  let endOfInput (st : State) : Step × State :=
    (.quit, if style.quiet then st else st.printPattern style)
  match command.action with
  | .block _ | .blockEnd | .label _ | .nothing => go st
  | .append text => go { st with queue := st.queue ++ [.text text] }
  | .insert text => go (st.emit style text)
  | .change text =>
    let inRange := command.selection.rangeEnd.isSome && !command.selection.negated &&
      match (st.ranges[index]?).getD .waiting with
      | .untilLine _ | .untilFound => true
      | _ => false
    (.cycle false, if inRange then st else st.emit style text)
  | .branch name => jump name st
  | .branchIf name => if st.replaced then jump name { st with replaced := false } else go st
  | .branchUnless name => if st.replaced then go { st with replaced := false } else jump name st
  | .delete => (.cycle false, st)
  | .deleteFirst =>
    if st.pattern.contains '\n' then
      (.again, { st with pattern := (st.pattern.dropWhile (· != '\n')).drop 1 })
    else (.cycle false, st)
  | .takeHold => go { st with pattern := st.held }
  | .takeHoldMore => go { st with pattern := st.pattern ++ '\n' :: st.held }
  | .hold => go { st with held := st.pattern }
  | .holdMore => go { st with held := st.held ++ '\n' :: st.pattern }
  | .exchange => go { st with pattern := st.held, held := st.pattern }
  | .list width => go (st.emit style (shownLine (width.getD style.width) st.pattern))
  | .next =>
    if st.isLast style && (style.separate.not || st.waiting.isEmpty) then endOfInput st
    else
      let st := if style.quiet then st else st.printPattern style
      match st.advance style with
      | some (line, st) => go { st with pattern := line }
      | none => (.quit, st)
  | .nextMore =>
    if st.isLast style && (style.separate.not || st.waiting.isEmpty) then endOfInput st
    else match st.advance style with
      | some (line, st) => go { st with pattern := st.pattern ++ '\n' :: line }
      | none => endOfInput st
  | .print => go (st.printPattern style)
  | .printFirst =>
    go (st.printLine style (st.pattern.takeWhile (· != '\n')) true)
  | .quit status =>
    let st := if style.quiet then st else st.printPattern style
    (.quit, { st.flush style with quitting := some status })
  | .quitQuietly status => (.quit, { st with quitting := some status })
  | .readFile path => go { st with queue := st.queue ++ [.file path] }
  | .readLine path =>
    let (lines, st) := match st.sources.lookup path with
      | some lines => (lines, st)
      | none =>
        match input path st.session with
        | (.content cs, session) => (linesOf cs, { st with session })
        | (_, session) => ([], { st with session })
    let others := st.sources.filter fun (p, _) => p != path
    let queue := match lines with
      | line :: _ => st.queue ++ [.text (line ++ ['\n'])]
      | [] => st.queue
    go { st with sources := (path, lines.drop 1) :: others, queue }
  | .substitute sub => go (runSubstitution style sub st)
  | .writeFile path => go (writeLine style path st.pattern st)
  | .writeFirst path => go (writeLine style path (st.pattern.takeWhile (· != '\n')) st)
  | .exchangeUnits pairs =>
    go { st with pattern := st.pattern.map fun c => (pairs.lookup c).getD c }
  | .clear => go { st with pattern := [] }
  | .showNumber => go (st.emit style (Nat.toDigits 10 st.number ++ ['\n']))
  | .showName => go (st.emit style (st.current.name.toList ++ ['\n']))

/-- Runs commands from a place on, line after line; `fuel` bounds the number of commands that are
run. The script of which nothing else is left runs for ever. -/
def runFrom (style : Style) (commands : Array Command) : (fuel : Nat) → (place : Nat) → State →
    State
  | 0, _, st => { st with session := st.session.spend Session.forever }
  | fuel + 1, place, st =>
    let finish (prints : Bool) (st : State) : Option State :=
      let st := if prints && !style.quiet then st.printPattern style else st
      match st.advance style with
      | some (line, st) => some { st with pattern := line, replaced := false }
      | none => none
    match commands[place]? with
    | none =>
      match finish true st with
      | some st => runFrom style commands fuel 0 st
      | none =>
        let st := if style.quiet then st else st.printPattern style
        st.flush style
    | some command =>
      let (chosen, st) := isSelected style place command.selection st
      if !chosen then
        match command.action with
        | .block stop => runFrom style commands fuel (stop + 1) st
        | _ => runFrom style commands fuel (place + 1) st
      else match runAction style commands place command st with
        | (.goto next, st) => runFrom style commands fuel next st
        | (.again, st) => runFrom style commands fuel 0 (st.flush style)
        | (.quit, st) => st.flush style
        | (.cycle _, st) =>
          match finish false st with
          | some st => runFrom style commands fuel 0 st
          | none => st.flush style

/-- How many commands are run at most. -/
def patience : Nat := 10000000

/-! ### The tool -/

/-- The options of `sed`. -/
def known : List Known :=
  [flag 'n' "quiet", longFlag "silent", longFlag "debug", taking 'e' "expression", taking 'f' "file",
   longFlag "follow-symlinks", ⟨some 'i', ["in-place"], .perhaps⟩, taking 'l' "line-length",
   longFlag "posix", flag 'E' "regexp-extended", flag 'r' "", flag 's' "separate",
   longFlag "sandbox", flag 'u' "unbuffered", flag 'z' "null-data", flag 'b' "binary"]

/-- How `sed` is to be called. -/
def usage (c : Call) (s : Session) : Session :=
  (s.complain s!"Usage: {c.name} [OPTION]... \x7bscript-only-if-no-other-script\x7d [input-file]..."
    ).withStatus 1

/-- Whether a text ends with a backslash that is not itself escaped. -/
def isContinued (cs : List Char) : Bool := (cs.reverse.takeWhile (· == '\\')).length % 2 == 1

/-- The parts of a script that options give; one that ends with a backslash goes on in the next. -/
def partsOf (files : String → Except IoFault (List Char)) : (number : Nat) →
    List (String × String) → Except String (List Part)
  | _, [] => .ok []
  | number, (key, value) :: rest => do
    let part : Part ← if key == "f" then
        match files value with
        | .ok cs =>
          let lineOf (read : List Char) : Nat := read.count '\n' + 1
          pure ⟨fun _ read => s!"file {value} line {lineOf read}", cs⟩
        | .error fault => throw s!"couldn't open file {value}: {fault.reason}"
      else pure ⟨fun place _ => s!"-e expression #{number}, char {place}", value.toList⟩
    let others ← partsOf files (if key == "f" then number else number + 1) rest
    match others with
    | next :: more =>
      if isContinued part.text then
        return { part with text := part.text ++ '\n' :: next.text } :: more
      else return part :: others
    | [] => return [part]

/-- The files that a script writes to. -/
def targetsOf (commands : Array Command) : List String :=
  (commands.toList.filterMap fun command =>
    match command.action with
    | .writeFile path | .writeFirst path => some path
    | .substitute sub => sub.target
    | _ => none).eraseDups

/-- Opens the files that a script writes to. -/
def openTargets (paths : List String) (s : Session) :
    Except String (List (String × Channel) × Session) :=
  paths.foldlM (fun (found, s) path =>
    if path == "/dev/stdout" || path == "/dev/stderr" then .ok (found, s)
    else match s.machine.openForOutput (pathOf path) s.newMode true false with
      | .ok (channel, machine) => .ok (found ++ [(path, channel)], { s with machine })
      | .error fault => .error s!"couldn't open file {path}: {fault.reason}") ([], s)

/-- The inputs that can be read. -/
def inputsOf (c : Call) (inPlace : Bool) (mark : Char) (operands : List String) (s : Session) :
    List Input × Bool × Session :=
  operands.foldl (fun (inputs, failed, s) operand =>
    match input operand s with
    | (.content cs, s) =>
      (inputs ++ [⟨operand, piecesOf mark cs, isEnded mark cs⟩], failed, s)
    | (.unopened fault, s) =>
      (inputs, true, s.complain s!"{c.name}: can't read {operand}: {fault.reason}")
    | (.unread fault, s) =>
      (inputs, true, s.complain (if inPlace then
          s!"{c.name}: couldn't edit {operand}: not a regular file"
        else s!"{c.name}: read error on {operand}: {fault.reason}"))) ([], false, s)

/-- Edits streams. -/
def sed : Tool := fun c s =>
  match readOptions (longFlag "help" :: longFlag "version" :: known) false c.arguments with
  | .error fault => usage c (s.complain s!"{c.name}: {fault.message}")
  | .ok o =>
    let s := s.withStatus 0
    let given := o.given.filter fun (key, _) => key == "e" || key == "f"
    let (scripts, operands) := match given, o.operands with
      | [], first :: rest => ([("e", first)], rest)
      | _, operands => (given, operands)
    let fail (status : Nat) (message : String) : Session :=
      (s.complain s!"{c.name}: {message}").withStatus status
    if scripts.isEmpty then usage c s
    else
      let read (path : String) : Except IoFault (List Char) :=
        match input path s with
        | (.content cs, _) => .ok (if cs.getLast? == some '\n' then cs.dropLast else cs)
        | (.unopened fault, _) | (.unread fault, _) => .error fault
      match partsOf read 1 scripts with
      | .error message => fail 1 message
      | .ok parts =>
        match readParts (o.has "E" || o.has "r") parts [] #[] with
        | .error message => fail 1 message
        | .ok commands =>
          match missingLabel? commands with
          | some name => fail 1 s!"-e expression #1, char 0: can't find label for jump to `{name}'"
          | none =>
            match openTargets (targetsOf commands) s with
            | .error message => fail 4 message
            | .ok (targets, s) =>
              let first := (parts.head?.map (·.text)).getD []
              let ending := if o.has "z" then '\x00' else '\n'
              let style : Style :=
                { quiet := o.has "n" || o.has "silent" || first.take 3 == ['#', 'n', '\n'] ||
                    first == ['#', 'n']
                  separate := o.has "s" || o.has "i"
                  inPlace := o.value? "i"
                  ending
                  width := ((o.value? "l").bind String.toNat?).getD 70 }
              let (inputs, failed, s) := inputsOf c (o.has "i") ending (orInput operands) s
              let state : State :=
                { session := s, pattern := [], ended := true, held := [], number := 0
                  current := ⟨"-", [], true⟩, waiting := inputs, queue := []
                  ranges := commands.map fun command =>
                    if command.selection.fromZero then .untilFound else .waiting
                  last := none, replaced := false, owes := false, printed := [], targets
                  sources := [], quitting := none, failed, tool := c.name }
              let started := { state with
                current := (inputs.head?).getD state.current, waiting := inputs.drop 1 }
              let done := match started.advance style with
                | some (line, st) => runFrom style commands patience 0 { st with pattern := line }
                | none => started
              let done := if inputs.isEmpty then done else done.closeInput style
              let status := match done.quitting with
                | some status => status
                | none => if done.failed then 2 else 0
              if done.session.flow != .going then done.session else done.session.withStatus status

end IdlBuild.Tool.Sed
