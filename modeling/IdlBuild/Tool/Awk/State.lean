import IdlBuild.Tool.Awk.Reading
import IdlBuild.Tool.Calling
import IdlBuild.Tool.Entries

/-!
# Programs for records while they run

What a running program knows: its variables and arrays, the record with its fields, and what it
reads and writes.
-/

namespace IdlBuild.Tool.Awk

open Shell (Session Call Caller Channel pathOf)

/-! ### States -/

/-- What a variable holds. -/
inductive Slot where
  | free
  | scalar (v : Value)
  | table (place : Nat)

/-- Where lines go that are printed under a name. -/
inductive Target where
  | file (channel : Channel)
  /-- A command, with what it will read, newest first. -/
  | command (waiting : List (List Char))

/-- A running program. -/
structure State where
  session : Session
  caller : Caller
  /-- The name of the tool, for complaints. -/
  tool : String
  slots : List (String × Slot)
  frame : Array Slot
  tables : Array Table
  record : List Char
  fields : Array Value
  /-- Whether the fields are those of the record, and whether the record is that of the fields. -/
  isSplit : Bool
  isJoined : Bool
  /-- The place of the argument that is read next, and what is left of the one that is read. -/
  argument : Nat
  main : Option (List Char)
  hasRead : Bool
  /-- What is left of the files and of what commands printed. -/
  readers : List (String × List Char)
  /-- What is open for printing, what was used last first. -/
  targets : List (String × Target)
  /-- What was printed and has not left the program, newest first. -/
  pending : List (List Char)
  ranges : Array Bool
  seed : Float
  random : UInt64

/-- Why a program does not go on as usual. -/
inductive Signal where
  | next
  | nextFile
  | exit
  | leave
  | resume
  | giveBack (v : Value)
  /-- The program is given up with a complaint. -/
  | fatal (message : String)

/-- Runs a part of a program. -/
abbrev Run := ExceptT Signal (StateM State)

/-- Gives the program up before it has to do with a record. -/
def fatal {α : Type} (message : String) : Run α := throw (.fatal message)

/-! ### Variables -/

/-- What a variable holds. -/
def slotOf (name : Name) : Run Slot := do
  let st ← get
  match name with
  | .ofProgram text => return (st.slots.lookup text).getD .free
  | .ofFunction place => return (st.frame[place]?).getD .free

/-- Makes a variable hold something. -/
def setSlot (name : Name) (slot : Slot) : Run Unit :=
  modify fun st => match name with
    | .ofProgram text => { st with slots := (text, slot) :: st.slots.filter (·.1 != text) }
    | .ofFunction place => { st with frame := st.frame.setIfInBounds place slot }

/-- The value of a variable of the program. -/
def plainValue (text : String) : Run Value := do
  match ← slotOf (.ofProgram text) with
  | .scalar v => return v
  | _ => return .unset

/-- The format in which numbers become texts. -/
def textFormat : Run (List Char) := do
  return (← plainValue "CONVFMT").toText "%.6g".toList

/-- The text of a value. -/
def textOf (v : Value) : Run (List Char) := do
  match v with
  | .text cs | .numeral cs _ => return cs
  | .unset => return []
  | .number x => return numberText (← textFormat) x

/-- The text of a variable of the program. -/
def plainText (text : String) : Run (List Char) := do textOf (← plainValue text)

/-- Gives the program up where it is. -/
def fatalHere {α : Type} (message : String) : Run α := do
  let file := String.ofList (← plainText "FILENAME")
  let ofFile := String.ofList (← plainText "FNR")
  let ofAll := String.ofList (← plainText "NR")
  fatal s!"run time error: {message}\n\tFILENAME=\"{file}\" FNR={ofFile} NR={ofAll}"

/-- The array that a variable is, which becomes one if it is free. -/
def tableOf (name : Name) : Run Nat := do
  match ← slotOf name with
  | .table place => return place
  | .scalar _ =>
    match name with
    | .ofProgram text => fatalHere s!"illegal reference to variable {text}"
    | .ofFunction _ => fatalHere "type error in arg(s) in call"
  | .free =>
    let place := (← get).tables.size
    modify fun st => { st with tables := st.tables.push .empty }
    setSlot name (.table place)
    return place

/-- Works on an array. -/
def withTable {α : Type} (place : Nat) (f : Table → α × Table) : Run α := do
  let st ← get
  let (result, table) := f ((st.tables[place]?).getD .empty)
  set { st with tables := st.tables.setIfInBounds place table }
  return result

/-! ### Fields -/

/-- Pieces of a text between matches of an expression. -/
def splitByPattern (e : Regex.Expression) (cs : List Char) : List (List Char) :=
  let s : Regex.Subject := ⟨cs.toArray, false, false⟩
  let found := (Regex.allMatches e s).filter fun m => m.start < m.stop
  let (pieces, place) := found.foldl (fun (pieces, place) m =>
    ((s.units.extract place m.start).toList :: pieces, m.stop)) (([] : List (List Char)), 0)
  ((s.units.extract place s.units.size).toList :: pieces).reverse

/-- Pieces of a text between blanks and line feeds. -/
def splitByBlanks (cs : List Char) : List (List Char) :=
  (Text.fields ' ' (cs.map fun c => if isSpace c then ' ' else c)).filter fun f => !f.isEmpty

/-- What is said about a text that is no regular expression. -/
def refusedPattern (message : String) (cs : List Char) : String :=
  s!"regular expression compile failed ({message})\n{String.ofList cs}"

/-- The pieces of a text, as a text that separates them says. With `byLines`, line feeds separate
them as well. -/
def piecesBy (separator : List Char) (byLines : Bool) (cs : List Char) :
    Except String (List (List Char)) :=
  if cs.isEmpty then .ok []
  else match separator with
    | [' '] => .ok (splitByBlanks cs)
    | [] => .ok (cs.map fun c => [c])
    | [mark] =>
      .ok (Text.fields mark (if byLines then cs.map fun c => if c == '\n' then mark else c else cs))
    | _ =>
      match Regex.read .records separator with
      | .ok e => .ok (splitByPattern (if byLines then .either e (.unit '\n') else e) cs)
      | .error message => .error (refusedPattern message separator)

/-- Takes the record apart into fields. -/
def splitRecord : Run Unit := do
  let st ← get
  if st.isSplit then return
  let separator ← plainText "FS"
  let byLines := (← plainText "RS").isEmpty
  match piecesBy separator byLines st.record with
  | .error message => fatalHere message
  | .ok pieces =>
    modify fun st => { st with fields := (pieces.map Value.ofInput).toArray, isSplit := true }

/-- Puts the fields together into the record. -/
def joinRecord : Run Unit := do
  let st ← get
  if st.isJoined then return
  let joint ← plainText "OFS"
  let texts ← st.fields.toList.mapM textOf
  modify fun st => { st with record := joint.intercalate texts, isJoined := true }

/-- Makes a text the record. -/
def setRecord (cs : List Char) : Run Unit :=
  modify fun st => { st with record := cs, isSplit := false, isJoined := true }

/-- The value of a field. -/
def fieldValue (n : Int) : Run Value := do
  if n < 0 then fatalHere s!"negative field index ${n}"
  else if n = 0 then
    joinRecord
    return Value.ofInput (← get).record
  else
    splitRecord
    return ((← get).fields[n.toNat - 1]?).getD .unset

/-- Gives a field a value. -/
def setField (n : Int) (v : Value) : Run Unit := do
  if n < 0 then fatalHere s!"negative field index ${n}"
  else if n = 0 then setRecord (← textOf v)
  else
    splitRecord
    let place := n.toNat - 1
    modify fun st =>
      let fields := st.fields ++ Array.replicate (place + 1 - st.fields.size) (Value.text [])
      { st with fields := fields.setIfInBounds place v, isJoined := false }

/-- Makes the record have a number of fields. -/
def setFieldCount (n : Nat) : Run Unit := do
  splitRecord
  modify fun st =>
    let fields := (st.fields.extract 0 n) ++ Array.replicate (n - st.fields.size) (Value.text [])
    { st with fields, isJoined := false }

/-- The value of a variable. -/
def valueOf (name : Name) : Run Value := do
  match name with
  | .ofProgram "NF" =>
    splitRecord
    return .number (Float.ofNat (← get).fields.size)
  | _ =>
    match ← slotOf name with
    | .scalar v => return v
    | .free => return .unset
    | .table _ =>
      match name with
      | .ofProgram text => fatalHere s!"illegal reference to array {text}"
      | .ofFunction _ => fatalHere "type error in arg(s) in call"

/-- Gives a variable a value. -/
def setVariable (name : Name) (v : Value) : Run Unit := do
  match name with
  | .ofProgram "NF" => setFieldCount (intOf v.toNumber).toNat
  | _ =>
    if name == .ofProgram "FS" then splitRecord
    match ← slotOf name with
    | .table _ =>
      match name with
      | .ofProgram text => fatalHere s!"illegal reference to array {text}"
      | .ofFunction _ => fatalHere "type error in arg(s) in call"
    | _ => setSlot name (.scalar v)

/-! ### Records -/

/-- Takes the first record of a text, and gives what is behind it. -/
def takeRecord (separator : List Char) (cs : List Char) :
    Except String (Option (List Char × List Char)) :=
  match separator with
  | [] =>
    let body := cs.dropWhile (· == '\n')
    if body.isEmpty then .ok none
    else
      let rec go : (taken : List Char) → List Char → List Char × List Char
        | taken, [] => ((taken.dropWhile (· == '\n')).reverse, [])
        | taken, '\n' :: '\n' :: rest => (taken.reverse, rest.dropWhile (· == '\n'))
        | taken, c :: rest => go (c :: taken) rest
      .ok (some (go [] body))
  | [mark] =>
    if cs.isEmpty then .ok none
    else
      let record := cs.takeWhile (· != mark)
      .ok (some (record, cs.drop (record.length + 1)))
  | _ =>
    if cs.isEmpty then .ok none
    else match Regex.read .records separator with
      | .error message => .error (refusedPattern message separator)
      | .ok e =>
        let s : Regex.Subject := ⟨cs.toArray, false, false⟩
        match (Regex.allMatches e s).find? fun m => m.start < m.stop with
        | some m => .ok (some (cs.take m.start, cs.drop m.stop))
        | none => .ok (some (cs, []))

/-- Adds one to a variable that counts. -/
def countUp (text : String) : Run Unit := do
  let n ← plainValue text
  setSlot (.ofProgram text) (.scalar (.number (n.toNumber + 1.0)))

/-- A text with its escapes replaced. -/
def unescaped (cs : List Char) : List Char :=
  let quoted := cs.flatMap fun c => if c == '"' then ['\\', '"'] else [c]
  match readText (quoted.length + 2) [] (quoted ++ ['"']) with
  | some (text, _) => text
  | none => cs

/-- Carries out an argument that gives a variable a value. -/
def assignment? (cs : List Char) : Option (String × List Char) :=
  match Text.cutFirst '=' cs with
  | some (name, value) =>
    match name with
    | first :: _ =>
      if !first.isDigit && name.all isNameUnit then some (String.ofList name, unescaped value)
      else none
    | [] => none
  | none => none

/-- Opens what an argument names. -/
def openMain (operand : List Char) : Run Unit := do
  let st ← get
  let name := String.ofList operand
  setSlot (.ofProgram "FILENAME") (.scalar (.text operand))
  setSlot (.ofProgram "FNR") (.scalar (.number 0.0))
  match input name st.session with
  | (.content cs, session) =>
    modify fun st => { st with session, main := some cs, hasRead := true }
  | (.unopened fault, _) => fatal s!"cannot open \"{name}\" ({fault.reason})"
  | (.unread fault, _) => fatal s!"read error ({fault.reason})"

/-- Goes on to the next argument that is read; `fuel` bounds the number of arguments. -/
def nextMain : (fuel : Nat) → Run Bool
  | 0 => return false
  | fuel + 1 => do
    let st ← get
    let count := intOf (← plainValue "ARGC").toNumber
    if count ≤ st.argument then
      if st.hasRead then return false
      setSlot (.ofProgram "FILENAME") (.scalar (.text ['-']))
      match readDescriptor 0 st.session with
      | (.content cs, session) =>
        modify fun st => { st with session, main := some cs, hasRead := true }
        return true
      | (.unopened fault, _) | (.unread fault, _) => fatal s!"read error ({fault.reason})"
    else
      modify fun st => { st with argument := st.argument + 1 }
      let arguments ← tableOf (.ofProgram "ARGV")
      let format ← textFormat
      let value ← withTable arguments fun t =>
        match t.find false format (.number (Float.ofNat st.argument)) with
        | (some place, t) => (t.valueAt place, t)
        | (none, t) => (.unset, t)
      let cs ← textOf value
      if cs.isEmpty then nextMain fuel
      else match assignment? cs with
        | some (name, text) =>
          setVariable (.ofProgram name) (Value.ofInput text)
          nextMain fuel
        | none =>
          openMain cs
          return true

/-- Takes the next record of the input; `fuel` bounds the number of arguments. -/
def nextRecord : (fuel : Nat) → Run (Option (List Char))
  | 0 => return none
  | fuel + 1 => do
    match (← get).main with
    | none => if ← nextMain 10000 then nextRecord fuel else return none
    | some cs =>
      match takeRecord (← plainText "RS") cs with
      | .error message => fatalHere message
      | .ok (some (record, rest)) =>
        modify fun st => { st with main := some rest }
        countUp "NR"
        countUp "FNR"
        return some record
      | .ok none =>
        modify fun st => { st with main := none }
        nextRecord fuel

/-! ### Commands -/

/-- Runs a command of the shell; what it reads may be given, and what it prints may be taken. The end
by a signal is a status of its own. -/
def runCommand (command : List Char) (reads : Option (List Char)) (takes : Bool) :
    Run (Nat × List Char) := do
  let st ← get
  let before := st.session
  let s := match reads with
    | some cs =>
      let (channel, machine) := before.machine.openBuffer (bytesOf cs)
      { before with machine }.withChannel 0 (some channel)
    | none => before
  let (channel, machine) := s.machine.openBuffer []
  let s := if takes then { s with machine }.withChannel 1 (some channel) else s
  let (done, signal) := callThrough st.caller ["sh", "-c", String.ofList command] s
  let printed := if takes then unitsOf (done.machine.available channel) else []
  let after := { done with descriptors := before.descriptors, status := before.status }
  set { st with session := after }
  if done.flow != .going then throw .exit
  return (signal.elim done.status (256 + ·), printed)

/-! ### Printing -/

/-- Prints a text. -/
def printOut (cs : List Char) : Run Unit :=
  modify fun st => { st with pending := cs :: st.pending }

/-- Lets out what was printed. -/
def letOut : Run Unit :=
  modify fun st =>
    if st.pending.isEmpty then st
    else { st with session := put st.pending.reverse.flatten st.session, pending := [] }

/-- Writes a text to where lines go under a name. -/
def writeTarget (isCommand appends : Bool) (name : List Char) (cs : List Char) : Run Unit := do
  let text := String.ofList name
  let key := (if isCommand then "|" else ">") ++ text
  let st ← get
  if !isCommand && (text == "/dev/stdout" || text == "-") then
    printOut cs
  else if !isCommand && text == "/dev/stderr" then
    set { st with session := writeTo 2 cs st.session }
  else match st.targets.lookup key with
    | some (.file channel) =>
      let machine := st.session.machine.write (bytesOf cs) channel
      set { st with session := { st.session with machine } }
    | some (.command waiting) =>
      let others := st.targets.filter (·.1 != key)
      set { st with targets := (key, .command (cs :: waiting)) :: others }
    | none =>
      if isCommand then
        letOut
        modify fun st => { st with targets := (key, Target.command [cs]) :: st.targets }
      else
        let mode := st.session.newMode
        match st.session.machine.openForOutput (pathOf text) mode (!appends) appends with
        | .error fault => fatal s!"cannot open \"{text}\" for output ({fault.reason})"
        | .ok (channel, machine) =>
          let machine := machine.write (bytesOf cs) channel
          set { st with
            session := { st.session with machine }
            targets := (key, Target.file channel) :: st.targets }

/-- Closes what is open under a name: a command that is printed to is run now. -/
def closeTarget (key : String) (target : Target) : Run Float := do
  modify fun st => { st with targets := st.targets.filter (·.1 != key) }
  match target with
  | .file _ => return 0.0
  | .command waiting =>
    let (status, _) ← runCommand (key.toList.drop 1) (some waiting.reverse.flatten) false
    return Float.ofNat status

/-- Closes everything that is open under a name. -/
def close (name : List Char) : Run Float := do
  let text := String.ofList name
  let st ← get
  let readers := st.readers.filter fun (key, _) => key == "<" ++ text || key == "|" ++ text
  modify fun st => { st with readers := st.readers.filter fun (key, _) =>
    key != "<" ++ text && key != "|" ++ text }
  let open' := st.targets.filter fun (key, _) => key == ">" ++ text || key == "|" ++ text
  let mut result := if readers.isEmpty then -1.0 else 0.0
  for (key, target) in open' do
    result ← closeTarget key target
  return result

/-- Closes everything. -/
def closeAll : Run Unit := do
  for (key, target) in (← get).targets do
    let _ ← closeTarget key target
  letOut

end IdlBuild.Tool.Awk
