import IdlBuild.Tool.Awk.State

/-!
# Running programs for records

The value of expressions and what statements do. Statements and expressions are run by recursion on
a number that bounds how deep they stand in one another, calls of functions included; loops have a
bound of their own.
-/

namespace IdlBuild.Tool.Awk

open Shell (Session Call Tool Caller)
open Text (Directive)

/-! ### Limits -/

/-- How deep calls and statements may stand in one another. -/
def nestingLimit : Nat := 4000

/-- How often a loop goes round before it is taken for one without end. -/
def roundLimit : Nat := 3000000

/-- Gives up a program that goes too deep. -/
def tooDeep {α : Type} : Run α := fatal "program limit exceeded: eval stack size=1024"

/-- Repeats something as long as it asks for that; whoever does so without end uses up all time. -/
def repeatWhile (step : Run Bool) : (fuel : Nat) → State → Except Signal Unit × State
  | 0, st => (.error .exit, { st with session := st.session.spend Session.forever })
  | fuel + 1, st =>
    match step st with
    | (.ok true, st) => repeatWhile step fuel st
    | (.ok false, st) => (.ok (), st)
    | (.error signal, st) => (.error signal, st)

/-- Goes once through the body of a loop: whether the loop goes on. -/
def oneRound (body : Run Unit) : Run Bool :=
  tryCatch (do
    body
    return true) fun
    | .leave => return false
    | .resume => return true
    | signal => throw signal

/-! ### Arithmetic -/

/-- The remainder that has the sign of the first number. -/
def remainderOf (x y : Float) : Float :=
  if y == 0.0 || x.isInf || x.isNaN || y.isNaN then 0.0 / 0.0
  else if y.isInf then x
  else if isWhole x && isWhole y then floatOfInt ((intOf x).tmod (intOf y))
  else
    let whole := (x / y).abs.floor
    let rest := x.abs - whole * y.abs
    if x < 0.0 then -rest else rest

/-- The result of an operation. -/
def Operation.apply : Operation → Float → Float → Float
  | add, x, y => x + y
  | subtract, x, y => x - y
  | multiply, x, y => x * y
  | divide, x, y => x / y
  | remainder, x, y => remainderOf x y
  | power, x, y => Float.pow x y

/-- Whether a comparison holds. -/
def Comparison.holds : Comparison → Ordering → Bool
  | less, o => o == .lt
  | atMost, o => o != .gt
  | equal, o => o == .eq
  | different, o => o != .eq
  | greater, o => o == .gt
  | atLeast, o => o != .lt

/-! ### What can be assigned to -/

/-- What a value is taken from and put into. -/
inductive Reference where
  | named (name : Name)
  | element (table place : Nat)
  | field (number : Int)

/-- The value of expressions where they stand. -/
abbrev Evaluator := Expr → Run Value

/-- The index that expressions between square brackets make. -/
def indexOf (value : Evaluator) (index : List Expr) : Run Value := do
  match index with
  | [e] => value e
  | _ =>
    let texts ← index.mapM fun e => do textOf (← value e)
    return .text ((← plainText "SUBSEP").intercalate texts)

/-- What an expression refers to. -/
def referenceOf (value : Evaluator) : Expr → Run Reference
  | .named name => return .named name
  | .element name index => do
    let key ← indexOf value index
    let table ← tableOf name
    let format ← textFormat
    let place ← withTable table fun t => t.find true format key
    return .element table (place.getD 0)
  | .field number => do return .field (intOf (← value number).toNumber)
  | _ => fatalHere "assignment to a value"

/-- The value that something has. -/
def Reference.value : Reference → Run Value
  | named name => valueOf name
  | element table place => do
    let st ← get
    return ((st.tables[table]?).getD .empty).valueAt place
  | field number => fieldValue number

/-- Gives something a value. -/
def Reference.assign (v : Value) : Reference → Run Unit
  | named name => setVariable name v
  | element table place => withTable table fun t => ((), t.set place v)
  | field number => setField number v

/-! ### Regular expressions -/

/-- A text as a regular expression. -/
def patternOfText (cs : List Char) : Run Regex.Expression :=
  match Regex.read .records cs with
  | .ok e => return e
  | .error message => fatalHere (refusedPattern message cs)

/-- An expression as a regular expression. -/
def patternOf (value : Evaluator) : Expr → Run Regex.Expression
  | .pattern e => return e
  | e => do patternOfText (← textOf (← value e))

/-- A text as the subject of a search. -/
def subjectOf (cs : List Char) : Regex.Subject := ⟨cs.toArray, false, false⟩

/-- The text of the record. -/
def recordText : Run (List Char) := do
  joinRecord
  return (← get).record

/-! ### Replacing -/

/-- A replacement with the text that was found in place of each ampersand. -/
def filledIn (found : List Char) : List Char → List Char
  | [] => []
  | '\\' :: '&' :: cs => '&' :: filledIn found cs
  | '\\' :: '\\' :: cs => '\\' :: filledIn found cs
  | '&' :: cs => found ++ filledIn found cs
  | c :: cs => c :: filledIn found cs

/-- A text with the places that an expression matches replaced, the first one or all of them, and
how many those are. -/
def substituted (e : Regex.Expression) (replacement : List Char) (all : Bool) (cs : List Char) :
    Nat × List Char :=
  let s := subjectOf cs
  let found := if all then Regex.allMatches e s else (Regex.search e s 0).toList
  let (pieces, place) := found.foldl (fun (pieces, place) m =>
    let text := (s.units.extract m.start m.stop).toList
    (filledIn text replacement :: (s.units.extract place m.start).toList :: pieces, m.stop))
    (([] : List (List Char)), 0)
  (found.length, (((s.units.extract place s.units.size).toList :: pieces).reverse).flatten)

/-! ### Formats -/

/-- A number as the whole number that is printed for it. -/
def printedInt (x : Float) : Int :=
  max (-0x8000000000000000) (min (intOf x) 0xFFFFFFFFFFFFFFFF)

/-- The unit that a value is printed as. -/
def unitOf : Value → List Char
  | .unset => ['\x00']
  | .text cs => cs.take 1
  | .number x | .numeral _ x => [Char.ofNat (intOf x % 256).toNat]

/-- Lays out values in a format; what was laid out before something went wrong comes with the
complaint. `fuel` bounds the number of directives. -/
def layOut (shown : Value → List Char) : (fuel count : Nat) → List Char → List Value →
    (done : List (List Char)) → List Char × Option (Nat × Bool)
  | 0, _, _, _, done => (done.reverse.flatten, none)
  | fuel + 1, count, cs, values, done =>
    let front := cs.takeWhile (· != '%')
    let done := front :: done
    match cs.drop front.length with
    | '%' :: '%' :: rest => layOut shown fuel count rest values (['%'] :: done)
    | '%' :: rest =>
      let numbers := values.map fun v => intOf v.toNumber
      let (directive, left, behind) := directiveOf rest numbers
      let stars := (rest.take (rest.length - behind.length)).count '*'
      let refused (wrong : Bool) := (done.reverse.flatten, some (count + 1, wrong))
      match directive with
      | none => refused true
      | some d =>
        if !"diouxXcseEfFgGaA".toList.contains d.conversion then refused true
        else if values.length ≤ stars then refused false
        else
          let values := values.drop (values.length - left.length)
          let v := (values.head?).getD .unset
          let text :=
            if d.conversion == 's' then d.ofText (shown v)
            else if d.conversion == 'c' then { d with precision := none }.ofText (unitOf v)
            else if "diouxX".toList.contains d.conversion then d.ofInteger (printedInt v.toNumber)
            else d.ofReal (realOf v.toNumber)
          layOut shown fuel (count + 1) behind (values.drop 1) (text :: done)
    | _ => (done.reverse.flatten, none)

/-- Lays out values as the first of them says: what could be laid out, and what was wrong. -/
def formattedValues (who : String) (values : List Value) :
    Run (List Char × Option String) := do
  let format ← match values with
    | v :: _ => textOf v
    | [] => pure []
  let numbers ← textFormat
  let (text, wrong) := layOut (·.toText numbers) (format.length + 1) 0 format (values.drop 1) []
  let shown := String.ofList format
  return (text, wrong.map fun (count, isWrong) =>
    if isWrong then s!"improper conversion(number {count}) in {who}(\"{shown}\")"
    else s!"not enough arguments passed to {who}(\"{shown}\")")

/-! ### Functions that are there from the start -/

/-- A part of a text from a place on. -/
def partOf (cs : List Char) (begin : Float) (length : Option Float) : List Char :=
  let first := intOf begin
  match length with
  | none => cs.drop (max 0 (first - 1)).toNat
  | some count =>
    let behind := first + intOf count
    let start := max 1 first
    (cs.drop (start - 1).toNat).take (max 0 (behind - start)).toNat

/-- The place of the first occurrence of a text in another, counted from one. -/
def placeOf (needle : List Char) : List Char → Nat → Nat
  | [], n => if needle.isEmpty then n else 0
  | c :: cs, n => if needle.isPrefixOf (c :: cs) then n else placeOf needle cs (n + 1)

/-- Puts the pieces of a text into an array. -/
def splitInto (table : Nat) (pieces : List (List Char)) : Run Value := do
  let filled := pieces.zipIdx.foldl (fun (t : Table) (piece, i) =>
    match t.ofNumber true ((i : Int) + 1) with
    | (some place, t) => t.set place (Value.ofInput piece)
    | (none, t) => t) Table.empty
  withTable table fun _ => ((), filled)
  return .number (Float.ofNat pieces.length)

/-- The next of the numbers that look random. -/
def nextRandom (n : UInt64) : UInt64 := n * 6364136223846793005 + 1442695040888963407

/-- A number as the only argument of a function. -/
def numberOf (value : Evaluator) (arguments : List Expr) : Run Float := do
  match arguments with
  | e :: _ => return (← value e).toNumber
  | [] => return 0.0

/-- A text as the only argument of a function. -/
def wordOf (value : Evaluator) (arguments : List Expr) : Run (List Char) := do
  match arguments with
  | e :: _ => textOf (← value e)
  | [] => return []

/-- Calls a function that is there from the start. -/
def callBuiltin (value : Evaluator) (function : String) (arguments : List Expr) : Run Value := do
  let computed (f : Float → Float) : Run Value := do
    return .number (f (← numberOf value arguments))
  match function, arguments with
  | "length", [.named name] =>
    match ← slotOf name with
    | .table place => return .number (Float.ofNat (((← get).tables[place]?).getD .empty).size)
    | _ => return .number (Float.ofNat (← textOf (← valueOf name)).length)
  | "length", [] => return .number (Float.ofNat (← recordText).length)
  | "length", e :: _ => return .number (Float.ofNat (← textOf (← value e)).length)
  | "substr", text :: begin :: rest =>
    let cs ← textOf (← value text)
    let first := (← value begin).toNumber
    let length ← match rest with
      | e :: _ => pure (some (← value e).toNumber)
      | [] => pure none
    return .text (partOf cs first length)
  | "index", [text, needle] =>
    let cs ← textOf (← value text)
    let found ← textOf (← value needle)
    return .number (Float.ofNat (placeOf found cs 1))
  | "split", text :: .named name :: rest =>
    let cs ← textOf (← value text)
    let pieces ← match rest with
      | .pattern e :: _ => pure (.ok (if cs.isEmpty then [] else splitByPattern e cs))
      | e :: _ => pure (piecesBy (← textOf (← value e)) false cs)
      | [] => pure (piecesBy (← plainText "FS") false cs)
    match pieces with
    | .ok pieces => splitInto (← tableOf name) pieces
    | .error message => fatalHere message
  | "match", [text, pattern] =>
    let cs ← textOf (← value text)
    let e ← patternOf value pattern
    let (start, length) := match Regex.search e (subjectOf cs) 0 with
      | some m => (Float.ofNat (m.start + 1), Float.ofNat (m.stop - m.start))
      | none => (0.0, -1.0)
    setSlot (.ofProgram "RSTART") (.scalar (.number start))
    setSlot (.ofProgram "RLENGTH") (.scalar (.number length))
    return .number start
  | "sub", pattern :: replacement :: rest | "gsub", pattern :: replacement :: rest =>
    let e ← patternOf value pattern
    let text ← textOf (← value replacement)
    let target := (rest.head?).getD (.field (.number 0.0))
    if target.isTarget then
      let reference ← referenceOf value target
      let cs ← textOf (← reference.value)
      let (count, changed) := substituted e text (function == "gsub") cs
      if 0 < count then reference.assign (.text changed)
      return .number (Float.ofNat count)
    else
      let cs ← textOf (← value target)
      return .number (Float.ofNat (substituted e text (function == "gsub") cs).1)
  | "sprintf", _ =>
    let values ← arguments.mapM value
    let (text, wrong) ← formattedValues "sprintf" values
    match wrong with
    | some message => fatalHere message
    | none => return .text text
  | "sin", _ => computed Float.sin
  | "cos", _ => computed Float.cos
  | "exp", _ => computed Float.exp
  | "log", _ => computed Float.log
  | "sqrt", _ => computed Float.sqrt
  | "int", _ => computed fun x => if x < 0.0 then -(x.abs.floor) else x.floor
  | "atan2", [y, x] =>
    let a := (← value y).toNumber
    return .number (Float.atan2 a (← value x).toNumber)
  | "rand", _ =>
    let n := nextRandom (← get).random
    modify fun st => { st with random := n }
    return .number (Float.ofNat (n.toNat / 0x800) / 9007199254740992.0)
  | "srand", _ =>
    let before := (← get).seed
    let seed ← match arguments with
      | e :: _ => pure (← value e).toNumber
      | [] => pure 0.0
    modify fun st => { st with seed, random := nextRandom (UInt64.ofNat (intOf seed).toNat) }
    return .number before
  | "tolower", _ => return .text ((← wordOf value arguments).map Char.toLower)
  | "toupper", _ => return .text ((← wordOf value arguments).map Char.toUpper)
  | "system", _ =>
    let command ← wordOf value arguments
    letOut
    let (status, _) ← runCommand command none false
    return .number (Float.ofNat status)
  | "close", _ => return .number (← close (← wordOf value arguments))
  | "fflush", _ =>
    let _ ← arguments.mapM value
    letOut
    return .number 0.0
  | _, _ => return .number 0.0

/-! ### Taking records -/

/-- Takes the next record of something that was opened under a name, or opens it. -/
def takeFrom (key : String) (content : Run (Option (List Char))) :
    Run (Except Unit (Option (List Char))) := do
  let opened ← match (← get).readers.lookup key with
    | some cs => pure (some cs)
    | none => content
  match opened with
  | none => return .error ()
  | some cs =>
    let keep (rest : List Char) : Run Unit := modify fun st =>
      { st with readers := (key, rest) :: st.readers.filter (·.1 != key) }
    match takeRecord (← plainText "RS") cs with
    | .error message => fatalHere message
    | .ok none =>
      keep []
      return .ok none
    | .ok (some (record, rest)) =>
      keep rest
      return .ok (some record)

/-- What a file has to read, if it can be opened. -/
def contentOfFile (name : List Char) : Run (Option (List Char)) := do
  let (found, session) := input (String.ofList name) (← get).session
  modify fun st => { st with session }
  match found with
  | .content cs => return some cs
  | .unopened _ => return none
  | .unread fault => fatal s!"read error ({fault.reason})"

/-- Takes a record into the place where it is wanted. -/
def takeInto (value : Evaluator) (target : Option Expr) (record : List Char) : Run Unit := do
  match target with
  | none => setRecord record
  | some e => (← referenceOf value e).assign (Value.ofInput record)

/-- Takes the next record: 1 if there was one, 0 at the end, -1 if there is nothing to read. -/
def takeNext (value : Evaluator) (target : Option Expr) (file command : Option Expr) :
    Run Value := do
  let found ← match file, command with
    | some e, _ =>
      let name ← textOf (← value e)
      takeFrom ("<" ++ String.ofList name) (contentOfFile name)
    | none, some e =>
      let text ← textOf (← value e)
      takeFrom ("|" ++ String.ofList text) do
        letOut
        let (_, printed) ← runCommand text none true
        return some printed
    | none, none => pure (.ok (← nextRecord 10000))
  match found with
  | .error () => return .number (-1.0)
  | .ok none => return .number 0.0
  | .ok (some record) =>
    takeInto value target record
    return .number 1.0

/-! ### Calls -/

/-- What a parameter starts with: the value of its argument, or the array that it is. -/
def argumentSlot (value : Evaluator) : Expr → Run Slot
  | .named (.ofProgram "NF") => do return .scalar (← valueOf (.ofProgram "NF"))
  | .named name => slotOf name
  | e => do return .scalar (← value e)

/-- Calls a function of the program. What it made an array of a parameter that had nothing to hold
becomes the caller's. -/
def callFunction (value : Evaluator) (body : Statement → Run Unit) (f : Function)
    (arguments : List Expr) : Run Value := do
  let slots ← arguments.mapM (argumentSlot value)
  let before := (← get).frame
  let filled := slots ++ List.replicate (f.parameters - slots.length) Slot.free
  modify fun st => { st with frame := filled.toArray }
  let outcome : Except Signal Unit ← fun st =>
    match (body f.body) st with
    | (result, st) => (.ok result, st)
  let after := (← get).frame
  modify fun st => { st with frame := before }
  for (argument, slot, i) in arguments.zip slots.zipIdx do
    match argument, slot, after[i]? with
    | .named name, .free, some (.table place) =>
      match ← slotOf name with
      | .free => setSlot name (.table place)
      | _ => pure ()
    | _, _, _ => pure ()
  match outcome with
  | .ok () => return .unset
  | .error (.giveBack v) => return v
  | .error signal => throw signal

/-! ### Printing -/

/-- A value as it is printed. -/
def printedText (format : List Char) : Value → List Char
  | .number x => numberText format x
  | .text cs | .numeral cs _ => cs
  | .unset => []

/-- Writes to where a statement says. -/
def writeOutput (value : Evaluator) (cs : List Char) : Output → Run Unit
  | .standard => printOut cs
  | .file appends name => do writeTarget false appends (← textOf (← value name)) cs
  | .command name => do writeTarget true false (← textOf (← value name)) cs

/-! ### Expressions and statements -/

mutual

/-- The value of an expression. -/
def eval (functions : List Function) : (fuel : Nat) → Expr → Run Value
  | 0, _ => tooDeep
  | fuel + 1, e => do
    let value : Evaluator := eval functions fuel
    match e with
    | .number x => return .number x
    | .text cs => return .text cs
    | .pattern e => return .ofBool (Regex.isFound e (subjectOf (← recordText)))
    | .named name => valueOf name
    | .element .. | .field _ =>
      let reference ← referenceOf value e
      reference.value
    | .assign target source =>
      let reference ← referenceOf value target
      let v ← value source
      reference.assign v
      return v
    | .update operation target source =>
      let reference ← referenceOf value target
      let y := (← value source).toNumber
      let x := (← reference.value).toNumber
      let v := Value.number (operation.apply x y)
      reference.assign v
      return v
    | .step up before target =>
      let reference ← referenceOf value target
      let x := (← reference.value).toNumber
      let y := if up then x + 1.0 else x - 1.0
      reference.assign (.number y)
      return .number (if before then y else x)
    | .choice condition yes no => if (← value condition).isTrue then value yes else value no
    | .conjunction a b =>
      if (← value a).isTrue then return .ofBool (← value b).isTrue else return .ofBool false
    | .disjunction a b =>
      if (← value a).isTrue then return .ofBool true else return .ofBool (← value b).isTrue
    | .negation a => return .ofBool (!(← value a).isTrue)
    | .isIn index name =>
      let key ← indexOf value index
      let table ← tableOf name
      let format ← textFormat
      let found ← withTable table fun t => t.find false format key
      return .ofBool found.isSome
    | .isFound negated text pattern =>
      let cs ← textOf (← value text)
      let e ← patternOf value pattern
      return .ofBool (Regex.isFound e (subjectOf cs) != negated)
    | .compare comparison a b =>
      let x ← value a
      let y ← value b
      return .ofBool (comparison.holds (Value.compare (← textFormat) x y))
    | .joined a b =>
      let x ← textOf (← value a)
      let y ← textOf (← value b)
      return .text (x ++ y)
    | .compute operation a b =>
      let x := (← value a).toNumber
      let y := (← value b).toNumber
      return .number (operation.apply x y)
    | .minus a => return .number (-(← value a).toNumber)
    | .plus a => return .number (← value a).toNumber
    | .call name arguments =>
      match functions.find? (·.name == name) with
      | some f => callFunction value (exec functions fuel) f arguments
      | none => return .unset
    | .builtin name arguments => callBuiltin value name arguments
    | .getline target file command => takeNext value target file command
    | .group items =>
      match items with
      | [item] => value item
      | _ => indexOf value items

/-- Runs a statement. -/
def exec (functions : List Function) : (fuel : Nat) → Statement → Run Unit
  | 0, _ => tooDeep
  | fuel + 1, statement => do
    let value : Evaluator := eval functions fuel
    let run : Statement → Run Unit := exec functions fuel
    let holds (test : Expr) : Run Bool := do return (← value test).isTrue
    match statement with
    | .expression e =>
      let _ ← value e
    | .print items output =>
      let texts ← if items.isEmpty then do pure [← recordText]
        else do
          let values ← items.mapM value
          let format := (← plainValue "OFMT").toText "%.6g".toList
          pure (values.map (printedText format))
      let joint ← plainText "OFS"
      let ending ← plainText "ORS"
      writeOutput value (joint.intercalate texts ++ ending) output
    | .format items output =>
      let values ← items.mapM value
      let (text, wrong) ← formattedValues "printf" values
      writeOutput value text output
      match wrong with
      | some message => fatalHere message
      | none => return
    | .condition test yes no =>
      if ← holds test then run yes
      else match no with
        | some other => run other
        | none => return
    | .loop test body =>
      repeatWhile (do if ← holds test then oneRound (run body) else return false) roundLimit
    | .loopAfter body test =>
      repeatWhile (do if ← oneRound (run body) then holds test else return false) roundLimit
    | .loopFor start test next body =>
      match start with
      | some first => run first
      | none => pure ()
      repeatWhile (do
        let goes ← match test with
          | some e => holds e
          | none => pure true
        if !goes then return false
        else if ← oneRound (run body) then
          match next with
          | some step => run step
          | none => pure ()
          return true
        else return false) roundLimit
    | .loopIn name table body =>
      let place ← tableOf table
      let indices ← withTable place Table.indices
      for index in indices do
        setVariable name (.text index)
        if !(← oneRound (run body)) then break
    | .block statements => statements.forM run
    | .next => throw .next
    | .nextFile => throw .nextFile
    | .exit status =>
      match status with
      | some e =>
        let n := intOf (← value e).toNumber
        modify fun st => { st with session := st.session.withStatus (n % 256).toNat }
      | none => pure ()
      throw .exit
    | .giveBack result =>
      match result with
      | some e => throw (.giveBack (← value e))
      | none => throw (.giveBack .unset)
    | .leave => throw .leave
    | .resume => throw .resume
    | .delete name index =>
      let table ← tableOf name
      match index with
      | some index =>
        let key ← indexOf value index
        let format ← textFormat
        withTable table fun t => ((), t.remove format key)
      | none => withTable table fun _ => ((), .empty)

end

/-! ### Programs -/

/-- Runs what is done for a rule. -/
def act (functions : List Function) (rule : Rule) : Run Unit :=
  match rule.action with
  | some statement => exec functions nestingLimit statement
  | none => exec functions nestingLimit (.print [] .standard)

/-- Whether a rule is for the record; a rule for a range knows by its number whether it is open. -/
def applies (functions : List Function) (rule : Rule) (number : Nat) : Run Bool := do
  let holds (e : Expr) : Run Bool := do return (← eval functions nestingLimit e).isTrue
  match rule.trigger with
  | .first | .last => return false
  | .always => return true
  | .when e => holds e
  | .between start stop =>
    let isOpen := ((← get).ranges[number]?).getD false
    let begins ← if isOpen then pure true else holds start
    if !begins then return false
    let stops ← holds stop
    modify fun st => { st with ranges := st.ranges.setIfInBounds number (!stops) }
    return true

/-- Works on a record: whether more are wanted. -/
def workOnRecord (program : Program) (rules : List (Rule × Nat)) : Run Bool := do
  match ← nextRecord 10000 with
  | none => return false
  | some record =>
    setRecord record
    tryCatch (do
      for (rule, number) in rules do
        if ← applies program.functions rule number then act program.functions rule
      return true) fun
      | .next => return true
      | .nextFile => do
        modify fun st => { st with main := none }
        return true
      | signal => throw signal

/-- Whether a rule runs at a time of its own. -/
def Rule.isAt (trigger : Trigger) (rule : Rule) : Bool :=
  match trigger, rule.trigger with
  | .first, .first | .last, .last => true
  | _, _ => false

/-- How often records are taken at most. -/
def recordLimit : Nat := 0x100000000

/-- Runs a program: what comes first, the records if anything is done with them, and what comes
last. -/
def runProgram (program : Program) : Run Unit := do
  let firsts := program.rules.filter (Rule.isAt .first)
  let lasts := program.rules.filter (Rule.isAt .last)
  let others := (program.rules.filter fun r => !Rule.isAt .first r && !Rule.isAt .last r).zipIdx
  modify fun st => { st with ranges := Array.replicate others.length false }
  let isLeft ← tryCatch (do
    firsts.forM (act program.functions)
    if !others.isEmpty || !lasts.isEmpty then
      repeatWhile (workOnRecord program others) recordLimit
    return true) fun
    | .exit => return true
    | signal => throw signal
  if isLeft then
    tryCatch (lasts.forM (act program.functions)) fun
      | .exit => return ()
      | signal => throw signal
  closeAll

/-! ### Calling -/

/-- What the options of a call say. -/
structure Settings where
  separator : Option (List Char)
  assignments : List String
  files : List String
deriving Inhabited

/-- Reads the options of a call: the settings and what is behind them. -/
def readSettings : List String → Settings → Except String (Settings × List String)
  | [], settings => .ok (settings, [])
  | argument :: rest, settings =>
    match argument.toList with
    | ['-', '-'] => .ok (settings, rest)
    | ['-', letter] =>
      if !(['F', 'v', 'f'].contains letter) then .error s!"not an option: {argument}"
      else match rest with
        | [] => .error s!"option -{letter} lacks argument"
        | value :: rest => readSettings rest (given letter value settings)
    | '-' :: letter :: cs =>
      if !(['F', 'v', 'f'].contains letter) then .error s!"not an option: {argument}"
      else readSettings rest (given letter (String.ofList cs) settings)
    | _ => .ok (settings, argument :: rest)
where
  /-- The settings with one more. -/
  given (letter : Char) (value : String) (settings : Settings) : Settings :=
    match letter with
    | 'F' => { settings with separator := some (unescaped value.toList) }
    | 'v' => { settings with assignments := settings.assignments ++ [value] }
    | _ => { settings with files := settings.files ++ [value] }

/-- The variables that are there from the start. -/
def firstSlots (settings : Settings) (arguments : List String) : List (String × Slot) :=
  let text (s : String) : Slot := .scalar (.text s.toList)
  let count (n : Nat) : Slot := .scalar (.number (Float.ofNat n))
  [("FS", .scalar (.text (settings.separator.getD [' ']))), ("OFS", text " "), ("ORS", text "\n"),
   ("RS", text "\n"), ("SUBSEP", text "\x1c"), ("CONVFMT", text "%.6g"), ("OFMT", text "%.6g"),
   ("NR", count 0), ("FNR", count 0), ("RSTART", count 0), ("RLENGTH", .scalar (.number (-1.0))),
   ("FILENAME", .scalar .unset), ("ARGC", count arguments.length), ("ARGV", .table 0),
   ("ENVIRON", .table 1)]

/-- An array of texts by their places. -/
def tableOfList (texts : List String) : Table :=
  texts.zipIdx.foldl (fun t (text, i) =>
    match t.ofNumber true i with
    | (some place, t) => t.set place (Value.ofInput text.toList)
    | (none, t) => t) .empty

/-- An array of texts by their names. -/
def tableOfNamed (texts : List (String × String)) : Table :=
  texts.foldl (fun t (name, text) =>
    match t.ofText true name.toList with
    | (some place, t) => t.set place (Value.ofInput text.toList)
    | (none, t) => t) .empty

/-- The state in which a program starts. -/
def startOf (settings : Settings) (caller : Caller) (c : Call) (operands : List String)
    (s : Session) : State :=
  let arguments := c.name :: operands
  { session := s, caller, tool := c.name
    slots := firstSlots settings arguments
    frame := #[]
    tables := #[tableOfList arguments, tableOfNamed s.environment]
    record := [], fields := #[], isSplit := true, isJoined := true
    argument := 1, main := none, hasRead := false
    readers := [], targets := [], pending := [], ranges := #[], seed := 0.0, random := 1 }

/-- Ends a call with a complaint. -/
def gaveUp (c : Call) (message : String) (s : Session) : Session :=
  (s.complain s!"{c.name}: {message}").withStatus 2

/-- The text of a program: that of its files, or the first operand. -/
def programText (settings : Settings) (operands : List String) (s : Session) :
    Except String (Option (List Char × List String) × Session) :=
  match settings.files with
  | [] =>
    match operands with
    | [] => .ok (none, s)
    | text :: rest => .ok (some (text.toList, rest), s)
  | files => do
    let (text, s) ← files.foldlM (fun ((text, s) : List Char × Session) file =>
      match input file s with
      | (.content cs, s) => .ok (text ++ cs ++ ['\n'], s)
      | (.unopened fault, _) | (.unread fault, _) =>
        .error s!"cannot open \"{file}\" ({fault.reason})") (([] : List Char), s)
    return (some (text, operands), s)

/-- Works on records. -/
def awk (caller : Caller) : Tool := fun c s =>
  match readSettings c.arguments ⟨none, [], []⟩ with
  | .error message => gaveUp c message s
  | .ok (settings, operands) =>
    match settings.assignments.find? fun a => (assignment? a.toList).isNone with
    | some wrong => gaveUp c s!"improper assignment: -v {wrong}" s
    | none =>
      match programText settings operands s with
      | .error message => gaveUp c message s
      | .ok (none, s) =>
        (s.complain s!"Usage: {c.name} [Options] [Program] [file ...]").withStatus 2
      | .ok (some (text, operands), s) =>
        match read text with
        | .error faults =>
          (faults.foldl (fun s fault =>
            s.complain s!"{c.name}: {fault.place}: {fault.message}") s).withStatus 2
        | .ok program =>
          let started := startOf settings caller c operands (s.withStatus 0)
          let whole : Run Unit := do
            for a in settings.assignments do
              match assignment? a.toList with
              | some (name, value) => setVariable (.ofProgram name) (Value.ofInput value)
              | none => pure ()
            runProgram program
          match whole started with
          | (.error (.fatal message), st) =>
            let (_, st) := closeAll st
            gaveUp c message st.session
          | (_, st) => st.session

end IdlBuild.Tool.Awk
