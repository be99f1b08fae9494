import IdlBuild.Shell.Condition
import IdlBuild.Shell.Formats
import IdlBuild.Tool.Input

/-!
# Tools that tell something

What is said, decided or known: `echo`, `printf`, `yes`, `true`, `false` and `test`, and who and where
one is.
-/

namespace IdlBuild.Tool

open Shell (Session Call Tool Formats.ArgumentFault)

/-! ### Saying -/

/-- Whether an argument of `echo` is an option: a dash and letters that it knows. -/
def isEchoOption (argument : String) : Bool :=
  match argument.toList with
  | '-' :: c :: cs => (c :: cs).all "neE".toList.contains
  | _ => false

/-- The value of up to two digits in base 16, and what is behind them. -/
def hexDigits : (count : Nat) → (value : Nat) → List Char → Nat × List Char
  | count + 1, value, c :: cs =>
    let digit := Shell.Arithmetic.digitValue c
    if digit < 16 then hexDigits count (value * 16 + digit) cs else (value, c :: cs)
  | _, value, cs => (value, cs)

/-- A format in which the escapes that only tools know are replaced by those that shells know too;
`fuel` bounds its length. -/
def withPlainEscapes : (fuel : Nat) → List Char → List Char
  | 0, cs => cs
  | _, [] => []
  | fuel + 1, '\\' :: 'x' :: cs =>
    let (value, rest) := hexDigits 2 0 cs
    if rest.length = cs.length then '\\' :: 'x' :: withPlainEscapes fuel cs
    else '\\' :: (octalEscape (Char.ofNat value) ++ withPlainEscapes fuel rest)
  | fuel + 1, '\\' :: '"' :: cs => '"' :: withPlainEscapes fuel cs
  | fuel + 1, '\\' :: c :: cs => '\\' :: c :: withPlainEscapes fuel cs
  | fuel + 1, c :: cs => c :: withPlainEscapes fuel cs

/-- Says its arguments. -/
def echo : Tool := fun c s =>
  let options := c.arguments.takeWhile isEchoOption
  let letters := options.flatMap String.toList
  let shown := " ".intercalate (c.arguments.drop options.length)
  let escapes := (letters.reverse.find? fun l => l == 'e' || l == 'E') == some 'e'
  let (text, stops) := if escapes then
      Shell.Formats.unescaped (String.ofList (withPlainEscapes (shown.length + 1) shown.toList))
    else (shown.toList, false)
  put (if letters.contains 'n' || stops then text else text ++ ['\n']) (s.withStatus 0)

/-- How a tool words that something is wrong with an argument. -/
def argumentMessage (argument : String) : Formats.ArgumentFault → String
  | .noNumber => s!"{quotedValue argument}: expected a numeric value"
  | .notCompletely => s!"{quotedValue argument}: value not completely converted"
  | .outOfRange => s!"{quotedValue argument}: Numerical result out of range"

/-- Says its arguments in a format. -/
def printf : Tool := fun c s =>
  match if c.arguments.head? == some "--" then c.arguments.drop 1 else c.arguments with
  | [] => missingOperand c 1 s
  | format :: arguments =>
    let plain := String.ofList (withPlainEscapes (format.length + 1) format.toList)
    let made := Shell.Formats.printf plain arguments
    let s := made.complaints.foldl (fun s (argument, fault) =>
      s.complain s!"{c.name}: {argumentMessage argument fault}") s
    let s := (s.print made.text).withStatus (if made.complaints.isEmpty then 0 else 1)
    match made.fault with
    | some .noConversion => complain s s!"{c.name}: %: invalid conversion specification"
    | some (.unknown directive) =>
      complain s s!"{c.name}: {directive}: invalid conversion specification"
    | none =>
      match made.arguments with
      | next :: _ =>
        if made.asked || made.stopped then s
        else
          let shown := quotedValue next
          s.complain s!"{c.name}: warning: ignoring excess arguments, starting with {shown}"
      | [] => s

/-- How often something is said before nobody can be listening any more. -/
def patientLines : Nat := 100000

/-- Says the same again and again, until nobody reads it; `fuel` bounds how often. -/
def repeatedly (bytes : Text.Bytes) : (fuel : Nat) → Session → Session
  | 0, s => s.spend Session.forever
  | fuel + 1, s => if s.flow != .going then s else repeatedly bytes fuel (s.write 1 bytes)

/-- Says the same again and again. -/
def yes : Tool := withOptions [] 1 fun o _ s =>
  let line := if o.operands.isEmpty then "y" else " ".intercalate o.operands
  let bytes := bytesOf ((List.replicate 512 (line.toList ++ ['\n'])).flatten)
  match s.channel? 1 with
  | some (.buffer _) => repeatedly bytes patientLines s
  | _ => s.spend Session.forever

/-- Does nothing, and succeeds or fails. -/
def doNothing (status : Nat) : Tool := fun _ s => s.withStatus status

/-! ### Deciding -/

/-- How `test` words what is wrong with a condition. -/
def conditionMessage (words : List String) (message : String) : String :=
  let last := words.getLast?.getD ""
  if message.startsWith "Illegal number: " then
    s!"invalid integer {quotedValue (String.ofList (message.toList.drop 16))}"
  else if message.endsWith "argument expected" then s!"missing argument after {quotedValue last}"
  else match words with
    | [first, _] =>
      if first.startsWith "-" then s!"{quotedValue first}: unary operator expected"
      else s!"missing argument after {quotedValue last}"
    | [_, middle, _] => s!"{quotedValue middle}: binary operator expected"
    | _ =>
      let extra := (String.ofList (message.toList.takeWhile (· != ':')))
      s!"extra argument {quotedValue extra}"

/-- Decides a condition. -/
def test : Tool := fun c s =>
  match Shell.Condition.holds s.machine c.arguments with
  | .ok answer => s.withStatus (if answer then 0 else 1)
  | .error message =>
    (s.complain s!"{c.name}: {conditionMessage c.arguments message}").withStatus 2

/-- Decides a condition that a bracket ends. -/
def bracket : Tool := fun c s =>
  if c.arguments.getLast? == some "]" then test ⟨c.name, c.arguments.dropLast⟩ s
  else (s.complain s!"{c.name}: missing ']'").withStatus 2

/-! ### Knowing -/

/-- A tool that takes no operands. -/
def withoutOperands (known : List Known) (status : Nat) (answer : Options → Session → Session) :
    Tool :=
  withOptions known status fun o c s =>
    match o.operands with
    | [] => answer o s
    | extra :: _ => extraOperand c status extra s

/-- The name of the only user. -/
def userName : String := "root"

/-- Who one is. -/
def id : Tool :=
  withOptions [flag 'u' "user", flag 'g' "group", flag 'G' "groups", flag 'n' "name",
    flag 'r' "real", flag 'z' "zero", flag 'a' "", flag 'Z' "context"] 1 fun o c s =>
  let isSingle := o.has "u" || o.has "g" || o.has "G"
  if !isSingle && (o.has "n" || o.has "r") then
    complain s s!"{c.name}: printing only names or real IDs requires -u, -g, or -G"
  else
    let answer (s : Session) : Session :=
      if isSingle then s.printLine (if o.has "n" then userName else "0")
      else s.printLine "uid=0(root) gid=0(root) groups=0(root)"
    if o.operands.isEmpty then answer s
    else o.operands.foldl (fun s name =>
      if name == userName || name == "0" then answer s
      else complain s s!"{c.name}: {quotedValue name}: no such user") s

/-- The groups that users are in. -/
def groups : Tool := withOptions [] 1 fun o c s =>
  if o.operands.isEmpty then s.printLine userName
  else o.operands.foldl (fun s name =>
    if name == userName then s.printLine s!"{name} : {userName}"
    else complain s s!"{c.name}: {quotedValue name}: no such user") s

/-- The name of the user. -/
def whoami : Tool := withoutOperands [] 1 fun _ s => s.printLine userName

/-- The name that the user came by; nobody did. -/
def logname : Tool := withOptions [] 1 fun o c s =>
  match o.operands with
  | [] => complain s s!"{c.name}: no login name"
  | extra :: _ => extraOperand c 1 extra s

/-- The kind of the machine. -/
def machineKind : String := "x86_64"

/-- What the machine is. -/
def uname : Tool :=
  withoutOperands [flag 'a' "all", flag 's' "kernel-name", flag 'n' "nodename",
    flag 'r' "kernel-release", flag 'v' "kernel-version", flag 'm' "machine",
    flag 'p' "processor", flag 'i' "hardware-platform", flag 'o' "operating-system"] 1 fun o s =>
  let parts := [("s", "Linux"), ("n", "localhost"), ("r", "6.1.0"), ("v", "#1 SMP"),
    ("m", machineKind), ("o", "GNU/Linux")]
  let chosen := parts.filter fun (key, _) =>
    o.has "a" || o.has key || (o.given.isEmpty && key == "s")
  let unknown := if o.has "a" then [] else (["p", "i"].filter o.has).map fun _ => "unknown"
  s.printLine (" ".intercalate (chosen.map Prod.snd ++ unknown))

/-- The kind of the machine. -/
def arch : Tool := withoutOperands [] 1 fun _ s => s.printLine machineKind

/-- The number of processors. -/
def nproc : Tool := withoutOperands [longFlag "all", longTaking "ignore"] 1 fun _ s =>
  s.printLine "1"

/-- Whether the input is a terminal; it is none. -/
def tty : Tool := withoutOperands [flag 's' "silent"] 2 fun o s =>
  (if o.has "s" then s else s.printLine "not a tty").withStatus 1

/-- Sees to it that everything is written, which it is. -/
def sync : Tool := withOptions [flag 'd' "data", flag 'f' "file-system"] 1 fun o c s =>
  o.operands.foldl (fun s name =>
    match s.files.status (Shell.pathOf name) with
    | .ok _ => s
    | .error fault =>
      complain s s!"{c.name}: error opening {quotedValue name}: {fault.reason}") s

end IdlBuild.Tool
