import IdlBuild.Shell.Arithmetic
import IdlBuild.Text.RealReader

/-!
# Formats

How `echo` and `printf` make a text of their arguments. A format is used again as long as it takes
arguments and some are left; a missing argument counts as empty.
-/

namespace IdlBuild.Shell.Formats

open Text (Directive)

/-! ### Escapes -/

/-- The value of up to `count` octal digits, with the characters after them. -/
def octalDigits : (count : Nat) → (value : Nat) → List Char → Nat × List Char
  | 0, value, cs => (value, cs)
  | count + 1, value, c :: cs =>
    if '0' ≤ c && c ≤ '7' then octalDigits count (value * 8 + (c.toNat - '0'.toNat)) cs
    else (value, c :: cs)
  | _, value, [] => (value, [])

/-- The unit that an escape letter stands for. -/
def letterUnit? (c : Char) : Option Char :=
  match c with
  | '\\' => some '\\'
  | 'a' => some '\x07'
  | 'b' => some '\x08'
  | 'e' => some '\x1b'
  | 'f' => some '\x0c'
  | 'n' => some '\n'
  | 'r' => some '\r'
  | 't' => some '\t'
  | 'v' => some '\x0b'
  | _ => none

/-- The unit of a number. -/
def unitOf (n : Nat) : Char := Char.ofNat (n % 0x100)

/-- What follows a backslash. What is no escape leaves the backslash as it is. -/
def escaped (cs : List Char) : List Char × List Char :=
  match cs with
  | [] => (['\\'], [])
  | c :: rest =>
    if '0' ≤ c && c ≤ '7' then
      let (value, rest) := octalDigits 3 0 cs
      ([unitOf value], rest)
    else match letterUnit? c with
      | some unit => ([unit], rest)
      | none => (['\\'], cs)

/-- A text with its escapes replaced, and whether it says to stop; `fuel` bounds its length. -/
def unescapedWithin : (fuel : Nat) → List Char → List Char × Bool
  | 0, _ => ([], false)
  | _, [] => ([], false)
  | _ + 1, '\\' :: 'c' :: _ => ([], true)
  | fuel + 1, '\\' :: '0' :: cs =>
    let (value, rest) := octalDigits 3 0 cs
    let (text, stops) := unescapedWithin fuel rest
    (unitOf value :: text, stops)
  | fuel + 1, '\\' :: cs =>
    let (first, rest) := escaped cs
    let (text, stops) := unescapedWithin fuel rest
    (first ++ text, stops)
  | fuel + 1, c :: cs =>
    let (text, stops) := unescapedWithin fuel cs
    (c :: text, stops)

/-- A text with its escapes replaced, and whether it says to stop. -/
def unescaped (text : String) : List Char × Bool :=
  unescapedWithin (text.length + 1) text.toList

/-! ### Echo -/

/-- The arguments with blanks between them, up to one that says to stop. -/
def echoBody : List String → List Char × Bool
  | [] => ([], false)
  | first :: rest =>
    let (text, stops) := unescaped first
    if stops then (text, true)
    else match rest with
      | [] => (text, false)
      | _ =>
        let (others, stops) := echoBody rest
        (text ++ ' ' :: others, stops)

/-- What `echo` prints. -/
def echo (arguments : List String) : String :=
  let (quiet, shown) := match arguments with
    | "-n" :: rest => (true, rest)
    | _ => (false, arguments)
  let (text, stops) := echoBody shown
  String.ofList (if quiet || stops then text else text ++ ['\n'])

/-! ### Arguments -/

/-- What is wrong with an argument that is to be a number. -/
inductive ArgumentFault where
  | noNumber
  | notCompletely
  | outOfRange
deriving DecidableEq, Repr

/-- How a fault of an argument is worded. -/
def ArgumentFault.message (text : String) : ArgumentFault → String
  | noNumber => s!"{text}: expected numeric value"
  | notCompletely => s!"{text}: not completely converted"
  | outOfRange => s!"{text}: Numerical result out of range"

/-- The bounds of whole numbers. -/
def wholeBounds (isSigned : Bool) : Int × Int :=
  if isSigned then (-0x8000000000000000, 0x7FFFFFFFFFFFFFFF)
  else (-0xFFFFFFFFFFFFFFFF, 0xFFFFFFFFFFFFFFFF)

/-- The whole number that an argument is, with what is wrong with it. A quote in front asks for the
number of the next unit. -/
def wholeArgument (isSigned : Bool) (text : String) : Int × Option ArgumentFault :=
  match text.toList with
  | [] => (0, none)
  | ['\''] | ['"'] => (0, none)
  | '\'' :: c :: _ | '"' :: c :: _ => (c.toNat, none)
  | cs =>
    let body := cs.dropWhile fun c => c.isWhitespace || c == '\x0b' || c == '\x0c'
    let (negative, digits) := match body with
      | '-' :: rest => (true, rest)
      | '+' :: rest => (false, rest)
      | _ => (false, body)
    match digits with
    | c :: _ =>
      if !c.isDigit then (0, some .noNumber)
      else
        let (n, rest) := Arithmetic.readNumber digits
        let value : Int := if negative then -(n : Int) else n
        let (low, high) := wholeBounds isSigned
        (max low (min high value),
          if !rest.isEmpty then some .notCompletely
          else if value < low || high < value then some .outOfRange else none)
    | [] => (0, some .noNumber)

/-- The number with a fraction that an argument is, with what is wrong with it. -/
def realArgument (text : String) : Text.Real × Option ArgumentFault :=
  match text.toList with
  | [] => (.ofInt 0, none)
  | ['\''] | ['"'] => (.ofInt 0, none)
  | '\'' :: c :: _ | '"' :: c :: _ => (.ofInt c.toNat, none)
  | cs =>
    match Text.ReadReal.ofChars? cs with
    | none => (.ofInt 0, some .noNumber)
    | some found =>
      (found.value, if !found.rest.isEmpty then some .notCompletely
        else if found.outOfRange then some .outOfRange else none)

/-! ### Printf -/

/-- Why a format is given up. -/
inductive FormatFault where
  | noConversion
  | unknown (directive : String)
deriving DecidableEq, Repr

/-- How a fault of a format is worded. -/
def FormatFault.message : FormatFault → String
  | noConversion => "missing format character"
  | unknown directive => s!"{directive}: invalid directive"

/-- What `printf` has made so far. -/
structure Printed where
  /-- The text, last character first. -/
  back : List Char
  /-- The arguments with which something is wrong. -/
  complaints : List (String × ArgumentFault)
  arguments : List String
  /-- Whether an argument was asked for. -/
  asked : Bool
  stopped : Bool
  fault : Option FormatFault

namespace Printed

/-- The text. -/
def text (p : Printed) : String := String.ofList p.back.reverse

/-- With more text. -/
def push (p : Printed) (text : List Char) : Printed :=
  { p with back := text.foldl (fun back c => c :: back) p.back }

/-- The next argument, if there is one. -/
def take (p : Printed) : String × Printed :=
  (p.arguments.head?.getD "", { p with arguments := p.arguments.drop 1, asked := true })

/-- With more text, and a complaint about an argument if there is one. -/
def add (p : Printed) (text : List Char) (argument : String) (fault : Option ArgumentFault) :
    Printed :=
  { p.push text with
    complaints := p.complaints ++ (fault.map fun fault => (argument, fault)).toList }

/-- A whole number that is asked for. -/
def withWhole (p : Printed) (d : Directive) : Printed :=
  let (argument, p) := p.take
  let (n, fault) := wholeArgument (d.conversion == 'd' || d.conversion == 'i') argument
  p.add (d.ofInteger n) argument fault

/-- A number with a fraction that is asked for. -/
def withReal (p : Printed) (d : Directive) : Printed :=
  let (argument, p) := p.take
  let (r, fault) := realArgument argument
  p.add (d.ofReal r) argument fault

/-- A text that is asked for. -/
def withText (p : Printed) (d : Directive) : Printed :=
  let (argument, p) := p.take
  p.add (d.ofText argument.toList) argument none

/-- A text with escapes that is asked for. -/
def withEscapes (p : Printed) (d : Directive) : Printed :=
  let (argument, p) := p.take
  let (text, stops) := unescaped argument
  { p.add (d.ofText text) argument none with stopped := stops }

/-- One unit that is asked for. -/
def withUnit (p : Printed) (d : Directive) : Printed :=
  let (argument, p) := p.take
  p.add ({ d with precision := none }.ofText [argument.toList.head?.getD '\x00']) argument none

end Printed

/-- A count in a directive: digits, or a star that takes it from an argument. -/
def count (cs : List Char) (p : Printed) : Int × List Char × Printed :=
  match cs with
  | '*' :: rest =>
    let (argument, p) := p.take
    let (n, fault) := wholeArgument true argument
    (n, rest, p.add [] argument fault)
  | _ => ((Arithmetic.readDigits 10 cs).1, cs.dropWhile Char.isDigit, p)

/-- Reads a directive after its percent sign. -/
def directive (cs : List Char) (p : Printed) : Option Directive × List Char × Printed :=
  let flags := cs.takeWhile fun c => "#-+ 0".toList.contains c
  let (width, rest, p) := count (cs.drop flags.length) p
  let flags := if width < 0 then '-' :: flags else flags
  let (precision, rest, p) : Option Nat × List Char × Printed := match rest with
    | '.' :: rest =>
      let (n, rest, p) := count rest p
      (if n < 0 then none else some n.toNat, rest, p)
    | _ => (none, rest, p)
  match rest with
  | [] => (none, [], p)
  | c :: rest => (some ⟨flags, width.natAbs, precision, c⟩, rest, p)

/-- Goes through a format once; `fuel` bounds its length. -/
def formatOnce : (fuel : Nat) → List Char → Printed → Printed
  | 0, _, p => p
  | _, [], p => p
  | fuel + 1, '\\' :: cs, p =>
    let (text, rest) := escaped cs
    formatOnce fuel rest (p.push text)
  | fuel + 1, '%' :: '%' :: cs, p => formatOnce fuel cs (p.push ['%'])
  | fuel + 1, '%' :: cs, p =>
    match directive cs p with
    | (none, _, p) => { p with stopped := true, fault := some .noConversion }
    | (some d, rest, p) =>
      let next := match d.conversion with
        | 's' => p.withText d
        | 'b' => p.withEscapes d
        | 'c' => p.withUnit d
        | 'd' | 'i' | 'o' | 'u' | 'x' | 'X' => p.withWhole d
        | 'e' | 'E' | 'f' | 'F' | 'g' | 'G' | 'a' | 'A' => p.withReal d
        | _ =>
          let shown := String.ofList ('%' :: cs.take (cs.length - rest.length))
          { p with stopped := true, fault := some (.unknown shown) }
      if next.stopped then next else formatOnce fuel rest next
  | fuel + 1, c :: cs, p => formatOnce fuel cs (p.push [c])

/-- Goes through a format again and again; `fuel` bounds how often. -/
def formatAll (format : String) : (fuel : Nat) → Printed → Printed
  | 0, p => p
  | fuel + 1, p =>
    let next := formatOnce (format.length + 1) format.toList { p with asked := false }
    if next.stopped || !next.asked || next.arguments.isEmpty then next
    else formatAll format fuel next

/-- What `printf` makes of a format and arguments. -/
def printf (format : String) (arguments : List String) : Printed :=
  formatAll format (arguments.length + 1) ⟨[], [], arguments, false, false, none⟩

end IdlBuild.Shell.Formats
