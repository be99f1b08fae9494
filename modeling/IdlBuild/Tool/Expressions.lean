import IdlBuild.Tool.Input
import IdlBuild.Tool.Regex.Reading

/-!
# Expressions of numbers and texts

What `expr` computes. Its words are read by levels, from the alternative down to the single value.
-/

namespace IdlBuild.Tool

open Shell (Session Call Tool)

namespace Evaluation

/-- Why an expression has no value. -/
inductive Fault where
  /-- The words are no expression. -/
  | malformed (message : String)
  /-- The words are an expression that has no value. -/
  | undefined (message : String)

/-- Reads a part of an expression: its value and the words behind it. -/
abbrev Reader := List String → Except Fault (String × List String)

/-- Whether a text is a whole number. -/
def isWhole (text : String) : Bool :=
  match text.toList with
  | '-' :: cs => !cs.isEmpty && cs.all Char.isDigit
  | cs => !cs.isEmpty && cs.all Char.isDigit

/-- The whole number that a text is. -/
def numberOf (text : String) : Except Fault Int :=
  if isWhole text then .ok (text.toInt?.getD 0) else .error (.undefined "non-integer argument")

/-- Whether a value counts as none: it is empty, or all zeros. -/
def isNone (value : String) : Bool :=
  match value.toList with
  | [] => true
  | '-' :: cs => !cs.isEmpty && cs.all (· == '0')
  | cs => cs.all (· == '0')

/-- The value of a condition. -/
def ofBool (b : Bool) : String := if b then "1" else "0"

/-- The order of two values: as numbers if both are numbers. -/
def order (a b : String) : Ordering :=
  if isWhole a && isWhole b then compare (a.toInt?.getD 0) (b.toInt?.getD 0)
  else if a < b then .lt else if b < a then .gt else .eq

/-- The comparison of an operator. -/
def comparison? (operator : String) : Option (Ordering → Bool) :=
  match operator with
  | "<" => some (· == .lt)
  | "<=" => some (· != .gt)
  | "=" | "==" => some (· == .eq)
  | "!=" => some (· != .eq)
  | ">=" => some (· != .lt)
  | ">" => some (· == .gt)
  | _ => none

/-- The operation of an operator on whole numbers. -/
def operation? (operator : String) : Option (Int → Int → Except Fault Int) :=
  let divided (f : Int → Int → Int) (a b : Int) : Except Fault Int :=
    if b = 0 then .error (.undefined "division by zero") else .ok (f a b)
  match operator with
  | "+" => some fun a b => .ok (a + b)
  | "-" => some fun a b => .ok (a - b)
  | "*" => some fun a b => .ok (a * b)
  | "/" => some (divided Int.tdiv)
  | "%" => some (divided Int.tmod)
  | _ => none

/-- What a regular expression matches at the beginning of a text: its first group if it has groups,
the number of units otherwise. -/
def matched (text pattern : String) : Except Fault String :=
  match Regex.read .basic pattern.toList with
  | .error message => .error (.malformed message)
  | .ok e =>
    let s : Regex.Subject := ⟨text.toList.toArray, false, false⟩
    let found := Regex.matchAt? s e e.looksBack 0
    if 0 < e.groupCount then
      .ok (String.ofList ((found.bind fun m => Regex.groupText s m.groups 1).getD []))
    else .ok (toString ((found.map fun m => m.stop).getD 0))

/-- The place of the first unit of a text that is one of some units, counted from one. -/
def placeOf (text units : String) : Nat :=
  match text.toList.findIdx? units.toList.contains with
  | some i => i + 1
  | none => 0

/-- A part of a text. -/
def part (text : String) (start length : Int) : String :=
  if start < 1 || length < 1 then ""
  else String.ofList ((text.toList.drop (start.toNat - 1)).take length.toNat)

/-- What is said when words are missing. -/
def missing (last : String) : Fault := .malformed s!"syntax error: missing argument after '{last}'"

/-- Reads on as long as an operator follows; `fuel` bounds how often. -/
def chain (operand : Reader) (meaning? : String → Option (String → String → Except Fault String)) :
    (fuel : Nat) → String → List String → Except Fault (String × List String)
  | 0, value, words => .ok (value, words)
  | fuel + 1, value, words =>
    match words with
    | operator :: rest =>
      match meaning? operator with
      | none => .ok (value, words)
      | some apply => do
        if rest.isEmpty then throw (missing operator)
        let (other, rest) ← operand rest
        chain operand meaning? fuel (← apply value other) rest
    | [] => .ok (value, [])

/-- Reads a row of operands. -/
def row (operand : Reader) (meaning? : String → Option (String → String → Except Fault String)) :
    Reader := fun words => do
  let (value, rest) ← operand words
  chain operand meaning? words.length value rest

/-- The operation of an operator on texts that are numbers. -/
def numeric (operators : List String) (operator : String) :
    Option (String → String → Except Fault String) :=
  if operators.contains operator then
    (operation? operator).map fun f a b => do return toString (← f (← numberOf a) (← numberOf b))
  else none

/-- Reads a number of single values. -/
def operands (single : Reader) (operator : String) : (count : Nat) → List String →
    Except Fault (List String × List String)
  | 0, words => .ok ([], words)
  | count + 1, words => do
    if words.isEmpty then throw (missing operator)
    let (value, rest) ← single words
    let (values, rest) ← operands single value count rest
    return (value :: values, rest)

/-- Reads a whole expression; `fuel` bounds how deep it is. -/
def alternatives : (fuel : Nat) → Reader
  | 0, _ => .error (.malformed "syntax error")
  | fuel + 1, words =>
    let single := value fuel
    let products := row (row single fun o => if o == ":" then some matched else none)
      (numeric ["*", "/", "%"])
    let comparisons := row (row products (numeric ["+", "-"])) fun o =>
      (comparison? o).map fun holds a b => .ok (ofBool (holds (order a b)))
    let conjunctions := row comparisons fun o =>
      if o == "&" then some fun a b => .ok (if isNone a || isNone b then "0" else a) else none
    row conjunctions (fun o =>
      if o == "|" then
        some fun a b => .ok (if !isNone a then a else if isNone b then "0" else b)
      else none) words
where
  /-- Reads a single value, or a word that asks for something. -/
  value (fuel : Nat) : Reader := fun words =>
    let plain (words : List String) : Except Fault (String × List String) :=
      match words with
      | [] => .error (.malformed "syntax error")
      | "(" :: rest => do
        if rest.isEmpty then throw (missing "(")
        let (found, rest) ← alternatives fuel rest
        match rest with
        | ")" :: rest => return (found, rest)
        | [] =>
          let last := words.getLast?.getD ""
          throw (.malformed s!"syntax error: expecting ')' after {quotedValue last}")
        | next :: _ =>
          throw (.malformed s!"syntax error: expecting ')' instead of {quotedValue next}")
      | ")" :: _ => .error (.malformed "syntax error: unexpected ')'")
      | "+" :: text :: rest => .ok (text, rest)
      | ["+"] => .error (missing "+")
      | text :: rest => .ok (text, rest)
    match words with
    | "length" :: next :: rest => do
      let (text, rest) ← plain (next :: rest)
      return (toString text.length, rest)
    | "match" :: rest => do
      let (values, rest) ← operands plain "match" 2 rest
      match values with
      | [text, pattern] => return (← matched text pattern, rest)
      | _ => throw (missing "match")
    | "index" :: rest => do
      let (values, rest) ← operands plain "index" 2 rest
      match values with
      | [text, units] => return (toString (placeOf text units), rest)
      | _ => throw (missing "index")
    | "substr" :: rest => do
      let (values, rest) ← operands plain "substr" 3 rest
      match values with
      | [text, start, length] =>
        match start.toInt?, length.toInt? with
        | some start, some length => return (part text start length, rest)
        | _, _ => return ("", rest)
      | _ => throw (missing "substr")
    | ["length"] => .error (missing "length")
    | _ => plain words

/-- The value of an expression. -/
def result (words : List String) : Except Fault String := do
  let (value, rest) ← alternatives (words.length + 1) words
  match rest with
  | [] => return value
  | next :: _ => throw (.malformed s!"syntax error: unexpected argument {quotedValue next}")

end Evaluation

/-- Computes a value. -/
def expr : Tool := fun c s =>
  let words := if c.arguments.head? == some "--" then c.arguments.drop 1 else c.arguments
  if words.isEmpty then missingOperand c 2 s
  else match Evaluation.result words with
    | .ok value => (s.printLine value).withStatus (if Evaluation.isNone value then 1 else 0)
    | .error (.malformed message) | .error (.undefined message) =>
      (s.complain s!"{c.name}: {message}").withStatus 2

end IdlBuild.Tool
