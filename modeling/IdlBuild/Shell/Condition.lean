import IdlBuild.Shell.Arithmetic
import IdlBuild.Shell.Session

/-!
# Conditions

What `test` decides: questions about texts, numbers and files, turned round by `!`, grouped by
parentheses and joined by `-a` and `-o`. A word that could be an operator is an operand where an
operator makes no sense.
-/

namespace IdlBuild.Shell.Condition

/-! ### Single questions -/

/-- The questions about one operand. -/
def unaryOperators : List String :=
  ["-r", "-w", "-x", "-e", "-f", "-d", "-c", "-b", "-p", "-u", "-g", "-k", "-s", "-t", "-z", "-n",
   "-h", "-O", "-G", "-L", "-S"]

/-- The questions about two operands. -/
def binaryOperators : List String :=
  ["=", "!=", "<", ">", "-eq", "-ne", "-ge", "-gt", "-le", "-lt", "-nt", "-ot", "-ef"]

/-- The number that an operand is. -/
def numberOf (text : String) : Except String Int :=
  match Arithmetic.signedNumber? (Arithmetic.readDigits 10) text with
  | some n => .ok n
  | none => .error s!"Illegal number: {text}"

/-- The answer to a question about a path or a text. -/
def unary (m : Machine) (operator operand : String) : Except String Bool :=
  let found := (m.files.status (pathOf operand)).toOption
  let device := (found.map fun (location, _) => Machine.isDevice location).getD false
  let node := found.map Prod.snd
  match operator with
  | "-n" => .ok (!operand.isEmpty)
  | "-z" => .ok operand.isEmpty
  | "-e" | "-r" | "-w" | "-O" | "-G" => .ok node.isSome
  | "-c" => .ok device
  | "-f" => .ok (!device && match node with
    | some (.file ..) => true
    | _ => false)
  | "-d" => .ok (node == some .directory)
  | "-s" => .ok (match node with
    | some (.file content _) => !content.isEmpty
    | some .directory => true
    | _ => false)
  | "-x" => .ok (match node with
    | some (.file _ mode) => FileSystem.isExecutable mode
    | some .directory => true
    | _ => false)
  | "-h" | "-L" => .ok (match m.files.linkStatus (pathOf operand) with
    | .ok (_, .link _) => true
    | _ => false)
  | "-t" => (numberOf operand).map fun _ => false
  | _ => .ok false

/-- The answer to a question about two operands. -/
def binary (m : Machine) (operator left right : String) : Except String Bool := do
  let files (f : Location → Location → Bool) : Except String Bool :=
    .ok (match m.files.status (pathOf left), m.files.status (pathOf right) with
      | .ok (a, _), .ok (b, _) => f a b
      | _, _ => false)
  let numbers (f : Int → Int → Bool) : Except String Bool := do
    let a ← numberOf left
    let b ← numberOf right
    return f a b
  match operator with
  | "=" => return left == right
  | "!=" => return left != right
  | "<" => return decide (left < right)
  | ">" => return decide (right < left)
  | "-ef" => files (· == ·)
  | "-nt" => files fun a b => m.stampOf b < m.stampOf a
  | "-ot" => files fun a b => m.stampOf a < m.stampOf b
  | "-eq" => numbers (· == ·)
  | "-ne" => numbers (· != ·)
  | "-lt" => numbers fun a b => decide (a < b)
  | "-le" => numbers fun a b => decide (a ≤ b)
  | "-gt" => numbers fun a b => decide (b < a)
  | _ => numbers fun a b => decide (b ≤ a)

/-! ### What words are -/

/-- What a word is where it stands. -/
inductive Token where
  | nothing
  | operand
  | unary (operator : String)
  | binary (operator : String)
  | negation
  | conjunction
  | disjunction
  | opening
  | closing
deriving DecidableEq, Repr

/-- What the first of some words is. -/
def token : List String → Token
  | [] => .nothing
  | word :: rest =>
    if binaryOperators.contains word then .binary word
    else if unaryOperators.contains word then
      let isOperand := match rest with
        | [] => true
        | [_] => false
        | next :: _ => binaryOperators.contains next
      if isOperand then .operand else .unary word
    else match word with
      | "!" => .negation
      | "-a" => .conjunction
      | "-o" => .disjunction
      | "(" => if rest.isEmpty then .operand else .opening
      | ")" => .closing
      | _ => .operand

/-! ### Whole conditions -/

/-- Whether a condition holds, and the words from its last one on. -/
abbrev Verdict := Except String (Bool × List String)

mutual

/-- Questions joined by `-o`, of which the first begins with a word of a kind; `fuel` bounds the
number of words. -/
def alternatives (m : Machine) : (fuel : Nat) → Token → List String → Verdict
  | 0, _, _ => .error "argument expected"
  | fuel + 1, first, words => do
    let (answer, words) ← conjunctions m fuel first words
    if token (words.drop 1) = .disjunction then
      let rest := words.drop 2
      let (other, words) ← alternatives m fuel (token rest) rest
      return (answer || other, words)
    else return (answer, words)

/-- Questions joined by `-a`. -/
def conjunctions (m : Machine) : (fuel : Nat) → Token → List String → Verdict
  | 0, _, _ => .error "argument expected"
  | fuel + 1, first, words => do
    let (answer, words) ← negations m fuel first words
    if token (words.drop 1) = .conjunction then
      let rest := words.drop 2
      let (other, words) ← conjunctions m fuel (token rest) rest
      return (answer && other, words)
    else return (answer, words)

/-- A question that is turned round as often as it is preceded by `!`. -/
def negations (m : Machine) : (fuel : Nat) → Token → List String → Verdict
  | 0, _, _ => .error "argument expected"
  | fuel + 1, first, words => do
    if first = .negation then
      let next := token (words.drop 1)
      let words := if next = .nothing then words else words.drop 1
      let (answer, words) ← negations m fuel next words
      return (!answer, words)
    else single m fuel first words

/-- A question with an operator, one in parentheses, or a text. -/
def single (m : Machine) : (fuel : Nat) → Token → List String → Verdict
  | 0, _, _ => .error "argument expected"
  | fuel + 1, first, words => do
    match first with
    | .nothing => return (false, words)
    | .opening =>
      let inside := words.drop 1
      if token inside = .closing then return (false, inside)
      let (answer, words) ← alternatives m fuel (token inside) inside
      if token (words.drop 1) = .closing then return (answer, words.drop 1)
      else throw "closing paren expected"
    | .unary operator =>
      match words.drop 1 with
      | [] => throw s!"{operator}: argument expected"
      | operand :: rest => return (← unary m operator operand, operand :: rest)
    | _ =>
      match token (words.drop 1), words with
      | .binary operator, left :: _ :: right :: rest =>
        return (← binary m operator left right, right :: rest)
      | .binary operator, _ => throw s!"{operator}: argument expected"
      | _, text :: rest => return (!text.isEmpty, text :: rest)
      | _, [] => return (false, [])

end

/-- Whether a condition holds that begins with a word of a kind. -/
def decided (m : Machine) (first : Token) (words : List String) : Except String Bool := do
  let (answer, words) ← alternatives m (8 * words.length + 8) first words
  match words with
  | word :: _ :: _ =>
    throw (if word.isEmpty then "unexpected operator" else s!"{word}: unexpected operator")
  | _ => return answer

/-- Whether a condition holds. -/
def holds (m : Machine) (words : List String) : Except String Bool :=
  match words with
  | [] => .ok false
  | [_, operator, _] =>
    if binaryOperators.contains operator then decided m .operand words
    else if words.head? == some "(" && words.getLast? == some ")" then
      decided m (token (words.drop 1).dropLast) (words.drop 1).dropLast
    else decided m (token words) words
  | [_, _, _, _] =>
    if words.head? == some "(" && words.getLast? == some ")" then
      decided m (token (words.drop 1).dropLast) (words.drop 1).dropLast
    else decided m (token words) words
  | _ => decided m (token words) words

end IdlBuild.Shell.Condition
