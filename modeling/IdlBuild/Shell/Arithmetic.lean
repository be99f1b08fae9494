/-!
# Arithmetic

The whole-number expressions of a shell, on words of 64 bits with a sign. A name stands for the
number that is the value of its variable, 0 if it has none.
-/

namespace IdlBuild.Shell.Arithmetic

/-- Why an expression has no value. -/
inductive Fault where
  /-- It cannot be read, or asks for something impossible. -/
  | expression (message : String)
  /-- The value of a variable is no number. -/
  | illegal (value : String)
  /-- A variable cannot change. -/
  | fixed (name : String)
deriving DecidableEq, Repr

/-- What is said of an expression without a value. -/
def Fault.message (text : String) : Fault → String
  | expression message => s!"arithmetic expression: {message}: \"{text}\""
  | illegal value => s!"Illegal number: {value}"
  | fixed name => s!"{name}: is read only"

/-- The characters that are left and the variables as they are now. -/
structure State where
  rest : List Char
  bindings : List (String × String)
  fixed : List String
  /-- Whether what is read has an effect; the side of a choice that is not taken has none. -/
  live : Bool

/-- A reader that computes as it reads. -/
abbrev Reader (α : Type) := StateT State (Except Fault) α

/-! ### Numbers -/

/-- A number cut to 64 bits. -/
def wrapped (n : Int) : Int := Int.bmod n 0x10000000000000000

/-- The value of a digit in the bases up to 16. -/
def digitValue (c : Char) : Nat :=
  if c.isDigit then c.toNat - '0'.toNat
  else if 'a' ≤ c && c ≤ 'f' then c.toNat - 'a'.toNat + 10
  else if 'A' ≤ c && c ≤ 'F' then c.toNat - 'A'.toNat + 10
  else 16

/-- The number that digits of a base make, with the characters after them. -/
def readDigits (base : Nat) (cs : List Char) : Nat × List Char :=
  ((cs.takeWhile fun c => digitValue c < base).foldl (fun n c => n * base + digitValue c) 0,
   cs.dropWhile fun c => digitValue c < base)

/-- The greatest number that fits. -/
def greatest : Nat := 0x7FFFFFFFFFFFFFFF

/-- A number: `0x` starts a hexadecimal one, `0b` a binary one and another `0` an octal one. What
starts like one but has no digits is a zero. -/
def readNumber (cs : List Char) : Nat × List Char :=
  let based (base : Nat) (digits : List Char) : Nat × List Char :=
    match digits with
    | c :: _ => if digitValue c < base then readDigits base digits else (0, cs.drop 1)
    | [] => (0, cs.drop 1)
  match cs with
  | '0' :: 'x' :: digits | '0' :: 'X' :: digits => based 16 digits
  | '0' :: 'b' :: digits | '0' :: 'B' :: digits => based 2 digits
  | '0' :: digits => readDigits 8 digits
  | _ => readDigits 10 cs

/-- The number that a text with a sign perhaps and blanks around it is, digits being read in a way;
none if it is no number or does not fit. -/
def signedNumber? (read : List Char → Nat × List Char) (text : String) : Option Int :=
  let cs := text.toList.dropWhile (·.isWhitespace)
  let (negative, digits) := match cs with
    | '-' :: rest => (true, rest)
    | '+' :: rest => (false, rest)
    | _ => (false, cs)
  match digits with
  | [] => none
  | c :: _ =>
    if !c.isDigit then none
    else match read digits with
      | (n, rest) =>
        if !rest.all (·.isWhitespace) then none
        else if n ≤ greatest then some (if negative then -(n : Int) else n)
        else if negative && n = greatest + 1 then some (-(n : Int))
        else none

/-- The number that a value is; an empty one is zero. -/
def valueOf? (text : String) : Option Int :=
  if text.toList.all (·.isWhitespace) then some 0 else signedNumber? readNumber text

/-! ### Operators -/

/-- The two-place operators from loosest to tightest. -/
def levels : List (List String) :=
  [["||"], ["&&"], ["|"], ["^"], ["&"], ["==", "!="], ["<=", ">=", "<", ">"], ["<<", ">>"],
   ["+", "-"], ["*", "/", "%"]]

/-- The number of a truth value. -/
def truth (b : Bool) : Int := if b then 1 else 0

/-- Words of 64 bits combined bit by bit. -/
def bitwise (f : BitVec 64 → BitVec 64 → BitVec 64) (a b : Int) : Int :=
  (f (BitVec.ofInt 64 a) (BitVec.ofInt 64 b)).toInt

/-- The value of a two-place operator. -/
def compute (operator : String) (a b : Int) : Except String Int :=
  match operator with
  | "||" => .ok (truth (a != 0 || b != 0))
  | "&&" => .ok (truth (a != 0 && b != 0))
  | "|" => .ok (bitwise (· ||| ·) a b)
  | "^" => .ok (bitwise (· ^^^ ·) a b)
  | "&" => .ok (bitwise (· &&& ·) a b)
  | "==" => .ok (truth (a == b))
  | "!=" => .ok (truth (a != b))
  | "<=" => .ok (truth (a ≤ b))
  | ">=" => .ok (truth (a ≥ b))
  | "<" => .ok (truth (a < b))
  | ">" => .ok (truth (a > b))
  | "<<" => .ok (wrapped (a * (Nat.pow 2 (b % 64).toNat : Nat)))
  | ">>" => .ok (a / (Nat.pow 2 (b % 64).toNat : Nat))
  | "+" => .ok (wrapped (a + b))
  | "-" => .ok (wrapped (a - b))
  | "*" => .ok (wrapped (a * b))
  | "/" => if b = 0 then .error "division by zero" else .ok (wrapped (Int.tdiv a b))
  | _ => if b = 0 then .error "division by zero" else .ok (Int.tmod a b)

/-- Whether an operator comes next, and not a longer one or an assignment. -/
def startsWithOperator (operator : String) (cs : List Char) : Bool :=
  let after := (cs.drop operator.length).head?
  operator.toList.isPrefixOf cs &&
    (if ["|", "&"].contains operator then after != operator.toList.head? && after != some '='
     else if ["<", ">"].contains operator then after != operator.toList.head?
     else if ["==", "!=", "<=", ">=", "||", "&&"].contains operator then true
     else after != some '=')

/-- The operators that change a variable, with the operator that they compute. -/
def assignments : List (String × String) :=
  [("=", ""), ("+=", "+"), ("-=", "-"), ("*=", "*"), ("/=", "/"), ("%=", "%"), ("<<=", "<<"),
   (">>=", ">>"), ("&=", "&"), ("|=", "|"), ("^=", "^")]

/-- Whether a name can start with a character, or go on with it. -/
def isNameChar (c : Char) : Bool := c.isAlphanum || c == '_'

/-! ### Reading -/

/-- Passes over blanks. -/
def skipBlanks : Reader Unit := modify fun s => { s with rest := s.rest.dropWhile (·.isWhitespace) }

/-- Passes over some characters and the blanks after them. -/
def skip (count : Nat) : Reader Unit := do
  modify fun s => { s with rest := s.rest.drop count }
  skipBlanks

/-- The number that is the value of a variable. -/
def numberOf (name : String) : Reader Int := do
  match (← get).bindings.find? (·.1 == name) with
  | none => return 0
  | some (_, value) =>
    match valueOf? value with
    | some n => return n
    | none => if (← get).live then throw (.illegal value) else return 0

/-- Gives a variable a number. -/
def assign (name : String) (n : Int) : Reader Unit := do
  let s ← get
  if s.live then
    if s.fixed.contains name then throw (.fixed name)
    set { s with bindings := (name, toString n) :: s.bindings.filter (·.1 != name) }

/-- Refuses an expression. -/
def refuse {α : Type} (message : String) : Reader α := throw (.expression message)

/-- Reads something that has an effect only under a condition. -/
def onlyIf (condition : Bool) (reader : Reader Int) : Reader Int := do
  let outer := (← get).live
  modify fun s => { s with live := outer && condition }
  let n ← reader
  modify fun s => { s with live := outer }
  return n

/-- The value of a two-place operator, which is refused only if it has an effect. -/
def computed (operator : String) (a b : Int) : Reader Int := do
  match compute operator a b with
  | .ok n => return n
  | .error fault => if (← get).live then refuse fault else return 0

mutual

/-- An expression with assignments and choices; `fuel` bounds the depth of reading. -/
def expression : (fuel : Nat) → Reader Int
  | 0 => refuse "expression too long"
  | fuel + 1 => do
    let cs := (← get).rest
    let name := cs.takeWhile isNameChar
    let after := (cs.dropWhile isNameChar).dropWhile (·.isWhitespace)
    let change := if name.isEmpty || (name.head?.map Char.isDigit).getD false then none
      else assignments.find? fun (mark, _) =>
        mark.toList.isPrefixOf after && !(mark == "=" && (after.drop 1).head? == some '=')
    match change with
    | some (mark, operator) =>
      let name := String.ofList name
      modify fun s => { s with rest := after }
      skip mark.length
      let right ← expression fuel
      let value ← if operator.isEmpty then pure right
        else computed operator (← numberOf name) right
      assign name value
      return value
    | none => choice fuel

/-- An expression with choices. -/
def choice : (fuel : Nat) → Reader Int
  | 0 => refuse "expression too long"
  | fuel + 1 => do
    let condition ← binary fuel levels
    match (← get).rest with
    | '?' :: _ =>
      skip 1
      let first ← onlyIf (condition != 0) (expression fuel)
      match (← get).rest with
      | ':' :: _ =>
        skip 1
        let second ← onlyIf (condition == 0) (choice fuel)
        return if condition != 0 then first else second
      | _ => refuse "expecting ':'"
    | _ => return condition

/-- An expression of the operators from a level on. -/
def binary : (fuel : Nat) → List (List String) → Reader Int
  | 0, _ => refuse "expression too long"
  | fuel + 1, [] => unary fuel
  | fuel + 1, operators :: tighter => do
    let first ← binary fuel tighter
    binaryRest fuel operators tighter first

/-- The rest of an expression of one level, computed from the left. -/
def binaryRest : (fuel : Nat) → List String → List (List String) → Int → Reader Int
  | 0, _, _, _ => refuse "expression too long"
  | fuel + 1, operators, tighter, first => do
    let cs := (← get).rest
    match operators.find? fun operator => startsWithOperator operator cs with
    | none => return first
    | some operator =>
      skip operator.length
      let decided := (operator == "||" && first != 0) || (operator == "&&" && first == 0)
      let second ← onlyIf (!decided) (binary fuel tighter)
      binaryRest fuel operators tighter (← computed operator first second)

/-- A number, a name or an expression in parentheses, with the signs before it. -/
def unary : (fuel : Nat) → Reader Int
  | 0 => refuse "expression too long"
  | fuel + 1 => do
    match (← get).rest with
    | '-' :: _ => skip 1; return wrapped (-(← unary fuel))
    | '+' :: _ => skip 1; unary fuel
    | '!' :: _ => skip 1; return truth ((← unary fuel) == 0)
    | '~' :: _ => skip 1; return -(← unary fuel) - 1
    | '(' :: _ =>
      skip 1
      let n ← expression fuel
      match (← get).rest with
      | ')' :: _ => skip 1; return n
      | _ => refuse "expecting ')'"
    | c :: cs =>
      if c.isDigit then
        let (n, rest) := readNumber (c :: cs)
        modify fun s => { s with rest }
        skipBlanks
        return min n greatest
      else if isNameChar c then
        let name := String.ofList ((c :: cs).takeWhile isNameChar)
        modify fun s => { s with rest := s.rest.dropWhile isNameChar }
        skipBlanks
        numberOf name
      else refuse "expecting primary"
    | [] => refuse "expecting primary"

end

/-- The value of an expression and the variables after it; some variables cannot change. -/
def evaluate (text : String) (bindings : List (String × String)) (fixed : List String) :
    Except Fault (Int × List (String × String)) := do
  let whole : Reader Int := do
    skipBlanks
    let n ← expression (16 * (text.length + 2))
    if (← get).rest.isEmpty then return n else refuse "expecting EOF"
  let (n, state) ← whole.run ⟨text.toList, bindings, fixed, true⟩
  return (n, state.bindings)

end IdlBuild.Shell.Arithmetic
