import IdlBuild.Tool.Awk.Tokens

/-!
# Reading programs for records

Tokens are put together into a program. Expressions are read level by level, from the assignment
down to the single value; `fuel` bounds how deep they are.
-/

namespace IdlBuild.Tool.Awk

/-- The part of a program that is being read. -/
inductive Region where
  | frame
  | main
  | function
deriving DecidableEq, Repr, Inhabited

/-- What is left of the tokens, and what has been read so far. -/
structure Source where
  rest : List Placed
  /-- The line that was reached. -/
  line : Nat
  /-- The parameters of the function that is being read. -/
  parameters : List String
  region : Region
  /-- How many loops are open, and how many brackets. -/
  loops : Nat
  brackets : Nat
  /-- The variables that are known to be arrays, or not to be. -/
  kinds : List (String × Bool)
  /-- How many tokens were left where a list of what is printed begins. -/
  listStart : Nat
  /-- The functions with the numbers of their parameters, and the calls of those that come later
  with the numbers of their arguments and their lines, newest first. -/
  defined : List (String × Nat)
  calls : List (String × Nat × Nat)

/-- Reads a part of a program. -/
abbrev Reader := StateT Source (Except (List Fault))

namespace Reader

/-! ### Tokens -/

/-- The next token, which stays there. -/
def peek : Reader (Option Token) := return ((← get).rest.head?).map (·.token)

/-- Passes over the next token. -/
def skip : Reader Unit :=
  modify fun s => match s.rest with
    | p :: rest => { s with
        rest
        line := match p.token with
          | .newline => p.line + 1
          | _ => p.line
        brackets := match p.token with
          | .mark "(" => s.brackets + 1
          | .mark ")" => s.brackets - 1
          | _ => s.brackets }
    | [] => s

/-- What is wrong with a line. -/
def faultAt (line : Nat) (message : String) : Fault := ⟨s!"line {line}", message⟩

/-- Refuses the program at the line that was reached. -/
def refuse {α : Type} (message : String) : Reader α := do throw [faultAt (← get).line message]

/-- How the next token is shown in a complaint. -/
def shownNext : Reader String := do
  match ← peek with
  | some token => return token.shown
  | none => return "end of line"

/-- Refuses the next token. -/
def unexpected {α : Type} : Reader α := do
  let shown ← shownNext
  let endsAll := [";", "\x7d", "end of line"].contains shown
  let isOpen := 0 < (← get).brackets
  if endsAll && isOpen then refuse s!"missing ) near {shown}"
  else if shown == ")" && !isOpen then refuse "extra ')'"
  else refuse s!"syntax error at or near {shown}"

/-- Whether a mark comes next. -/
def isMark (mark : String) : Reader Bool := do
  match ← peek with
  | some (.mark m) => return m == mark
  | _ => return false

/-- Passes over a mark, if it comes next. -/
def takeMark (mark : String) : Reader Bool := do
  if ← isMark mark then
    skip
    return true
  else return false

/-- Passes over a mark that has to come next. -/
def expect (mark : String) : Reader Unit := do
  if !(← takeMark mark) then
    if mark == "\x7d" && (← peek).isNone then
      throw [faultAt ((← get).line + 1) "missing \x7d near end of file"]
    else unexpected

/-- Whether a word comes next. -/
def isWord (word : String) : Reader Bool := do
  match ← peek with
  | some (.word w) => return w == word
  | _ => return false

/-- Passes over a word, if it comes next. -/
def takeWord (word : String) : Reader Bool := do
  if ← isWord word then
    skip
    return true
  else return false

/-- Passes over the ends of lines. -/
def skipNewlines : Reader Unit :=
  modify fun s =>
    let isNewline (p : Placed) : Bool := match p.token with
      | .newline => true
      | _ => false
    let passed := s.rest.takeWhile isNewline
    { s with rest := s.rest.drop passed.length, line := s.line + passed.length }

/-- Passes over the ends of lines and of statements. -/
def skipEnds : Reader Unit :=
  modify fun s =>
    let isEnd (p : Placed) : Bool := match p.token with
      | .newline => true
      | .mark m => m == ";"
      | _ => false
    let passed := s.rest.takeWhile isEnd
    let lines := passed.filter fun p => match p.token with
      | .newline => true
      | _ => false
    { s with rest := s.rest.drop passed.length, line := s.line + lines.length }

/-- Takes note of a call with a number of arguments. -/
def noteCall (name : String) (arguments : Nat) : Reader Unit := do
  match (← get).defined.lookup name with
  | some parameters =>
    if parameters < arguments then refuse s!"too many arguments in call to {name}"
  | none => modify fun s => { s with calls := (name, arguments, s.line) :: s.calls }

/-- Takes note of a variable that is used as an array, or as none. -/
def noteKind (name : Name) (isArray : Bool) : Reader Unit := do
  match name with
  | .ofFunction _ => return
  | .ofProgram text =>
    match (← get).kinds.lookup text with
    | some known =>
      if known != isArray then
        let kind := if known then "array" else "variable"
        refuse s!"illegal reference to {kind} {text}"
    | none => modify fun s => { s with kinds := (text, isArray) :: s.kinds }

/-- Reads the body of a loop. -/
def inLoop {α : Type} (body : Reader α) : Reader α := do
  modify fun s => { s with loops := s.loops + 1 }
  let found ← body
  modify fun s => { s with loops := s.loops - 1 }
  return found

/-- The variable of a name. -/
def nameOf (text : String) : Reader Name := do
  match (← get).parameters.idxOf? text with
  | some place => return .ofFunction place
  | none => return .ofProgram text

/-- The variable of a name that is used as an array, or as none. -/
def nameAs (isArray : Bool) (text : String) : Reader Name := do
  let name ← nameOf text
  noteKind name isArray
  return name

end Reader

open Reader

/-! ### Expressions -/

/-- How many arguments a function that is there from the start takes, at least and at most. -/
def argumentCounts (name : String) : Nat × Nat :=
  match name with
  | "length" | "srand" | "fflush" => (0, 1)
  | "index" | "atan2" | "match" => (2, 2)
  | "substr" | "sub" | "gsub" | "split" => (2, 3)
  | "sprintf" => (1, 255)
  | "rand" | "systime" => (0, 0)
  | "strftime" => (0, 3)
  | _ => (1, 1)

/-- Whether a value can be assigned to an expression. -/
def Expr.isTarget : Expr → Bool
  | named _ | element _ _ | field _ => true
  | _ => false

/-- The operation of an assignment that computes. -/
def updateOf? (mark : String) : Option Operation :=
  match mark with
  | "+=" => some .add
  | "-=" => some .subtract
  | "*=" => some .multiply
  | "/=" => some .divide
  | "%=" => some .remainder
  | "^=" => some .power
  | _ => none

/-- The comparison of a mark. -/
def comparisonOf? (mark : String) : Option Comparison :=
  match mark with
  | "<" => some .less
  | "<=" => some .atMost
  | "==" => some .equal
  | "!=" => some .different
  | ">" => some .greater
  | ">=" => some .atLeast
  | _ => none

/-- Whether a token begins a value that is joined to the one before it. -/
def beginsJoined : Option Token → Bool
  | some (.number ..) | some (.text _) | some (.pattern _) | some (.name _) | some (.call _)
  | some (.builtin _) => true
  | some (.mark m) => ["(", "$", "++", "--"].contains m
  | _ => false

/-- What may not stand in an expression where it is read: a comparison by `>`, or `in`. -/
structure Limits where
  noGreater : Bool
  noIn : Bool

/-- Nothing is left out. -/
def Limits.none : Limits := ⟨false, false⟩

/-- How deep expressions and statements may be. -/
def depth : Nat := 200

/-- How long rows of operands may be. -/
def width : Nat := 10000

/-- Reads on behind an expression as long as something follows that goes with it; `fuel` bounds how
often. -/
def further (step : Expr → Reader (Option Expr)) : (fuel : Nat) → Expr → Reader Expr
  | 0, left => return left
  | fuel + 1, left => do
    match ← step left with
    | some next => further step fuel next
    | none => return left

/-- Reads an expression of any kind. -/
abbrev Inner := Limits → Reader Expr

section Levels

variable (inner : Inner)

/-- Reads expressions between commas; `fuel` bounds their number. -/
def itemsFrom : (fuel : Nat) → Reader (List Expr)
  | 0 => unexpected
  | fuel + 1 => do
    let first ← inner .none
    skipNewlines
    if ← takeMark "," then
      skipNewlines
      return first :: (← itemsFrom fuel)
    else return [first]

/-- Reads an argument, where a name may be that of an array. -/
def argument : Limits → Reader Expr := fun limits => do
  let tokens : List Token := (← get).rest.map (·.token)
  match tokens with
  | .name text :: .mark m :: _ =>
    if m == "," || m == ")" then
      skip
      return .named (← nameOf text)
    else inner limits
  | _ => inner limits

/-- Reads arguments up to the closing bracket. -/
def argumentList (inner : Inner) : Reader (List Expr) := do
  skipNewlines
  if ← takeMark ")" then return []
  let found ← itemsFrom inner width
  skipNewlines
  expect ")"
  return found

/-- Whether nothing of a list of what is printed can come next. -/
def endsList : Reader Bool := do
  match ← peek with
  | none | some .newline => return true
  | some (.mark m) => return [";", "\x7d", ">", ">>", "|"].contains m
  | _ => return false

/-- Reads what stands between brackets behind the opening one. More than one expression is an index,
or all that is printed. -/
def bracketed : Reader Expr := do
  let before ← get
  let isList := before.rest.length + 1 = before.listStart
  skipNewlines
  let found ← itemsFrom inner width
  skipNewlines
  expect ")"
  match found with
  | [_] => return .group found
  | _ =>
    if ← takeWord "in" then
      match ← peek with
      | some (.name text) =>
        skip
        return .isIn found (← nameAs true text)
      | _ => unexpected
    else if isList && (← endsList) then return .group found
    else unexpected

/-- Reads arguments between brackets as many as there have to be: the second one may have to be a
name. -/
def countedList (least most : Nat) (named : Bool) : (fuel count : Nat) → Reader (List Expr)
  | 0, _ => unexpected
  | fuel + 1, count => do
    skipNewlines
    let first ← if named && count = 1 then do
        match ← peek with
        | some (.name text) =>
          skip
          pure (.named (← nameAs true text))
        | _ => unexpected
      else inner .none
    skipNewlines
    let count := count + 1
    if (← isMark ")") && least ≤ count then
      skip
      return [first]
    else if (← isMark ",") && count < most then
      skip
      return first :: (← countedList least most named fuel count)
    else unexpected

/-- Reads a single value; `fuel` bounds the number of marks before it. -/
def primary : (fuel : Nat) → Reader Expr
  | 0 => unexpected
  | fuel + 1 => do
    match ← peek with
    | some (.number x _) =>
      skip
      return .number x
    | some (.text cs) =>
      skip
      return .text cs
    | some (.pattern cs) =>
      skip
      match Regex.read .records cs with
      | .ok e => return .pattern e
      | .error message =>
        refuse s!"regular expression compile failed ({message})\n{String.ofList cs}"
    | some (.name text) =>
      skip
      if ← takeMark "[" then
        let name ← nameAs true text
        let index ← itemsFrom inner width
        expect "]"
        return .element name index
      else return .named (← nameAs false text)
    | some (.call text) =>
      skip
      skip
      let arguments ← argumentList (argument inner)
      noteCall text arguments.length
      return .call text arguments
    | some (.builtin text) =>
      skip
      if ← takeMark "(" then
        let (least, most) := argumentCounts text
        if ["match", "split", "sub", "gsub"].contains text then
          return .builtin text (← countedList inner least most (text == "split") width 0)
        else
          let arguments ← argumentList (if text == "length" then argument inner else inner)
          if arguments.length < least || most < arguments.length then
            refuse s!"wrong number of arguments in call to {text}"
          else return .builtin text arguments
      else if text == "length" then return .builtin text []
      else unexpected
    | some (.word w) =>
      if w != "getline" then unexpected
      skip
      let target ← match ← peek with
        | some (.name _) => pure (some (← primary fuel))
        | some (.mark m) => if m == "$" then pure (some (← primary fuel)) else pure none
        | _ => pure none
      if ← takeMark "<" then return .getline target (some (← primary fuel)) none
      else return .getline target none none
    | some (.mark m) =>
      let before ← get
      skip
      match m with
      | "$" => return .field (← primary fuel)
      | "-" => return .minus (← primary fuel)
      | "+" => return .plus (← primary fuel)
      | "!" => return .negation (← primary fuel)
      | "(" => bracketed inner
      | "++" | "--" =>
        let target ← primary fuel
        if target.isTarget then return .step (m == "++") true target else unexpected
      | _ =>
        set before
        unexpected
    | _ => unexpected

/-- Reads what a record is taken into, if something comes next. -/
def recordTarget? : Reader (Option Expr) := do
  match ← peek with
  | some (.name _) => return some (← primary inner depth)
  | some (.mark m) => if m == "$" then return some (← primary inner depth) else return none
  | _ => return none

/-- Reads a value that may be stepped up or down, or be a command that is read from. -/
def stepped : Reader Expr := do
  let value ← primary inner depth
  let value ← do
    if !value.isTarget then pure value
    else if ← takeMark "++" then pure (.step true false value)
    else if ← takeMark "--" then pure (.step false false value)
    else pure value
  further (fun command => do
    let before ← get
    if ← takeMark "|" then
      if ← takeWord "getline" then
        return some (.getline (← recordTarget? inner) none (some command))
      else
        set before
        return none
    else return none) depth value

/-- Reads a value with signs before it, or a power; `fuel` bounds their number. -/
def signed : (fuel : Nat) → Reader Expr
  | 0 => unexpected
  | fuel + 1 => do
    if ← takeMark "!" then return .negation (← signed fuel)
    else if ← takeMark "-" then return .minus (← signed fuel)
    else if ← takeMark "+" then return .plus (← signed fuel)
    else
      let base ← stepped inner
      if ← takeMark "^" then return .compute .power base (← signed fuel)
      else return base

/-- Reads a row of operands with the same kind of operation between them. -/
def row (operand : Reader Expr) (operation? : Token → Option (Expr → Expr → Expr)) :
    Reader Expr := do
  let first ← operand
  further (fun left => do
    match ← peek with
    | none => return none
    | some token =>
      match operation? token with
      | none => return none
      | some make =>
        skip
        return some (make left (← operand))) width first

/-- Reads a product. -/
def products : Reader Expr :=
  row (signed inner depth) fun token => match token with
    | .mark "*" => some (.compute .multiply)
    | .mark "/" => some (.compute .divide)
    | .mark "%" => some (.compute .remainder)
    | _ => none

/-- Reads a sum. -/
def sums : Reader Expr :=
  row (products inner) fun token => match token with
    | .mark "+" => some (.compute .add)
    | .mark "-" => some (.compute .subtract)
    | _ => none

/-- Reads values that are joined. -/
def joinedValues : Reader Expr := do
  let first ← sums inner
  further (fun left => do
    if beginsJoined (← peek) then return some (.joined left (← sums inner))
    else return none) width first

/-- Reads comparisons. -/
def comparisons (limits : Limits) : Reader Expr :=
  row (joinedValues inner) fun token => match token with
    | .mark m =>
      if m == ">" && limits.noGreater then none
      else (comparisonOf? m).map fun comparison => .compare comparison
    | _ => none

/-- Reads questions for regular expressions. -/
def findings (limits : Limits) : Reader Expr :=
  row (comparisons inner limits) fun token => match token with
    | .mark "~" => some (.isFound false)
    | .mark "!~" => some (.isFound true)
    | _ => none

/-- Reads questions for indices. -/
def memberships (limits : Limits) : Reader Expr := do
  let first ← findings inner limits
  further (fun left => do
    if limits.noIn then return none
    else if ← takeWord "in" then
      match ← peek with
      | some (.name text) =>
        skip
        return some (.isIn [left] (← nameAs true text))
      | _ => unexpected
    else return none) width first

/-- Reads conditions that hold together. -/
def conjunctions (limits : Limits) : Reader Expr := do
  let first ← memberships inner limits
  further (fun left => do
    if ← takeMark "&&" then
      skipNewlines
      return some (.conjunction left (← memberships inner limits))
    else return none) width first

/-- Reads alternatives. -/
def disjunctions (limits : Limits) : Reader Expr := do
  let first ← conjunctions inner limits
  further (fun left => do
    if ← takeMark "||" then
      skipNewlines
      return some (.disjunction left (← conjunctions inner limits))
    else return none) width first

/-- Reads a choice. -/
def choices (limits : Limits) : Reader Expr := do
  let condition ← disjunctions inner limits
  if ← takeMark "?" then
    skipNewlines
    let yes ← inner limits
    skipNewlines
    expect ":"
    skipNewlines
    return .choice condition yes (← inner limits)
  else return condition

end Levels

/-- Reads an expression. -/
def expressionWithin : (fuel : Nat) → Limits → Reader Expr
  | 0, _ => unexpected
  | fuel + 1, limits => do
    let left ← choices (expressionWithin fuel) limits
    match ← peek with
    | some (.mark m) =>
      if !left.isTarget then return left
      else if m == "=" then
        skip
        skipNewlines
        return .assign left (← expressionWithin fuel limits)
      else match updateOf? m with
        | some operation =>
          skip
          skipNewlines
          return .update operation left (← expressionWithin fuel limits)
        | none => return left
    | _ => return left

/-- Reads an expression. -/
def expression (limits : Limits) : Reader Expr := expressionWithin depth limits

/-- Reads expressions between commas where a comparison by `>` would be an output. -/
def printedItems : (fuel : Nat) → Reader (List Expr)
  | 0 => unexpected
  | fuel + 1 => do
    let first ← expression ⟨true, false⟩
    if ← takeMark "," then
      skipNewlines
      return first :: (← printedItems fuel)
    else return [first]

/-! ### Statements -/

/-- Whether a statement ends here. -/
def endsStatement : Reader Bool := do
  match ← peek with
  | none | some .newline => return true
  | some (.mark m) => return m == ";" || m == "\x7d"
  | _ => return false

/-- Passes over the end of a statement. -/
def endStatement : Reader Unit := do
  match ← peek with
  | none => return
  | some .newline =>
    skip
    skipNewlines
  | some (.mark m) =>
    if m == ";" then
      skip
      skipNewlines
    else if m == "\x7d" then return
    else unexpected
  | _ => unexpected

/-- Reads what is printed, and where. -/
def printed : Reader (List Expr × Output) := do
  let output ← do
    match ← peek with
    | some (.mark m) => pure (m == ">" || m == ">>" || m == "|")
    | _ => pure false
  modify fun s => { s with listStart := s.rest.length }
  let items ← if output || (← endsStatement) then pure [] else printedItems depth
  let items := match items with
    | [.group found] => found
    | _ => items
  if ← takeMark ">" then return (items, .file false (← expression ⟨true, false⟩))
  else if ← takeMark ">>" then return (items, .file true (← expression ⟨true, false⟩))
  else if ← takeMark "|" then return (items, .command (← expression ⟨true, false⟩))
  else return (items, .standard)

/-- Reads a statement that contains no others, without its end. -/
def simpleStatement : Reader Statement := do
  match ← peek with
  | some (.word "print") =>
    skip
    let (items, output) ← printed
    return .print items output
  | some (.word "printf") =>
    skip
    let (items, output) ← printed
    if items.isEmpty then refuse "no arguments in call to printf"
    return .format items output
  | some (.word "delete") =>
    skip
    match ← peek with
    | some (.name text) =>
      skip
      let name ← nameAs true text
      if ← takeMark "[" then
        let index ← itemsFrom expression width
        expect "]"
        return .delete name (some index)
      else return .delete name none
    | _ => unexpected
  | _ => return .expression (← expression .none)

/-- Reads an expression if the statement does not end before it. -/
def optionalExpression : Reader (Option Expr) := do
  if ← endsStatement then return none else return some (← expression .none)

/-- Reads statements up to the closing brace; `fuel` bounds their number. -/
def blockItems (inner : Reader Statement) : (fuel : Nat) → Reader (List Statement)
  | 0 => unexpected
  | fuel + 1 => do
    skipEnds
    if (← isMark "\x7d") || (← peek).isNone then return []
    let first ← inner
    return first :: (← blockItems inner fuel)

/-- Reads statements between braces. -/
def block (inner : Reader Statement) : Reader Statement := do
  expect "\x7b"
  let statements ← blockItems inner width
  expect "\x7d"
  skipNewlines
  return .block statements

/-- Reads a loop that counts, or goes through an array, behind its opening bracket. -/
def loopFor (inner : Reader Statement) : Reader Statement := do
  let tokens : List Token := (← get).rest.map (·.token)
  match tokens with
  | .name element :: .word "in" :: .name table :: .mark ")" :: _ =>
    let name ← nameAs false element
    let table ← nameAs true table
    skip
    skip
    skip
    skip
    skipNewlines
    return .loopIn name table (← inLoop inner)
  | _ =>
    let start ← if ← isMark ";" then pure none else pure (some (← simpleStatement))
    expect ";"
    skipNewlines
    let test ← if ← isMark ";" then pure none else pure (some (← expression .none))
    expect ";"
    skipNewlines
    let next ← if ← isMark ")" then pure none else pure (some (← simpleStatement))
    expect ")"
    if ← takeMark ";" then
      skipNewlines
      return .loopFor start test next (.block [])
    skipNewlines
    return .loopFor start test next (← inLoop inner)

/-- Reads a statement with its end. -/
def statement : (fuel : Nat) → Reader Statement
  | 0 => unexpected
  | fuel + 1 => do
    match ← peek with
    | some (.mark "\x7b") => block (statement fuel)
    | some (.mark ";") =>
      skip
      skipNewlines
      return .block []
    | some (.word "if") =>
      skip
      expect "("
      let test ← expression .none
      expect ")"
      skipNewlines
      let yes ← statement fuel
      if ← takeWord "else" then
        skipNewlines
        return .condition test yes (some (← statement fuel))
      else return .condition test yes none
    | some (.word "while") =>
      skip
      expect "("
      let test ← expression .none
      expect ")"
      if ← takeMark ";" then
        skipNewlines
        return .loop test (.block [])
      skipNewlines
      return .loop test (← inLoop (statement fuel))
    | some (.word "do") =>
      skip
      skipNewlines
      let body ← inLoop (statement fuel)
      if !(← takeWord "while") then unexpected
      expect "("
      let test ← expression .none
      expect ")"
      endStatement
      return .loopAfter body test
    | some (.word "for") =>
      skip
      expect "("
      loopFor (statement fuel)
    | some (.word "next") =>
      skip
      if (← get).region != .main then refuse "improper use of next"
      endStatement
      return .next
    | some (.word "nextfile") =>
      skip
      if (← get).region != .main then refuse "improper use of nextfile"
      endStatement
      return .nextFile
    | some (.word "break") =>
      skip
      if (← get).loops = 0 then refuse "break statement outside of loop"
      endStatement
      return .leave
    | some (.word "continue") =>
      skip
      if (← get).loops = 0 then refuse "continue statement outside of loop"
      endStatement
      return .resume
    | some (.word "exit") =>
      skip
      let status ← optionalExpression
      endStatement
      return .exit status
    | some (.word "return") =>
      skip
      if (← get).region != .function then refuse "return outside function body"
      let value ← optionalExpression
      endStatement
      return .giveBack value
    | _ =>
      let done ← simpleStatement
      endStatement
      return done

/-! ### Programs -/

/-- Reads the names of parameters up to the closing bracket; `fuel` bounds their number. -/
def parameterNames : (fuel : Nat) → Reader (List String)
  | 0 => unexpected
  | fuel + 1 => do
    skipNewlines
    if ← takeMark ")" then return []
    match ← peek with
    | some (.name text) =>
      skip
      let _ ← takeMark ","
      return text :: (← parameterNames fuel)
    | _ => unexpected

/-- Reads what is done, between braces. -/
def action : Reader Statement := do
  let done ← block (statement depth)
  let _ ← takeMark ";"
  return done

/-- Reads rules and functions; `fuel` bounds their number. -/
def rulesFrom : (fuel : Nat) → Reader Program
  | 0 => return ⟨[], []⟩
  | fuel + 1 => do
    skipNewlines
    match ← peek with
    | none => return ⟨[], []⟩
    | some (.word w) =>
      if w == "function" || w == "func" then
        skip
        let name ← match ← peek with
          | some (.call text) | some (.name text) => pure text
          | _ => unexpected
        skip
        expect "("
        let parameters ← parameterNames 200
        skipNewlines
        modify fun s => { s with parameters, region := .function }
        let body ← action
        modify fun s =>
          { s with
            parameters := []
            region := .main
            defined := (name, parameters.length) :: s.defined }
        let rest ← rulesFrom fuel
        return { rest with functions := ⟨name, parameters.length, body⟩ :: rest.functions }
      else if w == "BEGIN" || w == "END" then
        skip
        modify fun s => { s with region := .frame }
        let body ← action
        modify fun s => { s with region := .main }
        let rest ← rulesFrom fuel
        let rule : Rule := ⟨if w == "BEGIN" then .first else .last, some body⟩
        return { rest with rules := rule :: rest.rules }
      else rule fuel
    | some (.mark m) =>
      if m == "\x7b" then
        let body ← action
        let rest ← rulesFrom fuel
        return { rest with rules := ⟨.always, some body⟩ :: rest.rules }
      else if m == "\x7d" then
        let line := (← get).line
        throw [faultAt line "extra '\x7d'", faultAt line "syntax error at or near end of line"]
      else rule fuel
    | some _ => rule fuel
where
  /-- Reads a rule with a pattern. -/
  rule (fuel : Nat) : Reader Program := do
    let start ← expression .none
    let trigger ← if ← takeMark "," then
        skipNewlines
        pure (Trigger.between start (← expression .none))
      else pure (Trigger.when start)
    let action ← if ← isMark "\x7b" then pure (some (← action)) else do
        let _ ← takeMark ";"
        pure none
    let rest ← rulesFrom fuel
    return { rest with rules := ⟨trigger, action⟩ :: rest.rules }

/-- What is wrong with the calls of functions that came later, or never. -/
def callFaults (s : Source) : List Fault :=
  s.calls.filterMap fun (name, arguments, line) =>
    match s.defined.lookup name with
    | none => some (faultAt (s.line + 1) s!"function {name} never defined")
    | some parameters =>
      if parameters < arguments then
        some (faultAt line s!"too many arguments in call to {name}")
      else none

/-- The variables that are there from the start, and whether they are arrays. -/
def firstKinds : List (String × Bool) :=
  [("ARGV", true), ("ENVIRON", true)] ++
    (["FS", "OFS", "ORS", "RS", "SUBSEP", "CONVFMT", "OFMT", "NR", "FNR", "NF", "RSTART",
      "RLENGTH", "FILENAME", "ARGC"].map fun name => (name, false))

/-- What a program is read from. -/
def sourceOf (found : List Placed) : Source where
  rest := found
  line := 1
  parameters := []
  region := .main
  loops := 0
  brackets := 0
  kinds := firstKinds
  listStart := 0
  defined := []
  calls := []

/-- Reads a program. -/
def read (cs : List Char) : Except (List Fault) Program :=
  match tokens cs with
  | .error fault => .error [fault]
  | .ok found =>
    match (rulesFrom (found.length + 1)).run (sourceOf found) with
    | .error faults => .error faults
    | .ok (program, s) =>
      let faults := callFaults s
      if faults.isEmpty then .ok program else .error faults

end IdlBuild.Tool.Awk
