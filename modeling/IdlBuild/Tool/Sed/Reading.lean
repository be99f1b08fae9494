import IdlBuild.Tool.Regex.Reading
import IdlBuild.Tool.Sed.Script

/-!
# Reading scripts that edit streams

A script is read command by command. What is wrong is told with the number of units that were read
up to there.
-/

namespace IdlBuild.Tool.Sed

open Regex (Expression Dialect)

/-- What is wrong with a script: how many units were read before it turned out, and a message. -/
structure Fault where
  place : Nat
  message : String
deriving DecidableEq, Repr

/-- What is left of a script, and how much has been read. -/
structure Source where
  rest : List Char
  read : Nat

/-- Reads a part of a script. -/
abbrev Reader := StateT Source (Except Fault)

namespace Reader

/-- Refuses the script at the place that has been reached. -/
def refuse {α : Type} (message : String) : Reader α := do throw ⟨(← get).read, message⟩

/-- The next unit, which stays there. -/
def peek : Reader (Option Char) := return (← get).rest.head?

/-- Passes over the next units. -/
def skip (count : Nat) : Reader Unit :=
  modify fun s => { rest := s.rest.drop count, read := s.read + min count s.rest.length }

/-- The next unit. -/
def next : Reader (Option Char) := do
  let c ← peek
  skip 1
  return c

/-- Takes units as long as they pass a test. -/
def takeWhile (test : Char → Bool) : Reader (List Char) := do
  let taken := (← get).rest.takeWhile test
  skip taken.length
  return taken

/-- Passes over blanks. -/
def skipBlanks : Reader Unit := do
  let _ ← takeWhile fun c => isSpace c && c != '\n'

/-- A number. -/
def number : Reader Nat := do
  let digits ← takeWhile Char.isDigit
  return ((String.ofList digits).toNat?).getD 0

/-! ### Texts between marks -/

/-- The units up to a mark; a backslash before the mark is left out, and every other escape stays as
it is. The units come in reverse. -/
def untilMark (mark : Char) (isExpression : Bool) : (fuel : Nat) → (taken : List Char) →
    Reader (Option (List Char))
  | 0, _ => return none
  | fuel + 1, taken => do
    match ← next with
    | none => return none
    | some c =>
      if c == mark then return some taken.reverse
      else if c == '\\' then
        match ← next with
        | none => return none
        | some e =>
          if e == mark then untilMark mark isExpression fuel (e :: taken)
          else if e == 'n' && isExpression then untilMark mark isExpression fuel ('n' :: '\\' :: taken)
          else untilMark mark isExpression fuel (e :: '\\' :: taken)
      else if c == '\n' then return none
      else untilMark mark isExpression fuel (c :: taken)

/-- The units up to a mark, if it comes. -/
def upTo (mark : Char) (isExpression : Bool) : Reader (Option (List Char)) := do
  untilMark mark isExpression ((← get).rest.length + 1) []

end Reader

open Reader

/-! ### Escapes -/

/-- The unit that an escape with digits stands for, and what is behind it. -/
def numberedEscape? (c : Char) (cs : List Char) : Option (Char × List Char) :=
  let take (base count : Nat) : Option (Char × List Char) :=
    let digits := (cs.take count).takeWhile fun d => (Text.ReadReal.digitOf? base d).isSome
    if digits.isEmpty then none
    else some (Char.ofNat (Text.ReadReal.wholeOf base digits % 0x100), cs.drop digits.length)
  match c with
  | 'd' => take 10 3
  | 'o' => take 8 3
  | 'x' => take 16 2
  | 'c' =>
    match cs with
    | d :: rest => some (Char.ofNat (d.toUpper.toNat ^^^ 0x40), rest)
    | [] => none
  | _ => none

/-- The unit that an escape letter stands for. -/
def letterEscape? (c : Char) : Option Char :=
  match c with
  | 'a' => some '\x07'
  | 'f' => some '\x0c'
  | 'n' => some '\n'
  | 'r' => some '\r'
  | 't' => some '\t'
  | 'v' => some '\x0b'
  | _ => none

/-- A regular expression with its escapes replaced; `inSet` is how far a set has been read, and
`fuel` bounds the length. -/
def expressionUnits : (fuel : Nat) → (inSet : Bool) → List Char → List Char
  | 0, _, _ => []
  | _, _, [] => []
  | fuel + 1, inSet, '\\' :: c :: cs =>
    match letterEscape? c, numberedEscape? c cs with
    | some unit, _ => unit :: expressionUnits fuel inSet cs
    | none, some (unit, rest) =>
      let quoted := !inSet && "*.[]^$\\/+?()\x7b\x7d|".toList.contains unit
      (if quoted then ['\\', unit] else [unit]) ++ expressionUnits fuel inSet rest
    | none, none =>
      if inSet then '\\' :: expressionUnits fuel inSet (c :: cs)
      else '\\' :: c :: expressionUnits fuel inSet cs
  | fuel + 1, false, '[' :: '^' :: ']' :: cs => '[' :: '^' :: ']' :: expressionUnits fuel true cs
  | fuel + 1, false, '[' :: ']' :: cs => '[' :: ']' :: expressionUnits fuel true cs
  | fuel + 1, false, '[' :: cs => '[' :: expressionUnits fuel true cs
  | fuel + 1, true, '[' :: ':' :: cs =>
    let name := cs.takeWhile (· != ']')
    '[' :: ':' :: name ++ (cs.drop name.length).take 1 ++
      expressionUnits fuel true (cs.drop (name.length + 1))
  | fuel + 1, true, ']' :: cs => ']' :: expressionUnits fuel false cs
  | fuel + 1, inSet, c :: cs => c :: expressionUnits fuel inSet cs

/-- The pieces of a replacement; `fuel` bounds their number. -/
def replacementPieces : (fuel : Nat) → List Char → List Piece
  | 0, _ => []
  | _, [] => []
  | fuel + 1, '&' :: cs => .group 0 :: replacementPieces fuel cs
  | fuel + 1, '\\' :: c :: cs =>
    if c.isDigit then .group (c.toNat - 0x30) :: replacementPieces fuel cs
    else match c with
      | 'U' => .casing .upper :: replacementPieces fuel cs
      | 'L' => .casing .lower :: replacementPieces fuel cs
      | 'E' => .casing .none :: replacementPieces fuel cs
      | 'u' => .nextCasing .upper :: replacementPieces fuel cs
      | 'l' => .nextCasing .lower :: replacementPieces fuel cs
      | _ =>
        match letterEscape? c, numberedEscape? c cs with
        | some unit, _ => .text [unit] :: replacementPieces fuel cs
        | none, some (unit, rest) => .text [unit] :: replacementPieces fuel rest
        | none, none => .text [c] :: replacementPieces fuel cs
  | fuel + 1, c :: cs => .text [c] :: replacementPieces fuel cs

/-- The greatest number of a group that a replacement asks for. -/
def greatestGroup (pieces : List Piece) : Nat :=
  pieces.foldl (fun n piece => match piece with
    | .group k => max n k
    | _ => n) 0

/-! ### Expressions -/

/-- Reads a regular expression; an empty one is the one that was used last. -/
def soughtOf (extended : Bool) (folds byLines : Bool) (cs : List Char) : Reader Sought := do
  if cs.isEmpty then return ⟨none, folds, byLines⟩
  let dialect := if extended then Dialect.extendedOf true else Dialect.basic
  match Regex.read dialect (expressionUnits (cs.length + 1) false cs) with
  | .ok e => return ⟨some e, folds, byLines⟩
  | .error message => refuse message

/-- Reads the letters behind an expression in an address. -/
def addressFlags : (fuel : Nat) → (folds byLines : Bool) → Reader (Bool × Bool)
  | 0, folds, byLines => return (folds, byLines)
  | fuel + 1, folds, byLines => do
    match ← peek with
    | some 'I' =>
      skip 1
      addressFlags fuel true byLines
    | some 'M' =>
      skip 1
      addressFlags fuel folds true
    | _ => return (folds, byLines)

/-! ### Addresses -/

/-- Reads an address between marks, or a line number, if one comes next. -/
def address? (extended : Bool) : Reader (Option Address) := do
  match ← peek with
  | some '$' =>
    skip 1
    return some .last
  | some '/' =>
    skip 1
    delimited '/'
  | some '\\' =>
    skip 1
    match ← next with
    | some mark => delimited mark
    | none => refuse "unexpected `,'"
  | some c =>
    if !c.isDigit then return none
    let n ← number
    skipBlanks
    match ← peek with
    | some '~' =>
      skip 1
      skipBlanks
      return some (.stepped n (← number))
    | _ => return some (.line n)
  | none => return none
where
  /-- Reads an expression up to a mark. -/
  delimited (mark : Char) : Reader (Option Address) := do
    match ← upTo mark true with
    | none => refuse "unterminated address regex"
    | some cs =>
      let (folds, byLines) ← addressFlags 4 false false
      return some (.found (← soughtOf extended folds byLines cs))

/-- Reads the end of a range. -/
def rangeEnd (extended : Bool) : Reader RangeEnd := do
  match ← peek with
  | some '+' =>
    skip 1
    return .after (← number)
  | some '~' =>
    skip 1
    return .multiple (← number)
  | _ =>
    match ← address? extended with
    | some (.line n) => return .line n
    | some (.stepped n _) => return .line n
    | some .last => return .last
    | some (.found sought) => return .found sought
    | none => refuse "unexpected `,'"

/-- Reads the lines that a command is for. -/
def selection (extended : Bool) : Reader Selection := do
  let first ← address? extended
  skipBlanks
  let stop ← match first, ← peek with
    | some _, some ',' =>
      skip 1
      skipBlanks
      pure (some (← rangeEnd extended))
    | _, _ => pure none
  skipBlanks
  let zero := first == some (.line 0)
  let fromZero := zero && match stop with
    | some (.found _) => true
    | _ => false
  let negated ← do
    if (← peek) == some '!' then
      skip 1
      skipBlanks
      if (← peek) == some '!' then
        skip 1
        refuse "multiple `!'s"
      pure true
    else pure false
  if zero && !fromZero then
    skip 1
    refuse "invalid usage of line address 0"
  return ⟨first, stop, fromZero, negated⟩

/-! ### Parts of commands -/

/-- Goes on to the end of a command. -/
def endCommand : Reader Unit := do
  skipBlanks
  match ← peek with
  | none => return
  | some c =>
    if c == '\n' || c == ';' then skip 1
    else if c == '\x7d' || c == '#' then return
    else
      skip 1
      refuse "extra characters after command"

/-- Reads the rest of the line as the name of a file. -/
def fileName : Reader String := do
  skipBlanks
  let name ← takeWhile (· != '\n')
  if name.isEmpty then refuse "missing filename in r/R/w/W commands"
  return String.ofList name

/-- Reads the name of a label. -/
def labelName : Reader String := do
  skipBlanks
  let name ← takeWhile fun c => !isSpace c && c != ';'
  return String.ofList name

/-- A text with its backslashes removed, up to a line feed without one; `fuel` bounds its length. -/
def textUnits : (fuel : Nat) → Reader (List Char)
  | 0 => return []
  | fuel + 1 => do
    match ← next with
    | none => return []
    | some '\n' => return []
    | some '\\' =>
      match ← next with
      | none => return []
      | some c =>
        let rest := (← get).rest
        match letterEscape? c, numberedEscape? c rest with
        | some unit, _ => return unit :: (← textUnits fuel)
        | none, some (unit, behind) =>
          skip (rest.length - behind.length)
          return unit :: (← textUnits fuel)
        | none, none => return c :: (← textUnits fuel)
    | some c => return c :: (← textUnits fuel)

/-- Reads the text of a command: behind a backslash and a line feed, or in the same line. -/
def textOf : Reader (List Char) := do
  skipBlanks
  match ← peek with
  | none => refuse "expected \\ after `a', `c' or `i'"
  | some '\\' =>
    skip 1
    let blanks ← takeWhile fun c => isSpace c && c != '\n'
    match ← peek with
    | none => return []
    | some '\n' =>
      skip 1
      finish []
    | some c =>
      skip 1
      finish (blanks ++ [c])
  | some _ => finish []
where
  /-- Reads on to the end of the text. -/
  finish (front : List Char) : Reader (List Char) := do
    let text ← textUnits ((← get).rest.length + 1)
    let all := front ++ text
    return all ++ ['\n']

/-- The letters behind a replacement. -/
structure Flags where
  everywhere : Bool
  prints : Bool
  folds : Bool
  byLines : Bool
  number : Nat
  target : Option String

/-- Reads the letters behind a replacement; `fuel` bounds their number. -/
def substitutionFlags : (fuel : Nat) → Flags → Reader Flags
  | 0, flags => return flags
  | fuel + 1, flags => do
    match ← peek with
    | none => return flags
    | some c =>
      if c == '\x7d' || c == '#' then return flags
      skip 1
      match c with
      | 'g' =>
        if flags.everywhere then refuse "multiple `g' options to `s' command"
        substitutionFlags fuel { flags with everywhere := true }
      | 'p' =>
        if flags.prints then refuse "multiple `p' options to `s' command"
        substitutionFlags fuel { flags with prints := true }
      | 'i' | 'I' => substitutionFlags fuel { flags with folds := true }
      | 'm' | 'M' => substitutionFlags fuel { flags with byLines := true }
      | 'w' => return { flags with target := some (← fileName) }
      | '\n' | ';' => return flags
      | _ =>
        if isSpace c then substitutionFlags fuel flags
        else if c.isDigit then
          if flags.number != 0 then refuse "multiple number options to `s' command"
          let digits ← takeWhile Char.isDigit
          let n := ((String.ofList (c :: digits)).toNat?).getD 0
          if n = 0 then refuse "number option to `s' command may not be zero"
          substitutionFlags fuel { flags with number := n }
        else refuse "unknown option to `s'"

/-- Reads a replacement behind its letter. -/
def substitution (extended : Bool) : Reader Action := do
  let mark ← do
    match ← next with
    | some c =>
      if c == '\n' || c == '\\' then refuse "unterminated `s' command" else pure c
    | none => refuse "unterminated `s' command"
  let some pattern ← upTo mark true | refuse "unterminated `s' command"
  let some text ← upTo mark false | refuse "unterminated `s' command"
  let flags ← substitutionFlags ((← get).rest.length + 1)
    ⟨false, false, false, false, 0, none⟩
  let sought ← soughtOf extended flags.folds flags.byLines pattern
  let pieces := replacementPieces (text.length + 1) text
  let groups := (sought.expression.map Expression.groupCount).getD 9
  let greatest := greatestGroup pieces
  if groups < greatest then refuse s!"invalid reference \\{greatest} on `s' command's RHS"
  return .substitute ⟨sought, pieces, flags.everywhere, max 1 flags.number, flags.prints,
    flags.target⟩

/-- The units of one side of an exchange. -/
def exchangeUnits : List Char → List Char
  | [] => []
  | '\\' :: '\\' :: cs => '\\' :: exchangeUnits cs
  | '\\' :: c :: cs =>
    match letterEscape? c with
    | some unit => unit :: exchangeUnits cs
    | none => '\\' :: c :: exchangeUnits cs
  | c :: cs => c :: exchangeUnits cs

/-- Reads an exchange of units behind its letter. -/
def exchange : Reader Action := do
  let some mark ← next | refuse "unterminated `y' command"
  let some left ← upTo mark false | refuse "unterminated `y' command"
  let some right ← upTo mark false | refuse "unterminated `y' command"
  let first := exchangeUnits left
  let second := exchangeUnits right
  if first.length != second.length then refuse "strings for `y' command are different lengths"
  endCommand
  return .exchangeUnits (first.zip second)

/-- Reads a number that may stand behind a command. -/
def optionalNumber : Reader (Option Nat) := do
  skipBlanks
  match ← peek with
  | some c => if c.isDigit then return some (← number) else return none
  | none => return none

/-- A command without anything behind it. -/
def plainAction? (c : Char) : Option Action :=
  match c with
  | '=' => some .showNumber
  | 'd' => some .delete
  | 'D' => some .deleteFirst
  | 'F' => some .showName
  | 'g' => some .takeHold
  | 'G' => some .takeHoldMore
  | 'h' => some .hold
  | 'H' => some .holdMore
  | 'n' => some .next
  | 'N' => some .nextMore
  | 'p' => some .print
  | 'P' => some .printFirst
  | 'x' => some .exchange
  | 'z' => some .clear
  | _ => none

/-- Reads a command behind the lines that it is for. -/
def action (extended : Bool) (hasAddress : Bool) (c : Char) : Reader Action := do
  match c with
  | 'a' => return .append (← textOf)
  | 'i' => return .insert (← textOf)
  | 'c' => return .change (← textOf)
  | ':' =>
    if hasAddress then refuse ": doesn't want any addresses"
    let name ← labelName
    if name.isEmpty then refuse "\":\" lacks a label"
    endCommand
    return .label name
  | 'b' =>
    let name ← labelName
    endCommand
    return .branch name
  | 't' =>
    let name ← labelName
    endCommand
    return .branchIf name
  | 'T' =>
    let name ← labelName
    endCommand
    return .branchUnless name
  | 'r' => return .readFile (← fileName)
  | 'R' => return .readLine (← fileName)
  | 'w' => return .writeFile (← fileName)
  | 'W' => return .writeFirst (← fileName)
  | 's' => substitution extended
  | 'y' => exchange
  | 'q' | 'Q' =>
    let status := ((← optionalNumber).getD 0) % 256
    endCommand
    return if c == 'q' then .quit status else .quitQuietly status
  | 'l' | 'L' =>
    let width ← optionalNumber
    endCommand
    return .list width
  | 'v' =>
    let _ ← labelName
    endCommand
    return .nothing
  | _ =>
    match plainAction? c with
    | some plain =>
      endCommand
      return plain
    | none => refuse s!"unknown command: `{c}'"

/-! ### Scripts -/

/-- Reads commands behind those that are there already; `open'` are the places of the blocks that
are open, and `fuel` bounds the number of commands. -/
def commandsFrom (extended : Bool) : (fuel : Nat) → (open' : List Nat) → Array Command →
    Reader (List Nat × Array Command)
  | 0, open', found => return (open', found)
  | fuel + 1, open', found => do
    let _ ← takeWhile fun c => isSpace c || c == ';'
    match ← peek with
    | none => return (open', found)
    | some '#' =>
      let _ ← takeWhile (· != '\n')
      commandsFrom extended fuel open' found
    | some _ =>
      let selected ← selection extended
      match ← next with
      | none => refuse "missing command"
      | some '\x7b' =>
        commandsFrom extended fuel (found.size :: open') (found.push ⟨selected, .block 0⟩)
      | some '\x7d' =>
        match open' with
        | [] => refuse "unexpected `\x7d'"
        | start :: others =>
          if selected.first.isSome then refuse "\x7d doesn't want any addresses"
          endCommand
          let closed := found.modify start fun command =>
            { command with action := .block found.size }
          commandsFrom extended fuel others (closed.push ⟨selected, .blockEnd⟩)
      | some c =>
        let done ← action extended selected.first.isSome c
        commandsFrom extended fuel open' (found.push ⟨selected, done⟩)

/-- A part of a script: how complaints name it, and its text. -/
structure Part where
  name : Nat → List Char → String
  text : List Char

/-- Reads the parts of a script, one after the other. -/
def readParts (extended : Bool) : List Part → (open' : List Nat) → Array Command →
    Except String (Array Command)
  | [], open', found =>
    if open'.isEmpty then .ok found
    else .error "-e expression #1, char 0: unmatched `\x7b'"
  | part :: rest, open', found =>
    match (commandsFrom extended (part.text.length + 1) open' found).run ⟨part.text, 0⟩ with
    | .error fault =>
      .error s!"{part.name fault.place (part.text.take fault.place)}: {fault.message}"
    | .ok ((open', found), _) => readParts extended rest open' found

/-- Where a label leads. -/
def labelPlace? (commands : Array Command) (name : String) : Option Nat :=
  if name.isEmpty then some commands.size
  else commands.toList.findIdx? fun command => command.action == .label name

/-- The label that a jump asks for and that is nowhere. -/
def missingLabel? (commands : Array Command) : Option String :=
  commands.toList.findSome? fun command =>
    match command.action with
    | .branch name | .branchIf name | .branchUnless name =>
      if (labelPlace? commands name).isNone then some name else none
    | _ => none

end IdlBuild.Tool.Sed
