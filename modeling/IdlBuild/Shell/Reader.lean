import IdlBuild.Shell.WordReader
import IdlBuild.Text.Fields

/-!
# Reading commands

A script is read one line of commands after another, as it is run: a fault in a later line is met
only after the lines before it have been run, and a name that comes to stand for another text does
so from the next line on.
-/

namespace IdlBuild.Shell.Reader

/-! ### What comes next -/

/-- Whether a word that stands for itself comes next. -/
def startsWithWord (word : String) (cs : List Char) : Bool :=
  word.toList.isPrefixOf cs &&
    match cs.drop word.length with
    | [] => true
    | c :: _ => endsWord c

/-- The words that end a list of commands. -/
def closingWords : List String :=
  ["then", "else", "elif", "fi", "do", "done", "esac", "\x7d"]

/-- The other words that stand for themselves. -/
def openingWords : List String :=
  ["if", "while", "until", "for", "case", "in", "!", "\x7b"]

/-- The closing word that comes next, if one does. -/
def closingWord? (cs : List Char) : Option String := closingWords.find? fun w => startsWithWord w cs

/-- Whether a list of commands that has begun ends here. -/
def endsList (cs : List Char) : Bool :=
  match cs with
  | [] | ')' :: _ | ';' :: ';' :: _ => true
  | _ => (closingWord? cs).isSome

/-- Whether a change of a descriptor comes next. -/
def startsRedirection (cs : List Char) : Bool :=
  match cs.dropWhile Char.isDigit with
  | c :: _ => c == '<' || c == '>'
  | [] => false

/-- What comes next, for messages. A word that stands for itself does so only where a command can
begin. -/
def described (words : List String) (cs : List Char) : String :=
  match cs with
  | [] => "end of file"
  | '\n' :: _ => "newline"
  | '&' :: '&' :: _ => "\"&&\""
  | '|' :: '|' :: _ => "\"||\""
  | ';' :: ';' :: _ => "\";;\""
  | c :: _ =>
    if startsRedirection cs then "redirection"
    else if endsWord c then s!"\"{c}\""
    else match words.find? fun w => startsWithWord w cs with
      | some w => s!"\"{w}\""
      | none => "word"

/-- Refuses what comes next. -/
def unexpected {α : Type} (expected : Option String) (words : List String) : Reader α := do
  let what := described words (← rest)
  refuse (match expected with
    | none => s!"Syntax error: {what} unexpected"
    | some e => s!"Syntax error: {what} unexpected (expecting {e})")

/-- Refuses what comes next where a command could begin. -/
def unexpectedCommand {α : Type} (expected : Option String) : Reader α :=
  unexpected expected (closingWords ++ openingWords)

/-- Passes over a word that has to come next. -/
def require (word : String) : Reader Unit := do
  skipLines
  if startsWithWord word (← rest) then skip word.length
  else unexpectedCommand (some s!"\"{word}\"")

/-- Passes over a parenthesis that has to come next. -/
def requireClosed : Reader Unit := do
  skipLines
  match ← peek? with
  | some ')' => skip 1
  | _ => unexpectedCommand (some "\")\"")

/-! ### Redirections -/

/-- The lines of a document up to its last one and the lines after that, if it has a last one. -/
def documentLines (strip : Bool) (last : List Char) :
    List (List Char) → Option (List (List Char) × List (List Char))
  | [] => none
  | line :: lines =>
    let line := if strip then line.dropWhile (· == '\t') else line
    if line = last then some ([], lines)
    else (documentLines strip last lines).map fun (body, after) => (line :: body, after)

/-- The body of a document, which starts on the next line and is cut out there. A document without a
last line goes on to the end of the script. -/
def documentBody (strip : Bool) (last : List Char) : Reader (List Char) := do
  let source ← get
  let (line, after) := source.rest.span (· != '\n')
  match after with
  | [] => return []
  | _ :: cs =>
    let lines := Text.fields '\n' cs
    let (body, after) := match documentLines strip last lines with
      | some (body, after) => (body.flatMap (· ++ ['\n']), Text.intercalated '\n' after)
      | none =>
        let stripped := if strip then lines.map (·.dropWhile (· == '\t')) else lines
        (Text.intercalated '\n' stripped, [])
    let rest := line ++ '\n' :: after
    let left := source.rest.count '\n'
    let earlier := if source.cutOut.2 ≤ left then source.cutOut.1 else 0
    let cutOut := (earlier + left - rest.count '\n', rest.count '\n')
    set { source with rest, cutOut }
    return body

/-- The text of a word as it was written, without its quotes, and whether it had any. -/
def plainText : Word → List Char × Bool
  | [] => ([], false)
  | .text text quoted :: rest =>
    let (after, q) := plainText rest
    (text.toList ++ after, quoted || q)
  | _ :: rest => plainText rest

/-- The descriptor that a redirection changes, if a redirection comes next, and the characters from
its operator on. -/
def redirectionStart? (cs : List Char) : Option (Option Nat × List Char) :=
  if startsRedirection cs then
    let digits := cs.takeWhile Char.isDigit
    some (if digits.isEmpty then none else (String.ofList digits).toNat?, cs.drop digits.length)
  else none

/-- A redirection, whose operator comes next. -/
def redirection (commands : InnerReader) (descriptor : Option Nat) : Reader Redirection := do
  let target : Reader Word := do
    skipBlanks
    let w ← word commands
    if w.isEmpty then unexpected none [] else return w
  let file (mode : OpenMode) (other : Nat) (after : List Char) : Reader Redirection := do
    setRest after
    return .file (descriptor.getD other) mode (← target)
  let copy (other : Nat) (after : List Char) : Reader Redirection := do
    setRest after
    return .duplicate (descriptor.getD other) (← target)
  match ← rest with
  | '<' :: '<' :: after =>
    let strip := after.head? == some '-'
    setRest (if strip then after.tail else after)
    let (text, quoted) := plainText (← target)
    let body ← documentBody strip text
    let content ← if quoted then pure [Piece.text (String.ofList body) true] else do
      let line := (← get).line
      within body (line + 1) (pieces commands (body.length + 1) .document)
    return .document (descriptor.getD 0) content
  | '<' :: '&' :: after => copy 0 after
  | '<' :: '>' :: after => file .both 0 after
  | '<' :: after => file .input 0 after
  | '>' :: '>' :: after => file .appending 1 after
  | '>' :: '&' :: after => copy 1 after
  | '>' :: '|' :: after => file .clobbering 1 after
  | '>' :: after => file .output 1 after
  | _ => unexpected none []

/-- The redirections that come next; `fuel` bounds their number. -/
def redirections (commands : InnerReader) : (fuel : Nat) → Reader (List Redirection)
  | 0 => return []
  | fuel + 1 => do
    skipBlanks
    match redirectionStart? (← rest) with
    | none => return []
    | some (descriptor, after) =>
      setRest after
      let first ← redirection commands descriptor
      return first :: (← redirections commands fuel)

/-! ### Simple commands -/

/-- The assignment that a word is, if it is one. -/
def assignment? : Word → Option (String × Word)
  | .text text false :: rest =>
    let (name, after) := text.toList.span continuesName
    match after with
    | '=' :: value =>
      if isName name then
        some (String.ofList name,
          if value.isEmpty then rest else .text (String.ofList value) false :: rest)
      else none
    | _ => none
  | _ => none

/-- The assignments, words and redirections of a simple command. -/
structure Parts where
  assignments : List (String × Word)
  words : List Word
  redirections : List Redirection

/-- Reads the rest of a simple command; `fuel` bounds the number of its parts. -/
def simpleParts (commands : InnerReader) : (fuel : Nat) → (begun : Bool) → Reader Parts
  | 0, _ => return ⟨[], [], []⟩
  | fuel + 1, begun => do
    skipBlanks
    if begun then replaceNext else replaceName replacements
    match redirectionStart? (← rest) with
    | some (descriptor, after) =>
      setRest after
      let first ← redirection commands descriptor
      let parts ← simpleParts commands fuel begun
      return { parts with redirections := first :: parts.redirections }
    | none =>
      match ← peek? with
      | none => return ⟨[], [], []⟩
      | some c =>
        if endsWord c then return ⟨[], [], []⟩
        else
          let w ← word commands
          match if begun then none else assignment? w with
          | some assignment =>
            let parts ← simpleParts commands fuel false
            return { parts with assignments := assignment :: parts.assignments }
          | none =>
            let parts ← simpleParts commands fuel true
            return { parts with words := w :: parts.words }

/-- The name of a function that is defined next, and the characters after its parentheses begin. -/
def definition? (cs : List Char) : Option (List Char × List Char) :=
  match plainWord? cs with
  | none => none
  | some (name, after) =>
    match withoutBlanks after with
    | '(' :: after => some (name, withoutBlanks after)
    | _ => none

/-- The builtins that no function can have the name of. -/
def specialNames : List String :=
  [".", ":", "break", "continue", "eval", "exec", "exit", "export", "readonly", "return", "set",
   "shift", "times", "trap", "unset"]

/-! ### Commands -/

/-- The words of a loop over fields; `fuel` bounds their number. -/
def loopWords (commands : InnerReader) : (fuel : Nat) → Reader (List Word)
  | 0 => return []
  | fuel + 1 => do
    skipBlanks
    match ← peek? with
    | none => return []
    | some c =>
      if endsWord c then return []
      else
        let w ← word commands
        return w :: (← loopWords commands fuel)

/-- The patterns of a clause; `fuel` bounds their number. -/
def clausePatterns (commands : InnerReader) : (fuel : Nat) → Reader (List Word)
  | 0 => return []
  | fuel + 1 => do
    skipBlanks
    if startsRedirection (← rest) then unexpected (some "word") []
    let w ← word commands
    if w.isEmpty then unexpected (some "word") []
    skipBlanks
    match ← peek? with
    | some '|' =>
      skip 1
      return w :: (← clausePatterns commands fuel)
    | some ')' =>
      skip 1
      return [w]
    | _ => unexpected (some "\")\"") []

/-- The name of a loop's variable. -/
def loopName : Reader String := do
  skipBlanks
  match plainWord? (← rest) with
  | some (name, after) =>
    if isName name then
      setRest after
      return String.ofList name
    else refuse "Syntax error: Bad for loop variable"
  | none => refuse "Syntax error: Bad for loop variable"

mutual

/-- A list of commands up to where it ends; `fuel` bounds the depth of reading. -/
def list : (fuel : Nat) → (canBeEmpty : Bool) → Reader Command
  | 0, _ => refuse "Syntax error: script too long"
  | fuel + 1, canBeEmpty => do
    skipLines
    replaceName replacements
    if (← rest).isEmpty || (canBeEmpty && endsList (← rest)) then return .nothing
    let first ← andOr fuel
    skipBlanks
    match ← rest with
    | ';' :: ';' :: _ => return first
    | '&' :: _ => skip 1; return .sequence (.background first) (← list fuel true)
    | ';' :: _ => skip 1; return .sequence first (← list fuel true)
    | '\n' :: _ => skip 1; return .sequence first (← list fuel true)
    | _ => return first

/-- A script inside a word. -/
def inner : (fuel : Nat) → InnerReader
  | 0, _ => refuse "Syntax error: script too long"
  | fuel + 1, closed => do
    let script ← list fuel true
    if closed then requireClosed
    return script

/-- Commands joined by `&&` and `||`. -/
def andOr : (fuel : Nat) → Reader Command
  | 0 => refuse "Syntax error: script too long"
  | fuel + 1 => do
    let first ← pipeline fuel
    andOrRest fuel first

/-- The rest of commands joined by `&&` and `||`, which are taken from the left. -/
def andOrRest : (fuel : Nat) → Command → Reader Command
  | 0, _ => refuse "Syntax error: script too long"
  | fuel + 1, first => do
    skipBlanks
    match ← rest with
    | '&' :: '&' :: after =>
      setRest after
      skipLines
      let second ← pipeline fuel
      andOrRest fuel (.conjunction first second)
    | '|' :: '|' :: after =>
      setRest after
      skipLines
      let second ← pipeline fuel
      andOrRest fuel (.disjunction first second)
    | _ => return first

/-- Commands joined by `|`, perhaps with the outcome turned round. -/
def pipeline : (fuel : Nat) → Reader Command
  | 0 => refuse "Syntax error: script too long"
  | fuel + 1 => do
    skipBlanks
    replaceName replacements
    if startsWithWord "!" (← rest) then
      skip 1
      return .negated (← joined fuel)
    else joined fuel

/-- Commands joined by `|`. -/
def joined : (fuel : Nat) → Reader Command
  | 0 => refuse "Syntax error: script too long"
  | fuel + 1 => do
    let first ← command fuel
    skipBlanks
    match ← rest with
    | '|' :: '|' :: _ => return first
    | '|' :: after =>
      setRest after
      skipLines
      return .pipeline first (← joined fuel)
    | _ => return first

/-- One command. -/
def command : (fuel : Nat) → Reader Command
  | 0 => refuse "Syntax error: script too long"
  | fuel + 1 => do
    skipBlanks
    replaceName replacements
    let line := (← get).line
    let commands := inner fuel
    let after (body : Command) : Reader Command := do
      let changes ← redirections commands ((← rest).length + 1)
      return if changes.isEmpty then body else .redirected line body changes
    let cs ← rest
    match cs with
    | '(' :: inside =>
      setRest inside
      let body ← list fuel false
      requireClosed
      after (.subshell body)
    | _ =>
      if startsWithWord "\x7b" cs then
        skip 1
        let body ← list fuel false
        require "\x7d"
        after body
      else if startsWithWord "if" cs then
        skip 2
        after (← conditional fuel)
      else if startsWithWord "while" cs || startsWithWord "until" cs then
        skip 5
        let condition ← list fuel false
        require "do"
        let body ← list fuel false
        require "done"
        after (.loop (startsWithWord "while" cs) condition body)
      else if startsWithWord "for" cs then
        skip 3
        let name ← loopName
        skipLines
        let words ← if startsWithWord "in" (← rest) then do
            skip 2
            let words ← loopWords commands ((← rest).length + 1)
            match ← rest with
            | ';' :: ';' :: _ => unexpected none []
            | '\n' :: _ => pure ()
            | ';' :: _ => skip 1
            | _ => unexpected none []
            pure (some words)
          else do
            match ← rest with
            | ';' :: ';' :: _ => pure ()
            | ';' :: _ => skip 1
            | _ => pure ()
            pure none
        require "do"
        let body ← list fuel false
        require "done"
        after (.each line name words body)
      else if startsWithWord "case" cs then
        skip 4
        skipBlanks
        let subject ← word commands
        if subject.isEmpty then unexpected (some "word") []
        require "in"
        let clauses ← caseClauses fuel
        after (.choice line subject clauses)
      else if (closingWord? cs).isSome || startsWithWord "!" cs || startsWithWord "in" cs then
        unexpectedCommand none
      else match definition? cs with
        | some (name, inside) =>
          setRest inside
          if inside.head? != some ')' then unexpected (some "\")\"") []
          skip 1
          if !isName name || specialNames.contains (String.ofList name) then
            refuse "Syntax error: Bad function name"
          skipLines
          return .define (String.ofList name) (← command fuel)
        | none =>
          let parts ← simpleParts commands (cs.length + 64) false
          if parts.assignments.isEmpty && parts.words.isEmpty && parts.redirections.isEmpty then
            unexpectedCommand none
          else return .simple line parts.assignments parts.words parts.redirections

/-- A conditional after its first word. -/
def conditional : (fuel : Nat) → Reader Command
  | 0 => refuse "Syntax error: script too long"
  | fuel + 1 => do
    let condition ← list fuel false
    require "then"
    let body ← list fuel false
    skipLines
    let cs ← rest
    if startsWithWord "elif" cs then
      skip 4
      return .conditional condition body (← conditional fuel)
    else if startsWithWord "else" cs then
      skip 4
      let otherwise ← list fuel false
      require "fi"
      return .conditional condition body otherwise
    else
      require "fi"
      return .conditional condition body .nothing

/-- The clauses of a choice up to its last word. -/
def caseClauses : (fuel : Nat) → Reader (List (List Word × Command))
  | 0 => refuse "Syntax error: script too long"
  | fuel + 1 => do
    skipLines
    let cs ← rest
    if startsWithWord "esac" cs then
      skip 4
      return []
    if cs.head? == some '(' then skip 1
    let patterns ← clausePatterns (inner fuel) (cs.length + 1)
    let body ← list fuel true
    skipLines
    match ← rest with
    | ';' :: ';' :: after =>
      setRest after
      return (patterns, body) :: (← caseClauses fuel)
    | after =>
      if startsWithWord "esac" after then
        skip 4
        return [(patterns, body)]
      else unexpectedCommand (some "\";;\"")

end

/-- The commands of one line, up to and with its line feed. -/
def lineFrom : (fuel : Nat) → Reader Command
  | 0 => refuse "Syntax error: script too long"
  | fuel + 1 => do
    skipBlanks
    replaceName replacements
    match ← rest with
    | [] => return .nothing
    | '\n' :: after => setRest after; return .nothing
    | cs =>
      let first ← andOr (12 * (cs.length + 2))
      skipBlanks
      match ← rest with
      | [] => return first
      | ';' :: ';' :: _ => unexpectedCommand none
      | '&' :: after => setRest after; return .sequence (.background first) (← lineFrom fuel)
      | ';' :: after => setRest after; return .sequence first (← lineFrom fuel)
      | '\n' :: after => setRest after; return first
      | _ => unexpectedCommand none

/-- The commands of the next line of a script of `total` line feeds, and what comes after it. -/
def nextLine (aliases : List (String × String)) (total : Nat) (cs : List Char) :
    Except ReadFault (Command × List Char) :=
  match (lineFrom (cs.length + 1)).run (.ofText aliases total cs) with
  | .ok (command, source) => .ok (command, source.rest)
  | .error fault => .error fault

end IdlBuild.Shell.Reader
