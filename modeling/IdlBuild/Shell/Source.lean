import IdlBuild.Shell.Script

/-!
# Reading from a script

What is left of a script, which of its lines comes next, and which other texts stand for command
names. Readers of words and commands are built from what is here.
-/

namespace IdlBuild.Shell

/-- Why a script could not be read, and on which line. -/
structure ReadFault where
  message : String
  line : Nat
deriving DecidableEq, Repr

/-- A script that is being read. -/
structure Source where
  rest : List Char
  /-- The number of line feeds of the whole script. -/
  total : Nat
  /-- How many line feeds were cut out behind the current line, while at least as many as the second
  number are left. -/
  cutOut : Nat × Nat
  /-- The names that other texts stand for. -/
  aliases : List (String × String)
  /-- The names whose texts are being read, each with the number of characters behind its text. -/
  replacing : List (String × Nat)
  /-- The number of characters behind a text that lets the word after it be a name too. -/
  replacesNext : Option Nat

namespace Source

/-- The whole of a script. -/
def ofText (aliases : List (String × String)) (total : Nat) (cs : List Char) : Source :=
  ⟨cs, total, (0, 0), aliases, [], none⟩

/-- The line of the next character. -/
def line (source : Source) : Nat :=
  let left := source.rest.count '\n'
  let (count, mark) := source.cutOut
  source.total + 1 - left - (if mark ≤ left then count else 0)

end Source

/-- A reader of the characters of a script. -/
abbrev Reader (α : Type) := StateT Source (Except ReadFault) α

namespace Reader

/-- The characters that are left. -/
def rest : Reader (List Char) := return (← get).rest

/-- Goes on with other characters. -/
def setRest (cs : List Char) : Reader Unit := modify fun source => { source with rest := cs }

/-- Refuses the script here. -/
def refuse {α : Type} (message : String) : Reader α := do
  throw ⟨message, (← get).line⟩

/-- The next character, which stays. -/
def peek? : Reader (Option Char) := return (← rest).head?

/-- Passes over some characters. -/
def skip (count : Nat) : Reader Unit := do setRest ((← rest).drop count)

/-- The characters up to the first that fails the test, which stays. -/
def takeWhile (test : Char → Bool) : Reader (List Char) := do
  let cs ← rest
  setRest (cs.dropWhile test)
  return cs.takeWhile test

/-- Reads a text that stands by itself and begins on a line, and then goes on here. -/
def within {α : Type} (text : List Char) (line : Nat) (reader : Reader α) : Reader α := do
  let outer ← get
  set { outer with
    rest := text, total := text.count '\n' + line - 1, cutOut := (0, 0), replacing := [] }
  let a ← reader
  set outer
  return a

/-! ### Characters -/

/-- Whether a character ends a word. -/
def endsWord (c : Char) : Bool := " \t\n;&|<>()".toList.contains c

/-- Whether a name can start with a character. -/
def startsName (c : Char) : Bool := c.isAlpha || c == '_'

/-- Whether a name can go on with a character. -/
def continuesName (c : Char) : Bool := c.isAlphanum || c == '_'

/-- Whether a text is a name. -/
def isName (cs : List Char) : Bool :=
  match cs with
  | [] => false
  | c :: _ => startsName c && cs.all continuesName

/-- Whether a parameter can be named by one mark. -/
def isSpecialParameter (c : Char) : Bool := "@*#?-$!".toList.contains c || c.isDigit

/-! ### Between the words -/

/-- The characters without blanks and a comment in front. -/
def withoutBlanks : List Char → List Char
  | ' ' :: cs | '\t' :: cs => withoutBlanks cs
  | '\\' :: '\n' :: cs => withoutBlanks cs
  | '#' :: cs => cs.dropWhile (· != '\n')
  | cs => cs

/-- The characters without blanks, comments and line feeds in front; `fuel` bounds their number. -/
def withoutLines : (fuel : Nat) → List Char → List Char
  | 0, cs => cs
  | fuel + 1, cs =>
    match withoutBlanks cs with
    | '\n' :: cs => withoutLines fuel cs
    | cs => cs

/-- Passes over blanks and a comment. -/
def skipBlanks : Reader Unit := do setRest (withoutBlanks (← rest))

/-- Passes over blanks, comments and line feeds. -/
def skipLines : Reader Unit := do
  let cs ← rest
  setRest (withoutLines (cs.length + 1) cs)

/-! ### Names that texts stand for -/

/-- The plain word that comes next, if it is one. -/
def plainWord? (cs : List Char) : Option (List Char × List Char) :=
  let word := cs.takeWhile fun c => !endsWord c && !"'\"\\$`".toList.contains c
  let after := cs.drop word.length
  match word, after with
  | [], _ => none
  | _, [] => some (word, [])
  | _, c :: _ => if endsWord c then some (word, after) else none

/-- Puts the text that the next word stands for in its place; `fuel` bounds how often. -/
def replaceName : (fuel : Nat) → Reader Unit
  | 0 => return
  | fuel + 1 => do
    let source ← get
    match plainWord? source.rest with
    | none => return
    | some (word, after) =>
      let name := String.ofList word
      let inUse := source.replacing.any fun (other, behind) =>
        other == name && behind < source.rest.length
      match if inUse then none else source.aliases.lookup name with
      | none => return
      | some text =>
        let endsBlank := match text.toList.getLast? with
          | some c => c == ' ' || c == '\t'
          | none => false
        set { source with
          rest := withoutBlanks (text.toList ++ after)
          replacing := (name, after.length) :: source.replacing
          replacesNext := if endsBlank then some after.length else source.replacesNext }
        replaceName fuel

/-- How often one word may be replaced. -/
def replacements : Nat := 64

/-- Replaces a word behind a text that asks for that. -/
def replaceNext : Reader Unit := do
  match (← get).replacesNext with
  | none => return
  | some behind =>
    if (← rest).length ≤ behind then
      modify fun source => { source with replacesNext := none }
      replaceName replacements

end Reader

end IdlBuild.Shell
