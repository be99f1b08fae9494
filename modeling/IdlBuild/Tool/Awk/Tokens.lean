import IdlBuild.Tool.Awk.Program
import IdlBuild.Tool.Regex.Reading

/-!
# Tokens of programs for records

A program is cut into tokens first. A slash begins a regular expression where a value may begin, and
stands for a division elsewhere.
-/

namespace IdlBuild.Tool.Awk

/-- A token. -/
inductive Token where
  /-- A number, as it is written. -/
  | number (x : Float) (shown : String)
  | text (cs : List Char)
  | pattern (cs : List Char)
  | name (text : String)
  /-- A name with an opening bracket immediately behind it. -/
  | call (text : String)
  | builtin (text : String)
  | word (text : String)
  | mark (text : String)
  | newline

/-- A token with the number of its line. -/
structure Placed where
  token : Token
  line : Nat

/-- What is wrong with a program: where, and a message. -/
structure Fault where
  place : String
  message : String

/-- The words that have a meaning of their own. -/
def words : List String :=
  ["BEGIN", "END", "function", "func", "if", "else", "while", "for", "do", "break", "continue",
   "return", "delete", "in", "getline", "next", "nextfile", "exit", "print", "printf"]

/-- The functions that are there from the start. -/
def builtins : List String :=
  ["length", "substr", "index", "split", "sub", "gsub", "match", "sprintf", "sin", "cos", "atan2",
   "exp", "log", "sqrt", "int", "rand", "srand", "tolower", "toupper", "system", "close", "fflush",
   "systime", "mktime", "strftime"]

/-- The marks, longer ones first. -/
def marks : List String :=
  ["&&", "||", "==", "!=", "<=", ">=", ">>", "++", "--", "+=", "-=", "*=", "/=", "%=", "^=", "!~",
   "\x7b", "\x7d", "(", ")", "[", "]", ";", ",", "+", "-", "*", "/", "%", "^", "!", "<", ">", "|",
   "?", ":", "~", "$", "="]

/-- How a token is shown in a complaint. -/
def Token.shown : Token → String
  | number _ shown => shown
  | text cs => String.ofList cs
  | pattern cs => "/" ++ String.ofList cs ++ "/"
  | name t | call t | builtin t | word t | mark t => t
  | newline => "end of line"

/-- Whether a value may end with a token. -/
def Token.endsValue : Token → Bool
  | number .. | text _ | pattern _ | name _ => true
  | builtin t => t == "length"
  | mark t => [")", "]", "$", "++", "--"].contains t
  | _ => false

/-- The units of a text behind its opening quote, and what is behind it; escapes are replaced. -/
def readText : (fuel : Nat) → (taken : List Char) → List Char → Option (List Char × List Char)
  | 0, _, _ => none
  | _, _, [] => none
  | _, _, '\n' :: _ => none
  | _, taken, '"' :: rest => some (taken.reverse, rest)
  | fuel + 1, taken, '\\' :: c :: rest =>
    if '0' ≤ c && c ≤ '7' then
      let (value, rest) := Shell.Formats.octalDigits 3 0 (c :: rest)
      readText fuel (Char.ofNat (value % 0x100) :: taken) rest
    else match c with
      | 'x' =>
        let digits := (rest.takeWhile fun d => Shell.Arithmetic.digitValue d < 16).take 2
        let value := digits.foldl (fun n d => n * 16 + Shell.Arithmetic.digitValue d) 0
        if digits.isEmpty then readText fuel ('x' :: '\\' :: taken) rest
        else readText fuel (Char.ofNat value :: taken) (rest.drop digits.length)
      | '"' | '\\' => readText fuel (c :: taken) rest
      | '/' => readText fuel ('/' :: '\\' :: taken) rest
      | '\n' => readText fuel taken rest
      | _ =>
        match if c == 'e' then none else Shell.Formats.letterUnit? c with
        | some unit => readText fuel (unit :: taken) rest
        | none => readText fuel (c :: '\\' :: taken) rest
  | fuel + 1, taken, c :: rest => readText fuel (c :: taken) rest

/-- The source of a regular expression behind its slash, and what is behind it. -/
def readPattern : (fuel : Nat) → (inSet : Bool) → (taken : List Char) → List Char →
    Option (List Char × List Char)
  | 0, _, _, _ => none
  | _, _, _, [] => none
  | _, _, _, '\n' :: _ => none
  | fuel + 1, inSet, taken, '\\' :: c :: rest =>
    readPattern fuel inSet (if c == '/' then '/' :: taken else c :: '\\' :: taken) rest
  | fuel + 1, false, taken, '[' :: '^' :: ']' :: rest =>
    readPattern fuel true (']' :: '^' :: '[' :: taken) rest
  | fuel + 1, false, taken, '[' :: ']' :: rest => readPattern fuel true (']' :: '[' :: taken) rest
  | fuel + 1, false, taken, '[' :: rest => readPattern fuel true ('[' :: taken) rest
  | fuel + 1, true, taken, ']' :: rest => readPattern fuel false (']' :: taken) rest
  | fuel + 1, inSet, taken, c :: rest =>
    if c == '/' && !inSet then some (taken.reverse, rest)
    else readPattern fuel inSet (c :: taken) rest

/-- Whether a unit belongs to names. -/
def isNameUnit (c : Char) : Bool := c.isAlphanum || c == '_'

/-- The token of a name, given what comes behind it. -/
def nameToken (text : String) (rest : List Char) : Token :=
  if words.contains text then .word text
  else if builtins.contains text then .builtin text
  else if rest.head? == some '(' then .call text else .name text

/-- Cuts a program into tokens; those that were found stand in reverse, and `fuel` bounds their
number. -/
def tokensFrom : (fuel : Nat) → (line : Nat) → (found : List Placed) → List Char →
    Except Fault (List Placed)
  | 0, _, found, _ => .ok found.reverse
  | _, _, found, [] => .ok found.reverse
  | fuel + 1, line, found, c :: cs =>
    let push (token : Token) (rest : List Char) : Except Fault (List Placed) :=
      tokensFrom fuel line (⟨token, line⟩ :: found) rest
    let beginsValue := !(found.head?.any fun p => p.token.endsValue)
    if c == '\n' then tokensFrom fuel (line + 1) (⟨.newline, line⟩ :: found) cs
    else if isSpace c then tokensFrom fuel line found cs
    else if c == '#' then tokensFrom fuel line found (cs.dropWhile (· != '\n'))
    else if c == '\\' && cs.head? == some '\n' then tokensFrom fuel (line + 1) found (cs.drop 1)
    else if c == '\\' && cs.take 2 == ['\r', '\n'] then
      tokensFrom fuel (line + 1) found (cs.drop 2)
    else if c == '"' then
      match readText (cs.length + 1) [] cs with
      | some (text, rest) => push (.text text) rest
      | none =>
        let shown := String.ofList ((cs.takeWhile (· != '\n')).take 10)
        .error ⟨s!"line {line}", s!"runaway string constant \"{shown} ..."⟩
    else if c == '/' && beginsValue then
      match readPattern (cs.length + 1) false [] cs with
      | some (source, rest) => push (.pattern source) rest
      | none =>
        let shown := String.ofList ((cs.takeWhile (· != '\n')).take 10)
        .error ⟨s!"line {line}", s!"runaway regular expression /{shown} ..."⟩
    else if c.isDigit || (c == '.' && cs.head?.any Char.isDigit) then
      match Text.ReadReal.decimal? false (c :: cs) with
      | some read =>
        let shown := String.ofList ((c :: cs).take (cs.length + 1 - read.rest.length))
        push (.number (floatOf read.value) shown) read.rest
      | none => push (.number 0.0 "0") cs
    else if isNameUnit c then
      let text := String.ofList ((c :: cs).takeWhile isNameUnit)
      let rest := cs.drop (text.length - 1)
      push (nameToken text rest) rest
    else match marks.find? fun m => m.toList.isPrefixOf (c :: cs) with
      | some m => push (.mark m) (cs.drop (m.length - 1))
      | none => .error ⟨s!"{line}", s!"unexpected character '{c}'"⟩

/-- Cuts a program into tokens. -/
def tokens (cs : List Char) : Except Fault (List Placed) := tokensFrom (cs.length + 1) 1 [] cs

end IdlBuild.Tool.Awk
