import IdlBuild.Toml.Fault
import IdlBuild.Toml.Scalar
import IdlBuild.Toml.Table

/-!
# Configuration documents

A document is a sequence of lines: blank ones, comments, headers, and keys with values. Reading one
gives the table it describes, or nothing when it is not well formed. Values may be nested 80 deep,
and a key may have 80 parts. The readers of values take a fuel that the length of the text bounds.
-/

namespace IdlBuild.Toml

/-! ### Blanks and comments -/

/-- The rest after blanks on a line. -/
def dropBlanks (cs : List Char) : List Char := cs.dropWhile isBlankChar

/-- The rest after a comment, if there is one. -/
def dropComment : List Char → List Char
  | '#' :: rest => rest.dropWhile isPlain
  | cs => cs

/-- The rest after blanks, comments and line ends, from inside a comment or from outside one. -/
def dropGapsFrom (inComment : Bool) : List Char → List Char
  | [] => []
  | c :: cs =>
    if c = '\n' then dropGapsFrom false cs
    else if c = '\r' then if cs.head? = some '\n' then dropGapsFrom false cs else c :: cs
    else if inComment then if isPlain c then dropGapsFrom true cs else c :: cs
    else if isBlankChar c then dropGapsFrom false cs
    else if c = '#' then dropGapsFrom true cs
    else c :: cs

/-- The rest after blanks, comments and line ends. -/
def dropGaps (cs : List Char) : List Char := dropGapsFrom false cs

/-- The rest at the next line, if nothing but blanks and a comment stand before it. -/
def nextLine? (cs : List Char) : Option (List Char) :=
  match dropComment (dropBlanks cs) with
  | [] => some []
  | rest => afterNewline? rest

/-! ### Keys -/

/-- One part of a key; the fuel is at least its length. -/
def readKeyPart (fuel : Nat) : Reader String := fun cs =>
  match cs with
  | '"' :: rest => (readBasic fuel rest).map fun (text, rest) => (String.ofList text, rest)
  | '\'' :: rest => (readLiteral rest).map fun (text, rest) => (String.ofList text, rest)
  | _ =>
    let bare := cs.takeWhile isBareKeyChar
    if bare = [] then none else some (String.ofList bare, cs.dropWhile isBareKeyChar)

/-- The parts of a dotted key; the fuel is at least its length. -/
def readParts : (fuel : Nat) → Reader (List String)
  | 0, _ => none
  | fuel + 1, cs => do
    let (part, rest) ← readKeyPart fuel (dropBlanks cs)
    match dropBlanks rest with
    | '.' :: rest =>
      let (parts, rest) ← readParts fuel rest
      return (part :: parts, rest)
    | rest => return ([part], rest)

/-- How many parts a key may have, and how deep values may be nested. -/
def nestingLimit : Nat := 80

/-- A dotted key; the fuel is at least its length. -/
def readKey (fuel : Nat) : Reader (List String) := fun cs => do
  let (parts, rest) ← readParts fuel cs
  if nestingLimit < parts.length then none else return (parts, rest)

/-! ### Values -/

mutual

/-- A value. -/
def readValue : (fuel : Nat) → (depth : Nat) → Reader Value
  | 0, _, _ => none
  | fuel + 1, depth, cs =>
    match cs with
    | '"' :: _ | '\'' :: _ =>
      (readString (fuel + 1) cs).map fun (text, rest) => (.string text, rest)
    | '[' :: rest =>
      match depth with
      | 0 => none
      | depth + 1 => (readElements fuel depth rest).map fun (vs, rest) => (.array vs, rest)
    | '\x7b' :: rest =>
      match depth with
      | 0 => none
      | depth + 1 => do
        let (entries, rest) ← readMembers fuel depth [] rest
        return (.table (entriesToValues entries), rest)
    | _ => readScalar cs

/-- The rest of an array, up to its closing bracket. -/
def readElements : (fuel : Nat) → (depth : Nat) → Reader (List Value)
  | 0, _, _ => none
  | fuel + 1, depth, cs =>
    match dropGaps cs with
    | ']' :: rest => some ([], rest)
    | cs => do
      let (v, rest) ← readValue fuel depth cs
      match dropGaps rest with
      | ',' :: rest =>
        let (vs, rest) ← readElements fuel depth rest
        return (v :: vs, rest)
      | ']' :: rest => return ([v], rest)
      | _ => none

/-- The rest of an inline table, up to its closing brace. -/
def readMembers : (fuel : Nat) → (depth : Nat) → Entries → Reader Entries
  | 0, _, _, _ => none
  | fuel + 1, depth, entries, cs =>
    match dropGaps cs with
    | '\x7d' :: rest => some (entries, rest)
    | cs => do
      let (key, rest) ← readKey (fuel + 1) cs
      match rest with
      | '=' :: rest =>
        let (v, rest) ← readValue fuel depth (dropBlanks rest)
        let entries ← define key v entries
        match dropGaps rest with
        | ',' :: rest => readMembers fuel depth entries rest
        | '\x7d' :: rest => return (entries, rest)
        | _ => none
      | _ => none

end

/-! ### Lines -/

/-- The rest after the closing brackets of a header. -/
def afterBrackets? (doubled : Bool) : List Char → Option (List Char)
  | ']' :: rest =>
    if doubled then
      match rest with
      | ']' :: rest => some rest
      | _ => none
    else some rest
  | _ => none

/-- Reads the lines of a document into the entries read so far, under the header opened last. -/
def readBody : (fuel : Nat) → (header : List String) → Entries → List Char → Option Entries
  | 0, _, _, _ => none
  | fuel + 1, header, entries, cs =>
    match dropGaps cs with
    | [] => some entries
    | '[' :: '[' :: rest => do
      let (opened, rest) ← readKey (fuel + 1) rest
      let rest ← nextLine? (← afterBrackets? true rest)
      readBody fuel opened (← openElement opened entries) rest
    | '[' :: rest => do
      let (opened, rest) ← readKey (fuel + 1) rest
      let rest ← nextLine? (← afterBrackets? false rest)
      readBody fuel opened (← openTable opened entries) rest
    | cs => do
      let (key, rest) ← readKey (fuel + 1) cs
      match rest with
      | '=' :: rest =>
        let (v, rest) ← readValue (fuel + 1) nestingLimit (dropBlanks rest)
        let rest ← nextLine? rest
        readBody fuel header (← atHeader (define key v) header entries) rest
      | _ => none

/-- The text without a byte order mark in front. -/
def dropMark : List Char → List Char
  | '\uFEFF' :: rest => rest
  | cs => cs

/-- The table that a document describes. -/
def readDocument (text : String) : Option (List (String × Value)) :=
  let cs := dropMark text.toList
  (readBody (cs.length + 1) [] [] cs).map entriesToValues

end IdlBuild.Toml
