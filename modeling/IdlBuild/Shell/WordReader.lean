import IdlBuild.Shell.Source

/-!
# Reading words

A word is read up to the first character that ends it in its place: a blank or an operator outside
quotes, the closing quote inside them, the brace that closes a parameter. What is substituted by the
output of commands is read by the reader of commands, which is given as a parameter.
-/

namespace IdlBuild.Shell.Reader

/-! ### Quoting -/

/-- Where a word is being read. -/
inductive Place where
  | plain
  /-- Between double quotes. -/
  | quotes
  /-- In the braces of a parameter. -/
  | braces (quoted : Bool)
  /-- In the braces of a parameter, as a pattern. -/
  | pattern
  /-- In a text that only the end of the characters ends. -/
  | document
deriving DecidableEq, Repr

namespace Place

/-- Whether what is read here is quoted. -/
def isQuoted : Place → Bool
  | plain | pattern => false
  | quotes | document => true
  | braces quoted => quoted

/-- Whether a character ends the reading here. -/
def isEnd : Place → Char → Bool
  | plain, c => endsWord c
  | quotes, c => c == '"'
  | braces _, c | pattern, c => c == '\x7d'
  | document, _ => false

/-- Whether a backslash takes the meaning from a character here. -/
def isEscapable : Place → Char → Bool
  | plain, _ | braces false, _ | pattern, _ => true
  | quotes, c => "$`\"\\".toList.contains c
  | braces true, c => "$`\"\\\x7d".toList.contains c
  | document, c => "$`\\".toList.contains c

end Place

/-- Puts a character in front of pieces. -/
def consChar (c : Char) (quoted : Bool) : Word → Word
  | .text text q :: rest =>
    if q = quoted then .text (String.ofList (c :: text.toList)) q :: rest
    else .text (String.ofList [c]) quoted :: .text text q :: rest
  | rest => .text (String.ofList [c]) quoted :: rest

/-- The pieces of a quoted stretch. All arguments alone are no field if there are none; anything
else is one. -/
def quotedStretch : Word → Word
  | [.parameter "@" .value true] => [.parameter "@" .value true]
  | inside => .text "" true :: inside

/-- The characters up to a single quote. -/
def singleQuoted : Reader String := do
  let (text, after) := (← rest).span (· != '\'')
  if after = [] then
    setRest []
    refuse "Syntax error: Unterminated quoted string"
  setRest after.tail
  return String.ofList text

/-- The characters of an arithmetic expression up to `))`; `depth` counts open parentheses. -/
def arithmeticText : (depth : Nat) → List Char → Option (List Char × List Char)
  | _, [] => none
  | 0, ')' :: ')' :: rest => some ([], rest)
  | depth, '(' :: rest =>
    (arithmeticText (depth + 1) rest).map fun (text, rest) => ('(' :: text, rest)
  | depth + 1, ')' :: rest =>
    (arithmeticText depth rest).map fun (text, rest) => (')' :: text, rest)
  | depth, c :: rest => (arithmeticText depth rest).map fun (text, rest) => (c :: text, rest)

/-- The characters up to a backquote, with its backslashes taken away. -/
def backquoted (quoted : Bool) : List Char → Option (List Char × List Char)
  | [] => none
  | '`' :: rest => some ([], rest)
  | '\\' :: '\n' :: rest => backquoted quoted rest
  | '\\' :: c :: rest =>
    (backquoted quoted rest).map fun (text, rest) =>
      (if "$`\\".toList.contains c || (quoted && c == '"') then c :: text else '\\' :: c :: text,
        rest)
  | c :: rest => (backquoted quoted rest).map fun (text, rest) => (c :: text, rest)

/-! ### Parameters in braces -/

/-- What the mark of a use with a word stands for. -/
def useOf? (evenEmpty : Bool) (mark : Char) : Option (Word → Use) :=
  match mark with
  | '-' => some (.orDefault evenEmpty)
  | '=' => some (.orAssign evenEmpty)
  | '?' => some (.orFail evenEmpty)
  | '+' => some (.ifSet evenEmpty)
  | _ => none

/-- Passes over a brace that is to come next. -/
def closeBrace : Reader Unit := do
  match ← peek? with
  | some '\x7d' => skip 1
  | _ =>
    setRest []
    refuse "Syntax error: Missing '\x7d'"

/-- What is done with a parameter in braces, after its name and up to the closing brace. -/
def parameterUse (word pattern : Reader Word) : Reader Use := do
  let cs ← rest
  let unknown (after : List Char) : Reader Use := do
    setRest after
    let _ ← word
    return .unknown
  match cs with
  | '\x7d' :: _ => return .value
  | ':' :: '\x7d' :: after => setRest ('\x7d' :: after); return .value
  | ':' :: mark :: after =>
    match useOf? true mark with
    | some use => setRest after; return use (← word)
    | none => unknown after
  | '#' :: '#' :: after => setRest after; return .cutFront true (← pattern)
  | '#' :: after => setRest after; return .cutFront false (← pattern)
  | '%' :: '%' :: after => setRest after; return .cutBack true (← pattern)
  | '%' :: after => setRest after; return .cutBack false (← pattern)
  | mark :: after =>
    match useOf? false mark with
    | some use => setRest after; return use (← word)
    | none => unknown cs
  | [] => return .unknown

/-- The name of a parameter in braces, if there is one. -/
def parameterName? (cs : List Char) : Option (String × List Char) :=
  match cs with
  | [] => none
  | c :: after =>
    if startsName c then some (String.ofList (cs.takeWhile continuesName),
      cs.dropWhile continuesName)
    else if c.isDigit then some (String.ofList (cs.takeWhile Char.isDigit),
      cs.dropWhile Char.isDigit)
    else if isSpecialParameter c then some (String.ofList [c], after)
    else none

/-- Whether the size of a parameter is asked for, which the mark in front of it says. -/
def asksSize (cs : List Char) : Bool :=
  match cs with
  | '#' :: c :: after =>
    if continuesName c then true
    else isSpecialParameter c && after.head? == some '\x7d'
  | _ => false

/-- A parameter in braces, after the opening one. -/
def bracedParameter (word pattern : Reader Word) (quoted : Bool) : Reader Piece := do
  let cs ← rest
  if asksSize cs then
    match parameterName? cs.tail with
    | some (name, after) =>
      setRest after
      if after.head? == some '\x7d' then
        closeBrace
        return .parameter name .size quoted
      else
        let _ ← word
        closeBrace
        return .parameter name .unknown quoted
    | none => return .parameter "" .unknown quoted
  else match parameterName? cs with
    | some (name, after) =>
      setRest after
      let use ← parameterUse word pattern
      closeBrace
      return .parameter name use quoted
    | none =>
      let _ ← word
      closeBrace
      return .parameter "" .unknown quoted

/-! ### Words -/

/-- Reads a script inside a word, up to and with the parenthesis that closes it, or to the end of the
characters. -/
abbrev InnerReader := (closed : Bool) → Reader Command

/-- The pieces of a word up to its end in its place, which stays; `fuel` bounds the number of
characters. -/
def pieces (commands : InnerReader) : (fuel : Nat) → Place → Reader Word
  | 0, _ => refuse "Syntax error: word too long"
  | fuel + 1, place => do
    match ← rest with
    | [] =>
      match place with
      | .plain | .document => return []
      | .quotes => refuse "Syntax error: Unterminated quoted string"
      | .braces _ | .pattern => refuse "Syntax error: Missing '\x7d'"
    | c :: after =>
      if place.isEnd c then return []
      else match c, after with
        | '\\', [] =>
          skip 1
          return [.text "\\" true]
        | '\\', '\n' :: after =>
          setRest after
          pieces commands fuel place
        | '\\', d :: after =>
          setRest after
          if place.isEscapable d then return consChar d true (← pieces commands fuel place)
          else return consChar '\\' true (consChar d true (← pieces commands fuel place))
        | '\'', _ =>
          skip 1
          if place.isQuoted then return consChar c true (← pieces commands fuel place)
          else
            let text ← singleQuoted
            return .text text true :: (← pieces commands fuel place)
        | '"', _ =>
          skip 1
          if place = .document then return consChar c true (← pieces commands fuel place)
          else
            let inside ← pieces commands fuel .quotes
            skip 1
            return quotedStretch inside ++ (← pieces commands fuel place)
        | '`', _ =>
          match backquoted place.isQuoted after with
          | none =>
            setRest []
            refuse "Syntax error: EOF in backquote substitution"
          | some (text, after) =>
            let script ← within text 1 (commands false)
            setRest after
            return .capture script place.isQuoted :: (← pieces commands fuel place)
        | '$', '(' :: '(' :: inside =>
          match arithmeticText 0 inside with
          | some (text, after) =>
            let line := (← get).line
            let expression ← within text line (pieces commands fuel .document)
            setRest after
            return .sum expression place.isQuoted :: (← pieces commands fuel place)
          | none =>
            setRest []
            refuse "Syntax error: Missing '))'"
        | '$', '(' :: inside =>
          setRest inside
          let script ← commands true
          return .capture script place.isQuoted :: (← pieces commands fuel place)
        | '$', '\x7b' :: inside =>
          setRest inside
          let piece ← bracedParameter (pieces commands fuel (.braces place.isQuoted))
            (pieces commands fuel .pattern) place.isQuoted
          return piece :: (← pieces commands fuel place)
        | '$', d :: after =>
          if startsName d then
            skip 1
            let name := String.ofList (← takeWhile continuesName)
            return .parameter name .value place.isQuoted :: (← pieces commands fuel place)
          else if isSpecialParameter d then
            setRest after
            return .parameter (String.ofList [d]) .value place.isQuoted ::
              (← pieces commands fuel place)
          else
            skip 1
            return consChar c place.isQuoted (← pieces commands fuel place)
        | _, _ =>
          skip 1
          return consChar c place.isQuoted (← pieces commands fuel place)

/-- A word up to a blank or an operator. -/
def word (commands : InnerReader) : Reader Word := do
  pieces commands ((← rest).length + 1) .plain

end IdlBuild.Shell.Reader
