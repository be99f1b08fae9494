import IdlBuild.Toml.Value

/-!
# Scalars of configuration documents

Strings, numbers, booleans and dates as they are written. Each reader takes characters from the
front and gives the rest, or gives nothing when the characters are not of its form.
-/

namespace IdlBuild.Toml

/-- Takes something from the front of a text. -/
abbrev Reader (α : Type) := List Char → Option (α × List Char)

/-! ### Character classes -/

/-- A blank within a line. -/
def isBlankChar (c : Char) : Bool := c == ' ' || c == '\t'

/-- A character that may stand in a comment, and in a string as itself, the delimiter and the
backslash aside. -/
def isPlain (c : Char) : Bool := c == '\t' || (0x20 ≤ c.toNat && c.toNat != 0x7F)

/-- A character of a key without quotes. -/
def isBareKeyChar (c : Char) : Bool :=
  ('A' ≤ c && c ≤ 'Z') || ('a' ≤ c && c ≤ 'z') || ('0' ≤ c && c ≤ '9') || c == '_' || c == '-'

/-- A decimal digit. -/
def isDigit (c : Char) : Bool := '0' ≤ c && c ≤ '9'

/-- The value of a hexadecimal digit. -/
def hexDigit? (c : Char) : Option Nat :=
  if '0' ≤ c ∧ c ≤ '9' then some (c.toNat - 0x30)
  else if 'a' ≤ c ∧ c ≤ 'f' then some (c.toNat - 0x57)
  else if 'A' ≤ c ∧ c ≤ 'F' then some (c.toNat - 0x37)
  else none

/-! ### Line ends -/

/-- The rest after a line feed, a carriage return allowed before it. -/
def afterNewline? : List Char → Option (List Char)
  | '\n' :: rest => some rest
  | '\r' :: '\n' :: rest => some rest
  | _ => none

/-- The characters after a line feed right at the front. -/
def dropNewline (cs : List Char) : List Char := (afterNewline? cs).getD cs

/-! ### Escapes -/

/-- The number that exactly `count` hexadecimal digits write. -/
def readHex : (count : Nat) → (value : Nat) → Reader Nat
  | 0, value, cs => some (value, cs)
  | _ + 1, _, [] => none
  | count + 1, value, c :: cs => do readHex count (value * 16 + (← hexDigit? c)) cs

/-- The character of a code point that has one. -/
def charOfCode? (n : Nat) : Option Char :=
  if n < 0xD800 ∨ (0xE000 ≤ n ∧ n < 0x110000) then some (Char.ofNat n) else none

/-- The character that an escape stands for, after its backslash. -/
def readEscape : Reader Char
  | 'b' :: rest => some ('\x08', rest)
  | 'e' :: rest => some ('\x1B', rest)
  | 't' :: rest => some ('\t', rest)
  | 'n' :: rest => some ('\n', rest)
  | 'f' :: rest => some ('\x0C', rest)
  | 'r' :: rest => some ('\r', rest)
  | '"' :: rest => some ('"', rest)
  | '\\' :: rest => some ('\\', rest)
  | 'x' :: rest => do
    let (code, rest) ← readHex 2 0 rest
    return (← charOfCode? code, rest)
  | 'u' :: rest => do
    let (code, rest) ← readHex 4 0 rest
    return (← charOfCode? code, rest)
  | 'U' :: rest => do
    let (code, rest) ← readHex 8 0 rest
    return (← charOfCode? code, rest)
  | _ => none

/-! ### Strings -/

/-- The rest of a string of one line between double quotes; the fuel is at least its length. -/
def readBasic : (fuel : Nat) → Reader (List Char)
  | 0, _ => none
  | _, [] => none
  | fuel + 1, c :: cs =>
    if c = '"' then some ([], cs)
    else if c = '\\' then do
      let (e, rest) ← readEscape cs
      let (text, rest) ← readBasic fuel rest
      return (e :: text, rest)
    else if isPlain c then do
      let (text, rest) ← readBasic fuel cs
      return (c :: text, rest)
    else none

/-- The rest of a string of one line between apostrophes. -/
def readLiteral : Reader (List Char)
  | [] => none
  | c :: cs =>
    if c = '\'' then some ([], cs)
    else if isPlain c then do
      let (text, rest) ← readLiteral cs
      return (c :: text, rest)
    else none

/-- The quotes that close a string of several lines when it ends here: three, after at most two that
belong to it. -/
def closing? (quote : Char) (cs : List Char) : Option (List Char × List Char) :=
  let run := cs.takeWhile (· == quote)
  if run.length < 3 then none
  else
    let inside := min (run.length - 3) 2
    some (List.replicate inside quote, cs.drop (inside + 3))

/-- The text after blanks and line ends, of which the first must be a line end. -/
def afterLineEndingBackslash? (cs : List Char) : Option (List Char) := do
  let rest ← afterNewline? (cs.dropWhile isBlankChar)
  return skipBlankLines rest
where
  skipBlankLines : List Char → List Char
    | ' ' :: rest | '\t' :: rest | '\n' :: rest => skipBlankLines rest
    | '\r' :: '\n' :: rest => skipBlankLines rest
    | cs => cs

/-- The rest of a string of several lines; the fuel is at least its length. -/
def readLines (quote : Char) (escapes : Bool) : (fuel : Nat) → Reader (List Char)
  | 0, _ => none
  | fuel + 1, cs =>
    match closing? quote cs with
    | some closed => some closed
    | none =>
      match cs with
      | [] => none
      | '\r' :: '\n' :: rest => do
        let (text, rest) ← readLines quote escapes fuel rest
        return ('\r' :: '\n' :: text, rest)
      | c :: rest =>
        if c = '\\' ∧ escapes then
          match afterLineEndingBackslash? rest with
          | some rest => readLines quote escapes fuel rest
          | none => do
            let (e, rest) ← readEscape rest
            let (text, rest) ← readLines quote escapes fuel rest
            return (e :: text, rest)
        else if isPlain c || c == '\n' then do
          let (text, rest) ← readLines quote escapes fuel rest
          return (c :: text, rest)
        else none

/-- A string in any of its four forms; the fuel is at least its length. -/
def readString (fuel : Nat) : Reader String
  | '"' :: '"' :: '"' :: rest =>
    (readLines '"' true fuel (dropNewline rest)).map fun (text, rest) =>
      (String.ofList text, rest)
  | '\'' :: '\'' :: '\'' :: rest =>
    (readLines '\'' false fuel (dropNewline rest)).map fun (text, rest) =>
      (String.ofList text, rest)
  | '"' :: rest =>
    (readBasic fuel rest).map fun (text, rest) => (String.ofList text, rest)
  | '\'' :: rest => (readLiteral rest).map fun (text, rest) => (String.ofList text, rest)
  | _ => none

/-! ### Numbers -/

/-- The digits of a number that may have single underscores between digits. -/
def ungrouped? (isOne : Char → Bool) (cs : List Char) : Option (List Char) :=
  match cs with
  | [] => none
  | c :: rest => if isOne c then (after rest).map (c :: ·) else none
where
  after : List Char → Option (List Char)
    | [] => some []
    | '_' :: c :: rest => if isOne c then (after rest).map (c :: ·) else none
    | c :: rest => if isOne c then (after rest).map (c :: ·) else none

/-- The value of digits in a base. -/
def valueOf (base : Nat) (cs : List Char) : Nat :=
  cs.foldl (fun n c => n * base + (hexDigit? c).getD 0) 0

/-- A sign in front, true for minus. -/
def splitSign : List Char → Bool × List Char
  | '-' :: rest => (true, rest)
  | '+' :: rest => (false, rest)
  | cs => (false, cs)

/-- A whole number as a value, oversized if no 128-bit integer holds it. -/
def integerValue (negative : Bool) (magnitude : Nat) : Value :=
  let number : Int := if negative then -magnitude else magnitude
  if -0x80000000000000000000000000000000 ≤ number ∧
      number < 0x100000000000000000000000000000000 then .integer number
  else .oversized true

/-- The digits of a decimal whole number, which has no zero in front of others. -/
def wholeDigits? (cs : List Char) : Option (List Char) :=
  match ungrouped? isDigit cs with
  | some ('0' :: _ :: _) => none
  | digits => digits

/-- A whole number in any base. -/
def integer? (token : List Char) : Option Value :=
  match token with
  | '0' :: 'x' :: rest => do
    let digits ← ungrouped? (fun c => (hexDigit? c).isSome) rest
    return integerValue false (valueOf 16 digits)
  | '0' :: 'o' :: rest => do
    let digits ← ungrouped? (fun c => '0' ≤ c && c ≤ '7') rest
    return integerValue false (valueOf 8 digits)
  | '0' :: 'b' :: rest => do
    let digits ← ungrouped? (fun c => c == '0' || c == '1') rest
    return integerValue false (valueOf 2 digits)
  | _ => do
    let (negative, rest) := splitSign token
    let digits ← wholeDigits? rest
    return integerValue negative (valueOf 10 digits)

/-- The exponent that follows the letter of a floating-point number. -/
def exponent? (cs : List Char) : Option Int := do
  let (negative, rest) := splitSign cs
  let digits ← ungrouped? isDigit rest
  let magnitude : Int := valueOf 10 digits
  return if negative then -magnitude else magnitude

/-- A floating-point value from its parts. -/
def numberValue (negative : Bool) (whole fraction : List Char) (exponent : Int) : Value :=
  match Text.binaryOfDecimal (valueOf 10 (whole ++ fraction)) (exponent - fraction.length) with
  | some magnitude => .number (.finite negative magnitude)
  | none => .oversized false

/-- A floating-point number: a whole part with a fraction, an exponent or both, or a special one. -/
def float? (token : List Char) : Option Value := do
  let (negative, rest) := splitSign token
  if rest = ['i', 'n', 'f'] then return .number (.infinite negative)
  if rest = ['n', 'a', 'n'] then return .number .notANumber
  let whole ← wholeDigits? (rest.takeWhile fun c => isDigit c || c == '_')
  match rest.dropWhile fun c => isDigit c || c == '_' with
  | '.' :: after =>
    let fraction ← ungrouped? isDigit (after.takeWhile fun c => isDigit c || c == '_')
    match after.dropWhile fun c => isDigit c || c == '_' with
    | [] => return numberValue negative whole fraction 0
    | c :: tail =>
      if c = 'e' ∨ c = 'E' then return numberValue negative whole fraction (← exponent? tail)
      else none
  | c :: tail =>
    if c = 'e' ∨ c = 'E' then return numberValue negative whole [] (← exponent? tail)
    else none
  | [] => none

/-! ### Dates and times -/

/-- Exactly `count` digits. -/
def readDigits (count : Nat) : Reader Nat := fun cs =>
  let digits := cs.take count
  if digits.length = count ∧ digits.all isDigit then some (valueOf 10 digits, cs.drop count)
  else none

/-- The number of days of a month. -/
def daysIn (year month : Nat) : Nat :=
  if month = 2 then
    if year % 4 = 0 ∧ (year % 100 ≠ 0 ∨ year % 400 = 0) then 29 else 28
  else if month = 4 ∨ month = 6 ∨ month = 9 ∨ month = 11 then 30
  else 31

/-- The rest after one expected character. -/
def after? (c : Char) : List Char → Option (List Char)
  | [] => none
  | d :: rest => if d = c then some rest else none

/-- The rest after a calendar date. -/
def afterDate? (cs : List Char) : Option (List Char) := do
  let (year, rest) ← readDigits 4 cs
  let (month, rest) ← readDigits 2 (← after? '-' rest)
  let (day, rest) ← readDigits 2 (← after? '-' rest)
  if 1 ≤ month ∧ month ≤ 12 ∧ 1 ≤ day ∧ day ≤ daysIn year month then some rest else none

/-- The rest after the seconds of a time of day, which may be left out. -/
def afterSeconds? : List Char → Option (List Char)
  | ':' :: rest => do
    let (second, rest) ← readDigits 2 rest
    if 60 < second then none
    else match rest with
      | '.' :: d :: tail => if isDigit d then some (tail.dropWhile isDigit) else none
      | _ => some rest
  | cs => some cs

/-- The rest after a time of day. -/
def afterTime? (cs : List Char) : Option (List Char) := do
  let (hour, rest) ← readDigits 2 cs
  let (minute, rest) ← readDigits 2 (← after? ':' rest)
  if 23 < hour ∨ 59 < minute then none else afterSeconds? rest

/-- Whether the text is an offset from universal time. -/
def isOffset (cs : List Char) : Bool :=
  match cs with
  | ['Z'] | ['z'] => true
  | sign :: rest =>
    (sign == '+' || sign == '-') &&
      ((do
        let (hour, rest) ← readDigits 2 rest
        let (minute, rest) ← readDigits 2 (← after? ':' rest)
        return (decide (hour ≤ 23) && decide (minute ≤ 59) && rest.isEmpty)).getD false)
  | [] => false

/-- Whether the text is a date, a time, or both with an optional offset. -/
def isDateTime (token : List Char) : Bool :=
  match afterDate? token with
  | some [] => true
  | some (separator :: rest) =>
    (separator == 'T' || separator == 't' || separator == ' ') &&
      (match afterTime? rest with
        | some [] => true
        | some tail => isOffset tail
        | none => false)
  | none => afterTime? token == some []

/-! ### Any scalar without quotes -/

/-- The value of a scalar that is written without quotes. -/
def scalar? (token : List Char) : Option Value :=
  if token = "true".toList then some (.boolean true)
  else if token = "false".toList then some (.boolean false)
  else if isDateTime token then some .dateTime
  else (integer? token).or (float? token)

/-- A character that may stand in a scalar without quotes. -/
def isScalarChar (c : Char) : Bool := isBareKeyChar c || c == '+' || c == '.' || c == ':'

/-- A scalar without quotes, where a date may be followed by a time after a blank. -/
def readScalar : Reader Value := fun cs => do
  let token := cs.takeWhile isScalarChar
  let rest := cs.dropWhile isScalarChar
  match afterDate? token, rest with
  | some [], ' ' :: d :: tail =>
    if isDigit d then
      let time := (d :: tail).takeWhile isScalarChar
      let value ← scalar? (token ++ ' ' :: time)
      return (value, (d :: tail).dropWhile isScalarChar)
    else return (← scalar? token, rest)
  | _, _ => return (← scalar? token, rest)

end IdlBuild.Toml
