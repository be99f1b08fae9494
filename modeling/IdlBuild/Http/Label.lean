/-!
# Labels in ASCII form

A label of a domain name beyond ASCII is written in ASCII: the ASCII characters first, then the
others with their places as numbers in a variable base, digits and letters. A code point is told by
its distance from the one before, counted over all places it could have taken. Labels are lists of
code points here.
-/

namespace IdlBuild.Http.Label

/-! ### Numbers in a variable base -/

/-- The digit of a value. -/
def digit (n : Nat) : Char := if n < 26 then Char.ofNat (0x61 + n) else Char.ofNat (0x16 + n)

/-- The value of a digit. -/
def digitValue? (n : Nat) : Option Nat :=
  if 0x61 ≤ n ∧ n ≤ 0x7A then some (n - 0x61)
  else if 0x30 ≤ n ∧ n ≤ 0x39 then some (n - 0x16)
  else none

/-- The threshold at a place. -/
def threshold (bias k : Nat) : Nat := if k ≤ bias then 1 else if bias + 26 ≤ k then 26 else k - bias

/-- The bias after a distance, for a label of `count` code points so far. -/
def adaptedBias (delta count : Nat) (first : Bool) : Nat :=
  let delta := if first then delta / 700 else delta / 2
  scaled 0 (delta + delta / count) (delta + 1)
where
  scaled (k delta : Nat) : Nat → Nat
    | 0 => k
    | fuel + 1 =>
      if 455 < delta then scaled (k + 36) (delta / 35) fuel else k + 36 * delta / (delta + 38)

/-- A number in the variable base. -/
def variableDigits (bias : Nat) : (fuel : Nat) → (q k : Nat) → List Char
  | 0, q, _ => [digit q]
  | fuel + 1, q, k =>
    let t := threshold bias k
    if q < t then [digit q]
    else digit (t + (q - t) % (36 - t)) :: variableDigits bias fuel ((q - t) / (36 - t)) (k + 36)

/-! ### Writing -/

/-- What the writer of a label has done: the code point reached, the distance, the bias, the number
of characters written and the digits so far. -/
structure Writing where
  code : Nat
  delta : Nat
  bias : Nat
  handled : Nat
  digits : List Char

/-- Writes the places of one code point. -/
def writeCode (label : List Nat) (basic : Nat) (w : Writing) (next : Nat) : Writing :=
  let w := { w with delta := w.delta + (next - w.code) * (w.handled + 1), code := next }
  let w := label.foldl (fun w c =>
    if c < next then { w with delta := w.delta + 1 }
    else if c = next then
      { w with
        digits := w.digits ++ variableDigits w.bias 64 w.delta 36
        bias := adaptedBias w.delta (w.handled + 1) (w.handled == basic)
        delta := 0
        handled := w.handled + 1 }
    else w) w
  { w with delta := w.delta + 1, code := next + 1 }

/-- Puts a number into an ascending list without repetitions. -/
def insertCode (n : Nat) : List Nat → List Nat
  | [] => [n]
  | m :: rest =>
    if n < m then n :: m :: rest else if n = m then m :: rest else m :: insertCode n rest

/-- The prefix of labels in ASCII form. -/
def mark : List Char := ['x', 'n', '-', '-']

/-- A label as it is written in ASCII. -/
def written (label : List Nat) : List Char :=
  if label.all (· < 0x80) then label.map Char.ofNat
  else
    let basic := (label.filter (· < 0x80)).map Char.ofNat
    let later := (label.filter (0x80 ≤ ·)).foldr insertCode []
    let start : Writing := ⟨0x80, 0, 72, basic.length, []⟩
    let done := later.foldl (writeCode label basic.length) start
    mark ++ basic ++ (if basic = [] then [] else ['-']) ++ done.digits

/-! ### Reading -/

/-- What the reader of a label has done: the code point reached, the place in the label, the bias,
the label so far, and of the number being read where it began, its weight and its place. -/
structure Reading where
  code : Nat
  place : Nat
  bias : Nat
  label : List Nat
  start : Nat
  weight : Nat
  k : Nat

/-- The greatest number that is read. -/
def numberLimit : Nat := 0xFFFFFFFF

/-- Whether a number is the code point of a character beyond ASCII. -/
def isWideCode (n : Nat) : Bool := 0x80 ≤ n && (n < 0xD800 || 0xE000 ≤ n) && n < 0x110000

/-- Reads one digit. -/
def readDigit (r : Reading) (value : Nat) : Option Reading :=
  let place := r.place + value * r.weight
  let t := threshold r.bias r.k
  if numberLimit < place then none
  else if value < t then
    let count := r.label.length + 1
    let code := r.code + place / count
    let index := place % count
    if isWideCode code then
      some { code, place := index + 1, start := index + 1, weight := 1, k := 36
             bias := adaptedBias (place - r.start) count (r.start == 0)
             label := r.label.take index ++ code :: r.label.drop index }
    else none
  else some { r with place, weight := r.weight * (36 - t), k := r.k + 36 }

/-- The text before the last dash, and the digits after it. -/
def splitBasic (text : List Nat) : List Nat × List Nat :=
  let digits := (text.reverse.takeWhile (· != 0x2D)).reverse
  if digits.length = text.length then ([], text)
  else
    let basic := text.take (text.length - digits.length - 1)
    if basic = [] then ([], text) else (basic, digits)

/-- The label that is written with some text after the prefix. -/
def read? (text : List Nat) : Option (List Nat) := do
  let (basic, digits) := splitBasic text
  let start : Reading := ⟨0x80, 0, 72, basic, 0, 1, 36⟩
  let done ← digits.foldlM (fun r c => do readDigit r (← digitValue? c)) start
  if done.k = 36 then some done.label else none

end IdlBuild.Http.Label
