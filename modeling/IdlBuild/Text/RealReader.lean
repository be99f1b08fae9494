import IdlBuild.Text.Layout

/-!
# Reading numbers with a fraction

The number at the beginning of a text: blanks, a sign, and then decimal digits with a point and an
exponent, hexadecimal ones with a power of two, or a word for what is no finite number.
-/

namespace IdlBuild.Text

/-- A number at the beginning of a text. -/
structure ReadReal where
  value : Real
  /-- Whether the number is too large or too small to be kept as it is. -/
  outOfRange : Bool
  rest : List Char
deriving DecidableEq, Repr

namespace ReadReal

/-- The value of a digit in the bases up to 16. -/
def digitOf? (base : Nat) (c : Char) : Option Nat :=
  let v := if c.isDigit then c.toNat - 0x30
    else if 'a' ≤ c && c ≤ 'f' then c.toNat - 0x57
    else if 'A' ≤ c && c ≤ 'F' then c.toNat - 0x37 else 16
  if v < base then some v else none

/-- The number that digits make. -/
def wholeOf (base : Nat) (cs : List Char) : Nat :=
  cs.foldl (fun n c => n * base + (digitOf? base c).getD 0) 0

/-- The exponent that comes next behind one of two letters, and the characters after it. -/
def exponent (lower upper : Char) (cs : List Char) : Int × List Char :=
  match cs with
  | c :: after =>
    if c == lower || c == upper then
      let (negative, digits) := match after with
        | '-' :: rest => (true, rest)
        | '+' :: rest => (false, rest)
        | _ => (false, after)
      match digits with
      | d :: _ =>
        if d.isDigit then
          let n : Int := min (wholeOf 10 (digits.takeWhile Char.isDigit)) 100000
          (if negative then -n else n, digits.dropWhile Char.isDigit)
        else (0, cs)
      | [] => (0, cs)
    else (0, cs)
  | [] => (0, cs)

/-- The digits before and after a point, and what comes after them. -/
def mantissa? (base : Nat) (cs : List Char) : Option (List Char × List Char × List Char) :=
  let isDigit (c : Char) : Bool := (digitOf? base c).isSome
  let whole := cs.takeWhile isDigit
  let after := cs.drop whole.length
  let (fraction, rest) := match after with
    | '.' :: more => (more.takeWhile isDigit, more.dropWhile isDigit)
    | _ => ([], after)
  if whole.isEmpty && fraction.isEmpty then none else some (whole, fraction, rest)

/-- Whether a binary number is one of the small ones that have lost digits. -/
def isSmall (b : Binary) (exact : Bool) : Bool := b.significand < 0x10000000000000 && !exact

/-- The number that is nearest to a fraction. -/
def nearest (negative : Bool) (num den : Nat) (rest : List Char) : ReadReal :=
  let b := nearestBinary num den
  if num = 0 then ⟨.finite negative 0 1, false, rest⟩
  else if 971 < b.exponent then ⟨.infinite negative, true, rest⟩
  else
    let (p, q) := b.fraction
    ⟨.finite negative p q, isSmall b (p * den == num * q), rest⟩

/-- A decimal number. -/
def decimal? (negative : Bool) (cs : List Char) : Option ReadReal :=
  (mantissa? 10 cs).map fun (whole, fraction, rest) =>
    let (e, rest) := exponent 'e' 'E' rest
    let digits := wholeOf 10 (whole ++ fraction)
    let e := e - fraction.length
    let places : Int := (Nat.toDigits 10 digits).length
    if digits = 0 then ⟨.finite negative 0 1, false, rest⟩
    else if 400 < e + places then ⟨.infinite negative, true, rest⟩
    else if e + places < -400 then ⟨.finite negative 0 1, true, rest⟩
    else
      let (p, q) := powerFraction 10 e
      nearest negative (digits * p) q rest

/-- A hexadecimal number behind `0x`. -/
def hexadecimal? (negative : Bool) (cs : List Char) : Option ReadReal :=
  (mantissa? 16 cs).map fun (whole, fraction, rest) =>
    let (e, rest) := exponent 'p' 'P' rest
    let (p, q) := powerFraction 2 (max (-3000) (min 3000 e) - 4 * fraction.length)
    nearest negative (wholeOf 16 (whole ++ fraction) * p) q rest

/-- The rest behind a word in any case. -/
def afterWord? (word : String) (cs : List Char) : Option (List Char) :=
  if (cs.take word.length).map Char.toLower = word.toList then some (cs.drop word.length) else none

/-- The number at the beginning of a text, if there is one. -/
def ofChars? (cs : List Char) : Option ReadReal :=
  let cs := cs.dropWhile fun c => c.isWhitespace || c == '\x0b' || c == '\x0c'
  let (negative, body) := match cs with
    | '-' :: rest => (true, rest)
    | '+' :: rest => (false, rest)
    | _ => (false, cs)
  match body with
  | '0' :: x :: digits =>
    if x == 'x' || x == 'X' then (hexadecimal? negative digits).or (decimal? negative body)
    else decimal? negative body
  | _ =>
    match decimal? negative body with
    | some found => some found
    | none =>
      match (afterWord? "infinity" body).or (afterWord? "inf" body), afterWord? "nan" body with
      | some rest, _ => some ⟨.infinite negative, false, rest⟩
      | none, some rest => some ⟨.undefined negative, false, rest⟩
      | none, none => none

end ReadReal

end IdlBuild.Text
