/-!
# Floating-point numbers as decimals

A decimal `digits · 10 ^ exponent` is read as the nearest binary number with 53 significant bits, a
tie going to the even one, and written as the shortest decimal that is read as the same binary
number again. Both directions are exact arithmetic on natural numbers.
-/

namespace IdlBuild.Text

/-- The value `significand · 2 ^ exponent`, with a significand below 2^53 and an exponent of at
least -1074. -/
structure Binary where
  significand : Nat
  exponent : Int
deriving DecidableEq, Repr

/-- The smallest exponent. -/
def leastExponent : Int := -1074

/-- `b ^ e` as a fraction. -/
def powerFraction (b : Nat) (e : Int) : Nat × Nat :=
  match e with
  | .ofNat n => (Nat.pow b n, 1)
  | .negSucc n => (1, Nat.pow b (n + 1))

/-- The whole number nearest to a fraction; a tie goes to the even one. -/
def nearestEven (num den : Nat) : Nat :=
  let whole := num / den
  let twice := 2 * (num % den)
  if twice < den then whole
  else if den < twice then whole + 1
  else if whole % 2 = 0 then whole else whole + 1

/-! ### Reading -/

/-- The binary number nearest to a fraction, when rounded at a given exponent. -/
def roundAt (num den : Nat) (exponent : Int) : Nat :=
  let (p, q) := powerFraction 2 exponent
  nearestEven (num * q) (den * p)

/-- The binary number nearest to a fraction. -/
def nearestBinary (num den : Nat) : Binary :=
  let estimate : Int := (Nat.log2 num : Int) - (Nat.log2 den : Int) - 53
  let first := max estimate leastExponent
  let tried := roundAt num den first
  let exponent := if 0x20000000000000 ≤ tried then first + 1 else first
  let significand := roundAt num den exponent
  if 0x20000000000000 ≤ significand then ⟨significand / 2, exponent + 1⟩
  else ⟨significand, exponent⟩

/-- The number nearest to a decimal, none if it is too large for one. -/
def binaryOfDecimal (digits : Nat) (exponent : Int) : Option Binary :=
  let places : Int := (Nat.toDigits 10 digits).length
  if digits = 0 ∨ exponent + places < -330 then some ⟨0, leastExponent⟩
  else if 310 < exponent + places then none
  else
    let (p, q) := powerFraction 10 exponent
    let nearest := nearestBinary (digits * p) q
    if 971 < nearest.exponent then none else some nearest

/-! ### Writing -/

/-- Whether the decimal `candidate · 10 ^ place` is read as the number. -/
def readsAs (b : Binary) (candidate : Nat) (place : Int) : Bool :=
  binaryOfDecimal candidate place == some b

/-- The value as a fraction. -/
def Binary.fraction (b : Binary) : Nat × Nat :=
  let (p, q) := powerFraction 2 b.exponent
  (b.significand * p, q)

/-- The multiple of `10 ^ place` nearest to the value, if it is read as the value. -/
def decimalAt (b : Binary) (place : Int) : Option Nat :=
  let (num, den) := b.fraction
  let (p, q) := powerFraction 10 place
  let below := num * q / (den * p)
  let nearest := nearestEven (num * q) (den * p)
  if readsAs b nearest place then some nearest
  else if readsAs b below place then some below
  else if readsAs b (below + 1) place then some (below + 1)
  else none

/-- The first decimal found when the places are tried from a coarse one on. -/
def firstDecimal (b : Binary) : (tries : Nat) → (place : Int) → Nat × Int
  | 0, place => (0, place)
  | tries + 1, place =>
    match decimalAt b place with
    | some digits => (digits, place)
    | none => firstDecimal b tries (place - 1)

/-- The shortest decimal that is read as the number: digits and exponent. -/
def shortestDecimal (b : Binary) : Nat × Int :=
  if b.significand = 0 then (0, 0)
  else
    let (num, den) := b.fraction
    let magnitude : Int := (Nat.toDigits 10 num).length - (Nat.toDigits 10 den).length
    firstDecimal b 21 (magnitude + 1)

/-- The number written out in places, with at least one after the point. -/
def Binary.positional (b : Binary) : String :=
  let (digits, exponent) := shortestDecimal b
  let written := Nat.toDigits 10 digits
  let shift := exponent.natAbs
  if 0 ≤ exponent then String.ofList (written ++ List.replicate shift '0' ++ ['.', '0'])
  else
    let padded := List.replicate (shift + 1 - written.length) '0' ++ written
    let whole := padded.length - shift
    String.ofList (padded.take whole ++ ['.'] ++ padded.drop whole)

end IdlBuild.Text
