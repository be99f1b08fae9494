import IdlBuild.Text.Floating

/-!
# Numbers and texts in fields

How a number or a text is laid out under a directive: flags, a least width, a precision and the
letter of a conversion. Numbers with a fraction are exact fractions here; they are rounded to the
digits that are shown, a tie going to the even digit.
-/

namespace IdlBuild.Text

/-- How something is laid out. -/
structure Directive where
  flags : List Char
  width : Nat
  precision : Option Nat
  conversion : Char
deriving DecidableEq, Repr

/-- A number that may have a fraction: `numerator / denominator` with a sign, or beyond all of
these. -/
inductive Real where
  | finite (negative : Bool) (numerator denominator : Nat)
  | infinite (negative : Bool)
  | undefined (negative : Bool)
deriving DecidableEq, Repr

namespace Real

/-- The value of a whole number. -/
def ofInt (n : Int) : Real := .finite (decide (n < 0)) n.natAbs 1

/-- The value of a binary number. -/
def ofBinary (negative : Bool) (b : Binary) : Real :=
  let (num, den) := b.fraction
  .finite negative num den

/-- Whether there is a minus sign. -/
def isNegative : Real → Bool
  | finite negative .. | infinite negative | undefined negative => negative

end Real

namespace Directive

/-! ### Fields -/

/-- A text with a sign in front, brought to the width. -/
def padded (d : Directive) (zeros : Bool) (sign body : List Char) : List Char :=
  let missing := d.width - (sign.length + body.length)
  if d.flags.contains '-' then sign ++ body ++ List.replicate missing ' '
  else if zeros && d.flags.contains '0' then sign ++ List.replicate missing '0' ++ body
  else List.replicate missing ' ' ++ sign ++ body

/-- The sign that is shown. -/
def sign (d : Directive) (negative : Bool) : List Char :=
  if negative then ['-']
  else if d.flags.contains '+' then ['+'] else if d.flags.contains ' ' then [' '] else []

/-- A text, cut to the precision. -/
def ofText (d : Directive) (cs : List Char) : List Char :=
  d.padded false [] (match d.precision with
    | some n => cs.take n
    | none => cs)

/-! ### Whole numbers -/

/-- Digits of a number in upper case. -/
def raised (cs : List Char) : List Char := cs.map Char.toUpper

/-- At least as many digits as the precision says; none for a zero with precision zero. -/
def wholeDigits (d : Directive) (base n : Nat) : List Char :=
  let digits := if n = 0 ∧ d.precision = some 0 then [] else Nat.toDigits base n
  List.replicate (d.precision.getD 0 - digits.length) '0' ++ digits

/-- A whole number; without a sign it is one of 64 bits. -/
def ofInteger (d : Directive) (n : Int) : List Char :=
  let unsigned := (n % 0x10000000000000000).toNat
  let zeros := d.precision.isNone
  let marked := d.flags.contains '#'
  match d.conversion with
  | 'o' =>
    let digits := d.wholeDigits 8 unsigned
    d.padded zeros [] (if marked && digits.head? != some '0' then '0' :: digits else digits)
  | 'u' => d.padded zeros [] (d.wholeDigits 10 unsigned)
  | 'x' =>
    d.padded zeros (if marked && unsigned != 0 then ['0', 'x'] else []) (d.wholeDigits 16 unsigned)
  | 'X' =>
    d.padded zeros (if marked && unsigned != 0 then ['0', 'X'] else [])
      (raised (d.wholeDigits 16 unsigned))
  | _ => d.padded zeros (d.sign (n < 0)) (d.wholeDigits 10 n.natAbs)

/-! ### Numbers with a fraction -/

/-- The digits of a number, at least as many as are given. -/
def digitsOf (least n : Nat) : List Char :=
  let digits := Nat.toDigits 10 n
  List.replicate (least - digits.length) '0' ++ digits

/-- Digits with a point before the last `places` of them. -/
def pointed (marked : Bool) (places n : Nat) : List Char :=
  let digits := digitsOf (places + 1) n
  let whole := digits.take (digits.length - places)
  if places = 0 then (if marked then whole ++ ['.'] else whole)
  else whole ++ '.' :: digits.drop (digits.length - places)

/-- A fraction with a number of places. -/
def positional (marked : Bool) (places num den : Nat) : List Char :=
  pointed marked places (nearestEven (num * Nat.pow 10 places) den)

/-- Whether a fraction is at least a power of ten. -/
def reaches (num den : Nat) (e : Int) : Bool :=
  let (p, q) := powerFraction 10 e
  den * p ≤ num * q

/-- The exponent of the first digit of a fraction that is not zero. -/
def leadingExponent (num den : Nat) : Int :=
  let estimate : Int := (Nat.toDigits 10 num).length - (Nat.toDigits 10 den).length
  if reaches num den estimate then estimate else estimate - 1

/-- The digits of a fraction as a whole number with `places` digits behind the first, and the
exponent of the first. -/
def rounded (places num den : Nat) : Nat × Int :=
  if num = 0 then (0, 0)
  else
    let e := leadingExponent num den
    let (p, q) := powerFraction 10 (places - e)
    let n := nearestEven (num * p) (den * q)
    if Nat.pow 10 (places + 1) ≤ n then (n / 10, e + 1) else (n, e)

/-- An exponent behind its letter. -/
def exponentText (letter : Char) (least : Nat) (e : Int) : List Char :=
  letter :: (if e < 0 then '-' else '+') :: digitsOf least e.natAbs

/-- A fraction with one digit before the point. -/
def scientific (marked : Bool) (letter : Char) (places num den : Nat) : List Char :=
  let (n, e) := rounded places num den
  pointed marked places n ++ exponentText letter 2 e

/-- Digits without zeros at the end of their fraction. -/
def withoutZeros (cs : List Char) : List Char :=
  if cs.contains '.' then
    let kept := cs.reverse.dropWhile (· == '0')
    (if kept.head? == some '.' then kept.tail else kept).reverse
  else cs

/-- A fraction in the shorter of both ways. -/
def general (marked : Bool) (letter : Char) (precision num den : Nat) : List Char :=
  let p := max precision 1
  let (n, e) := rounded (p - 1) num den
  if -4 ≤ e && e < p then
    let places := (p - 1 - e).toNat
    let cs := positional marked places num den
    if marked then cs else withoutZeros cs
  else
    let cs := pointed marked (p - 1) n
    (if marked then cs else withoutZeros cs) ++ exponentText letter 2 e

/-- The power of two that is the leading one of a fraction that is not zero. -/
def leadingPower (num den : Nat) : Int :=
  let estimate : Int := (Nat.log2 num : Int) - (Nat.log2 den : Int)
  let (p, q) := powerFraction 2 estimate
  if den * p ≤ num * q then estimate else estimate - 1

/-- A fraction in base 16 with a power of two. -/
def hexadecimal (marked : Bool) (precision : Option Nat) (num den : Nat) : List Char :=
  let e := if num = 0 then 0 else max (leadingPower num den) (-1022)
  let places := precision.getD 13
  let (p, q) := powerFraction 2 (4 * places - e)
  let n := nearestEven (num * p) (den * q)
  let scale := Nat.pow 16 places
  let fraction := Nat.toDigits 16 (n % scale)
  let shown := List.replicate (places - fraction.length) '0' ++ (if places = 0 then [] else fraction)
  let shown := if precision.isSome then shown
    else (shown.reverse.dropWhile (· == '0')).reverse
  Nat.toDigits 16 (n / scale) ++ (if shown.isEmpty && !marked then [] else '.' :: shown) ++
    'p' :: (if e < 0 then '-' else '+') :: Nat.toDigits 10 e.natAbs

/-- A number that may have a fraction. -/
def ofReal (d : Directive) (r : Real) : List Char :=
  let isUpper := d.conversion.isUpper
  let cased (cs : List Char) : List Char := if isUpper then raised cs else cs
  let sign := d.sign r.isNegative
  match r with
  | .infinite _ => d.padded false sign (cased "inf".toList)
  | .undefined _ => d.padded false sign (cased "nan".toList)
  | .finite _ num den =>
    let marked := d.flags.contains '#'
    let places := d.precision.getD 6
    let body := match d.conversion.toLower with
      | 'e' => scientific marked 'e' places num den
      | 'g' => general marked 'e' places num den
      | 'a' => hexadecimal marked d.precision num den
      | _ => positional marked places num den
    let sign := if d.conversion.toLower == 'a' then sign ++ ['0', 'x'] else sign
    d.padded true (cased sign) (cased body)

end Directive

end IdlBuild.Text
