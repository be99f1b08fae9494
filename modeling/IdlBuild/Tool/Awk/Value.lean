import IdlBuild.Text.RealReader
import IdlBuild.Tool.Counting

/-!
# Values of programs for records

Numbers, texts, and texts that came from outside and look like numbers. A number that is whole is
shown without a point, all others in a format that the program chooses.
-/

namespace IdlBuild.Tool.Awk

open Text (Directive)

/-! ### Numbers -/

/-- A whole number that need not be a small one. -/
def floatOfInt (n : Int) : Float :=
  if n < 0 then -(Float.ofNat n.natAbs) else Float.ofNat n.natAbs

/-- The number that is nearest to a value. -/
def floatOf : Text.Real → Float
  | .finite negative num den =>
    let b := Text.nearestBinary num den
    let x := if num = 0 then 0.0
      else if 971 < b.exponent then 1.0 / 0.0 else (Float.ofNat b.significand).scaleB b.exponent
    if negative then -x else x
  | .infinite negative => if negative then -(1.0 / 0.0) else 1.0 / 0.0
  | .undefined _ => 0.0 / 0.0

/-- The exact value of a number. -/
def realOf (x : Float) : Text.Real :=
  if x.isNaN then .undefined true
  else if x.isInf then .infinite (x < 0.0)
  else
    let (m, e) := x.abs.frExp
    let n := (m.scaleB 53).toUInt64.toNat
    .ofBinary (x < 0.0) ⟨n, e - 53⟩

/-- The whole number towards zero. -/
def intOf (x : Float) : Int :=
  match realOf x with
  | .finite negative num den => if negative then -((num / den : Nat) : Int) else (num / den : Nat)
  | .infinite negative => if negative then -0x7FFFFFFFFFFFFFFF else 0x7FFFFFFFFFFFFFFF
  | .undefined _ => -0x8000000000000000

/-- Whether a number is whole. -/
def isWhole (x : Float) : Bool := x == x.floor && !x.isInf

/-- The number that a text begins with, and what is behind it. -/
def readNumber (cs : List Char) : Float × List Char :=
  match Text.ReadReal.ofChars? cs with
  | some read => (floatOf read.value, read.rest)
  | none => (0.0, cs)

/-! ### Formats for numbers -/

/-- The flags, the width and the precision of a directive behind its percent sign, where a star
takes the next number; the numbers that are left, the directive, and what is behind it. -/
def directiveOf (cs : List Char) (numbers : List Int) :
    Option Directive × List Int × List Char :=
  let flags := cs.takeWhile fun c => "-+ #0".toList.contains c
  let rest := cs.drop flags.length
  let number (cs : List Char) (numbers : List Int) : Int × List Int × List Char :=
    match cs with
    | '*' :: rest => (numbers.head?.getD 0, numbers.drop 1, rest)
    | _ =>
      let digits := cs.takeWhile Char.isDigit
      ((((String.ofList digits).toNat?).getD 0 : Nat), numbers, cs.drop digits.length)
  let (width, numbers, rest) := number rest numbers
  let flags := if width < 0 then '-' :: flags else flags
  let (precision, numbers, rest) := match rest with
    | '.' :: more =>
      let (n, numbers, rest) := number more numbers
      (if n < 0 then none else some n.toNat, numbers, rest)
    | _ => (none, numbers, rest)
  match rest.dropWhile fun c => c == 'l' || c == 'h' || c == 'L' with
  | c :: behind => (some ⟨flags, width.natAbs, precision, c⟩, numbers, behind)
  | [] => (none, numbers, [])

/-- A number in a format with one directive for it. -/
def formatted (format : List Char) (x : Float) : List Char :=
  let front := format.takeWhile (· != '%')
  match format.drop front.length with
  | '%' :: rest =>
    match directiveOf rest [] with
    | (some d, _, behind) =>
      let body := if ['d', 'i', 'o', 'x', 'X', 'u', 'c'].contains d.conversion then
          d.ofInteger (intOf x)
        else d.ofReal (realOf x)
      front ++ body ++ behind
    | _ => format
  | _ => format

/-- A number as a text. -/
def numberText (format : List Char) (x : Float) : List Char :=
  if x.isNaN then "-nan".toList
  else if x.isInf then (if x < 0.0 then "-inf" else "inf").toList
  else if isWhole x && x <= 18446744073709551616.0 && -9223372036854775808.0 <= x then
    let n := intOf x
    (toString (min n 0xFFFFFFFFFFFFFFFF)).toList
  else formatted format x

/-! ### Values -/

/-- A value. -/
inductive Value where
  | unset
  | number (x : Float)
  | text (cs : List Char)
  /-- A text from outside that looks like a number. -/
  | numeral (cs : List Char) (x : Float)

/-- What a text from outside is as a value. -/
def Value.ofInput (cs : List Char) : Value :=
  let body := ((cs.dropWhile isSpace).reverse.dropWhile isSpace).reverse
  let begins := match body with
    | c :: _ => c.isDigit || c == '.' || c == '+' || c == '-'
    | [] => false
  let closes := (body.getLast?).any fun c => c.isDigit || c == '.'
  if !begins || !closes then .text cs
  else match Text.ReadReal.ofChars? body with
    | some read => if read.rest.isEmpty then .numeral cs (floatOf read.value) else .text cs
    | none => .text cs

/-- A value as a number. -/
def Value.toNumber : Value → Float
  | unset => 0.0
  | number x | numeral _ x => x
  | text cs => (readNumber cs).1

/-- A value as a text. -/
def Value.toText (format : List Char) : Value → List Char
  | unset => []
  | number x => numberText format x
  | text cs | numeral cs _ => cs

/-- Whether a value counts as true. -/
def Value.isTrue : Value → Bool
  | unset => false
  | number x | numeral _ x => x != 0.0
  | text cs => !cs.isEmpty

/-- The value of a condition. -/
def Value.ofBool (b : Bool) : Value := .number (if b then 1.0 else 0.0)

/-- The order of two values: as numbers if both may be numbers, as texts otherwise. -/
def Value.compare (format : List Char) (a b : Value) : Ordering :=
  let order (x y : Float) : Ordering := if x < y then .lt else if y < x then .gt else .eq
  match a, b with
  | .text _, _ | _, .text _ => compareUnits (a.toText format) (b.toText format)
  | _, _ => order a.toNumber b.toNumber

end IdlBuild.Tool.Awk
