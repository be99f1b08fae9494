/-!
# Decimal numbers

Reading a whole number below 2^64 from its decimal digits, one plus sign allowed in front. The
digits are read from the left and the first fault found is the one reported: a character that is no
digit counts before the overflow that the same place would cause.
-/

namespace IdlBuild.Text

/-- Why a text is not a number of the range. -/
inductive DecimalFault where
  | empty
  | invalidDigit
  | tooLarge
deriving DecidableEq, Repr

/-- How a fault is worded. -/
def DecimalFault.message : DecimalFault → String
  | .empty => "cannot parse integer from empty string"
  | .invalidDigit => "invalid digit found in string"
  | .tooLarge => "number too large to fit in target type"

/-- One more than the largest number that is read. -/
def wordBound : Nat := 0x10000000000000000

/-- The value of a decimal digit. -/
def digit? (c : Char) : Option Nat :=
  if '0' ≤ c ∧ c ≤ '9' then some (c.toNat - '0'.toNat) else none

/-- Reads digits onto a value that has been read already. -/
def readDigits (value : Nat) : List Char → Except DecimalFault Nat
  | [] => .ok value
  | c :: cs =>
    match digit? c with
    | none => .error .invalidDigit
    | some d =>
      if value * 10 + d < wordBound then readDigits (value * 10 + d) cs else .error .tooLarge

/-- Reads a whole text. -/
def readWord (s : String) : Except DecimalFault Nat :=
  match s.toList with
  | [] => .error .empty
  | ['+'] => .error .invalidDigit
  | '+' :: cs => readDigits 0 cs
  | cs => readDigits 0 cs

end IdlBuild.Text
