import IdlBuild.Text.Fields

/-!
# Modes of files

Modes as users write them: as a number in base eight, or as changes of another mode, such as
`u+x,go-w`.
-/

namespace IdlBuild.Tool

/-! ### Writing -/

/-- The letters of three bits. -/
def bitLetters (bits : Nat) : List Char :=
  [if bits / 4 % 2 = 1 then 'r' else '-', if bits / 2 % 2 = 1 then 'w' else '-',
    if bits % 2 = 1 then 'x' else '-']

/-- A mode in letters. -/
def modeLetters (mode : Nat) : String :=
  String.ofList (bitLetters (mode / 64) ++ bitLetters (mode / 8) ++ bitLetters mode)

/-- A mode in base eight, with a number of digits. -/
def modeDigits (count mode : Nat) : String :=
  let digits := Nat.toDigits 8 mode
  String.ofList (List.replicate (count - digits.length) '0' ++ digits)

/-! ### Reading -/

/-- The bits that letters for users stand for. -/
def userBits (letters : List Char) : Nat :=
  letters.foldl (fun n c => n ||| (match c with
    | 'u' => 0o4700
    | 'g' => 0o2070
    | 'o' => 0o1007
    | _ => 0o7777)) 0

/-- The bits that a letter for a right stands for; `X` stands for running what someone may run
already, and the letters for users for the rights that those have. -/
def rightBits? (isDirectory : Bool) (mode : Nat) (c : Char) : Option Nat :=
  let everywhere (bits : Nat) : Nat := bits * 0o111
  match c with
  | 'r' => some 0o444
  | 'w' => some 0o222
  | 'x' => some 0o111
  | 'X' => some (if isDirectory || mode &&& 0o111 != 0 then 0o111 else 0)
  | 's' => some 0o6000
  | 't' => some 0o1000
  | 'u' => some (everywhere (mode / 64 % 8))
  | 'g' => some (everywhere (mode / 8 % 8))
  | 'o' => some (everywhere (mode % 8))
  | _ => none

/-- Applies the changes of one clause behind its users; `fuel` bounds their number. -/
def changesOf (isDirectory : Bool) (users : Nat) (allowed : Nat) : (fuel : Nat) → List Char → Nat →
    Option Nat
  | 0, _, _ => none
  | _, [], mode => some mode
  | fuel + 1, operator :: rest, mode =>
    if !(['+', '-', '='].contains operator) then none
    else
      let letters := rest.takeWhile fun c => !(['+', '-', '='].contains c)
      match letters.mapM (rightBits? isDirectory mode) with
      | none => none
      | some bits =>
        let wanted := bits.foldl (· ||| ·) 0
        let touched := wanted &&& users &&& allowed
        let changed := match operator with
          | '+' => mode ||| touched
          | '-' => mode - (mode &&& touched)
          | _ => (mode - (mode &&& (users &&& 0o777))) ||| touched
        changesOf isDirectory users allowed fuel (rest.drop letters.length) changed

/-- The mode that a clause makes of another one. Where it names no users, the bits of the mask are
left alone. -/
def clauseOf (isDirectory : Bool) (mask : Nat) (clause : List Char) (mode : Nat) : Option Nat :=
  let isUser (c : Char) : Bool := ['u', 'g', 'o', 'a'].contains c
  let users := clause.takeWhile isUser
  let changes := clause.drop users.length
  if changes.isEmpty then none
  else if users.isEmpty then
    changesOf isDirectory 0o7777 (0o7777 - (mask &&& 0o777)) (changes.length + 1) changes mode
  else changesOf isDirectory (userBits users) 0o7777 (changes.length + 1) changes mode

/-- The number that digits in base eight make, if it is a mode. -/
def octalMode? (cs : List Char) : Option Nat :=
  let n := cs.foldl (fun n c => n * 8 + (c.toNat - 0x30)) 0
  if cs.isEmpty || !cs.all (fun c => '0' ≤ c && c ≤ '7') || 0o7777 < n then none else some n

/-- The mode that a text makes of another one. -/
def modeFrom? (text : String) (isDirectory : Bool) (mask mode : Nat) : Option Nat :=
  match octalMode? text.toList with
  | some n => some n
  | none =>
    (Text.fields ',' text.toList).foldl (fun mode? clause =>
      mode?.bind (clauseOf isDirectory mask clause)) (some mode)

end IdlBuild.Tool
