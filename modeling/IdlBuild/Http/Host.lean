import IdlBuild.Http.DomainName
import IdlBuild.Http.Percent
import IdlBuild.Text.Fields

/-!
# Hosts

The host of an address: a domain name in its ASCII form, an IPv4 address in dotted decimal form,
whatever way it was written, or an IPv6 address in square brackets with its longest run of zeros
left out. Where the scheme of the address is not one of the web, a host that is no IPv6 address is
any text without separators.
-/

namespace IdlBuild.Http

open Text (Bytes)

/-! ### IPv4 addresses -/

/-- A part of an IPv4 address in decimal, octal or hexadecimal digits. -/
def addressPart? (part : List Char) : Option Nat :=
  let (base, digits) : Nat × List Char := match part with
    | '0' :: 'x' :: rest | '0' :: 'X' :: rest => (16, rest)
    | '0' :: c :: rest => (8, c :: rest)
    | _ => (10, part)
  digits.foldlM (fun n c => do
    let d ← hexDigitValue? (asciiByte c)
    if c.toNat < 0x80 ∧ d < base then some (n * base + d) else none) 0

/-- The parts of a dotted name, a final empty one left out. -/
def addressParts (name : List Char) : List (List Char) :=
  let parts := Text.fields '.' name
  if parts.getLast? = some [] ∧ 1 < parts.length then parts.dropLast else parts

/-- Whether a name ends in a number, and so has to be an IPv4 address. -/
def endsInNumber (name : List Char) : Bool :=
  match (addressParts name).getLast? with
  | some part => part ≠ [] ∧ (part.all Char.isDigit ∨
      (("0x".toList.isPrefixOf part ∨ "0X".toList.isPrefixOf part) ∧ (addressPart? part).isSome))
  | none => false

/-- The dotted decimal form of an IPv4 address. -/
def address4? (name : List Char) : Option (List Char) := do
  let parts := addressParts name
  if 4 < parts.length ∨ parts.contains [] then none
  let numbers ← parts.mapM addressPart?
  let last ← numbers.getLast?
  let front := numbers.dropLast
  if front.any (255 < ·) ∨ Nat.pow 256 (4 - front.length) ≤ last then none
  let high := front.zipIdx.foldl (fun n (part, i) => n + part * Nat.pow 256 (3 - i)) 0
  let value := high + last
  let dotted := [value / 0x1000000, value / 0x10000 % 256, value / 0x100 % 256, value % 256]
  return Text.intercalated '.' (dotted.map fun n => Nat.toDigits 10 n)

/-! ### IPv6 addresses -/

/-- One group of up to four hexadecimal digits. -/
def addressGroup? (group : List Char) : Option Nat :=
  if group = [] ∨ 4 < group.length ∨ group.any (fun c => 0x80 ≤ c.toNat) then none
  else group.foldlM (fun n c => (hexDigitValue? (asciiByte c)).map (n * 16 + ·)) 0

/-- The groups between colons, where the last may be an IPv4 address. -/
def addressGroups? (text : List Char) : Option (List Nat) :=
  if text = [] then some []
  else
    let groups := Text.fields ':' text
    match groups.getLast? with
    | some last =>
      if last.contains '.' then do
        let front ← groups.dropLast.mapM addressGroup?
        let parts ← (Text.fields '.' last).mapM fun part =>
          if part = [] ∨ 3 < part.length ∨ !part.all Char.isDigit ∨
              (part.length ≠ 1 ∧ part.head? = some '0')
          then none else addressPart? part
        match parts with
        | [a, b, c, d] =>
          if [a, b, c, d].any (255 < ·) then none
          else return front ++ [a * 256 + b, c * 256 + d]
        | _ => none
      else groups.mapM addressGroup?
    | none => none

/-- The text before the first two colons in a row, and the text after them. -/
def cutDoubleColon : List Char → Option (List Char × List Char)
  | ':' :: ':' :: rest => some ([], rest)
  | c :: rest => (cutDoubleColon rest).map fun (before, after) => (c :: before, after)
  | [] => none

/-- The eight groups of an IPv6 address. -/
def address6? (text : List Char) : Option (List Nat) :=
  match cutDoubleColon text with
  | none => do
    let groups ← addressGroups? text
    if groups.length = 8 then some groups else none
  | some (before, after) => do
    let front ← addressGroups? before
    let back ← addressGroups? after
    if front.length + back.length ≤ 7 then
      some (front ++ List.replicate (8 - front.length - back.length) 0 ++ back)
    else none

/-- The length of the run of zeros at the front. -/
def zeroRun (groups : List Nat) : Nat := (groups.takeWhile (· == 0)).length

/-- The position and the length of the first longest run of at least two zeros. -/
def longestZeroRun (groups : List Nat) : Option (Nat × Nat) :=
  (List.range groups.length).foldl (fun best i =>
    let run := zeroRun (groups.drop i)
    match best with
    | some (_, length) => if length < run then some (i, run) else best
    | none => if 2 ≤ run then some (i, run) else none) none

/-- An IPv6 address in its shortest form, in square brackets. -/
def shownAddress6 (groups : List Nat) : List Char :=
  let shown (groups : List Nat) := Text.intercalated ':' (groups.map fun n => Nat.toDigits 16 n)
  let body := match longestZeroRun groups with
    | some (start, length) =>
      shown (groups.take start) ++ [':', ':'] ++ shown (groups.drop (start + length))
    | none => shown groups
  '[' :: body ++ [']']

/-! ### Any host -/

/-- The IPv6 address that a text in square brackets names. -/
def readAddress6 (text : List Char) : Except String (List Char) :=
  if text.getLast? = some ']' then
    match address6? (text.drop 1).dropLast with
    | some groups => .ok (shownAddress6 groups)
    | none => .error "invalid IPv6 address"
  else .error "invalid IPv6 address"

/-- The host that a text names at a scheme of the web, or what is wrong with the text. -/
def readHost (text : List Char) : Except String (List Char) :=
  if text.head? = some '[' then readAddress6 text
  else
    match (Text.decode (percentDecode (text.flatMap String.utf8EncodeChar))).bind fun decoded =>
        DomainName.ascii? decoded.toList with
    | none => .error "invalid international domain name"
    | some name =>
      if name = [] then .error "empty host"
      else if endsInNumber name then
        match address4? name with
        | some address => .ok address
        | none => .error "invalid IPv4 address"
      else .ok name

/-- A character that separates the parts of an address. -/
def isSeparator (c : Char) : Bool := "\x00\t\n\r #/:<>?@[\\]^|".toList.contains c

/-- The host that a text names at any other scheme. -/
def readOpaqueHost (text : List Char) : Except String (List Char) :=
  if text.head? = some '[' then readAddress6 text
  else if text.any isSeparator then .error "invalid domain character"
  else .ok (percentEncode (fun c => 0x20 ≤ c.toNat && c.toNat < 0x7F) text)

end IdlBuild.Http
