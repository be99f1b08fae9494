import IdlBuild.Tool.Digests
import IdlBuild.Tool.Entries
import IdlBuild.Tool.Listing

/-!
# Bytes made visible

`od` shows bytes as numbers or letters, a line for every block, with the offset in front. `tsort` and
`shuf` put words into an order.
-/

namespace IdlBuild.Tool

open Shell (Session Call Tool)
open Text (Bytes)

namespace Dump

/-- A way to show bytes: a letter, the number of bytes that are shown together, and whether the line
ends with them as text. -/
structure Form where
  letter : Char
  size : Nat
  tells : Bool

/-- The columns that a number takes, the blank in front of it included. -/
def Form.width (f : Form) : Nat :=
  match f.letter with
  | 'a' | 'c' => 4
  | 'x' => 2 * f.size + 1
  | 'o' => (f.size * 8 + 2) / 3 + 1
  | 'u' => (match f.size with
    | 1 => 3
    | 2 => 5
    | 4 => 10
    | _ => 20) + 1
  | _ => (match f.size with
    | 1 => 4
    | 2 => 6
    | 4 => 11
    | _ => 20) + 1

/-- The names of the units that cannot be printed. -/
def unitNames : Array String :=
  #["nul", "soh", "stx", "etx", "eot", "enq", "ack", "bel", "bs", "ht", "nl", "vt", "ff", "cr", "so",
    "si", "dle", "dc1", "dc2", "dc3", "dc4", "nak", "syn", "etb", "can", "em", "sub", "esc", "fs",
    "gs", "rs", "us", "sp"]

/-- A byte as a letter, or as an escape. -/
def letterOf (b : UInt8) : String :=
  let c := Char.ofNat b.toNat
  match c with
  | '\x00' => "\\0"
  | _ =>
    match escapeLetter? c with
    | some letter => String.ofList ['\\', letter]
    | none => String.ofList (if isPrintable c then [c] else octalEscape c)

/-- A byte by its name. -/
def nameOf (b : UInt8) : String :=
  let n := b.toNat % 128
  if n = 127 then "del" else (unitNames[n]?).getD (String.ofList [Char.ofNat n])

/-- Digits with zeros in front. -/
def digits (base width n : Nat) : String :=
  let found := Nat.toDigits base n
  String.ofList (List.replicate (width - found.length) '0' ++ found)

/-- Some bytes in a form. -/
def Form.shown (f : Form) (bytes : Bytes) : String :=
  let n := Digest.ofBigEndian bytes.reverse
  match f.letter with
  | 'a' => nameOf (bytes.head?.getD 0)
  | 'c' => letterOf (bytes.head?.getD 0)
  | 'x' => digits 16 (f.width - 1) n
  | 'o' => digits 8 (f.width - 1) n
  | 'u' => toString n
  | _ =>
    let full := 1 <<< (8 * f.size)
    toString (if n < full / 2 then (n : Int) else (n : Int) - full)

/-- A block in a form; the width of a whole line is given, and shorter forms are spread over it. -/
def Form.line (f : Form) (perLine whole : Nat) (block : Bytes) : List Char :=
  let fields := perLine / f.size
  let pad := whole - fields * f.width
  let groups := (Digest.pieces f.size block.length block).map fun group =>
    group ++ List.replicate (f.size - group.length) 0
  let body := groups.zipIdx.flatMap fun (group, i) =>
    let left := fields - i
    let extra := pad * left / fields - pad * (left - 1) / fields
    (rightAligned (f.width + extra) (f.shown group)).toList
  if f.tells then
    let fill := List.replicate (whole - body.length) ' '
    let text := block.map fun b => if isPrintable (Char.ofNat b.toNat) then Char.ofNat b.toNat else '.'
    body ++ fill ++ "  >".toList ++ text ++ ['<']
  else body

/-- The forms that a text names; `fuel` bounds its length. -/
def formsOf : (fuel : Nat) → List Char → Except Char (List Form)
  | 0, _ => .ok []
  | _, [] => .ok []
  | fuel + 1, c :: cs =>
    let isText := c == 'a' || c == 'c'
    if !isText && !(['d', 'o', 'u', 'x'].contains c) then .error c
    else
      let (size, rest) : Nat × List Char := if isText then (1, cs) else match cs with
        | 'C' :: rest => (1, rest)
        | 'S' :: rest => (2, rest)
        | 'I' :: rest => (4, rest)
        | 'L' :: rest => (8, rest)
        | _ =>
          let number := cs.takeWhile Char.isDigit
          ((String.ofList number).toNat?.getD 4, cs.drop number.length)
      let (tells, rest) := match rest with
        | 'z' :: rest => (true, rest)
        | _ => (false, rest)
      (formsOf fuel rest).map (⟨c, size, tells⟩ :: ·)

/-- An offset in front of a line. -/
def offsetText (radix : String) (n : Nat) : List Char :=
  match radix with
  | "n" => []
  | "x" => (digits 16 6 n).toList
  | "d" => (digits 10 7 n).toList
  | _ => (digits 8 7 n).toList

/-- Blocks with their offsets; those that repeat the one before are left out, and a star tells of
them. -/
def blockLines (forms : List Form) (radix : String) (perLine : Nat) (repeats : Bool) :
    (before : Option Bytes) → (starred : Bool) → (offset : Nat) → List Bytes → List Char
  | _, _, _, [] => []
  | before, starred, offset, block :: rest =>
    if !repeats && before == some block && !rest.isEmpty then
      (if starred then [] else ['*', '\n']) ++
        blockLines forms radix perLine repeats before true (offset + block.length) rest
    else
      let whole := forms.foldl (fun n f => max n (perLine / f.size * f.width)) 0
      let front := offsetText radix offset
      let blank := List.replicate front.length ' '
      (forms.zipIdx.flatMap fun (f, i) =>
        (if i = 0 then front else blank) ++ f.line perLine whole block ++ ['\n']) ++
        blockLines forms radix perLine repeats (some block) false (offset + block.length) rest

/-- The forms that the letters of options stand for. -/
def lettersOf (key value : String) : String :=
  match key with
  | "b" => "o1"
  | "c" => "c"
  | "d" => "u2"
  | "o" => "o2"
  | "x" => "x2"
  | "a" => "a"
  | "s" => "d2"
  | "i" => "d4"
  | "l" => "d8"
  | "t" => value
  | _ => ""

end Dump

/-- Shows bytes. -/
def od : Tool :=
  withOptions [taking 'A' "address-radix", taking 't' "format", taking 'N' "read-bytes",
    taking 'j' "skip-bytes", ⟨some 'w', ["width"], .perhaps⟩, flag 'v' "output-duplicates",
    flag 'a' "", flag 'b' "", flag 'c' "", flag 'd' "", flag 'o' "", flag 's' "", flag 'x' "",
    flag 'i' "", flag 'l' "", taking 'S' "strings"] 1 fun o c s =>
  let letters := String.join (o.given.map fun (key, value) => Dump.lettersOf key value)
  match Dump.formsOf (letters.length + 1) (if letters.isEmpty then "o2" else letters).toList with
  | .error wrong =>
    complain s s!"{c.name}: invalid character '{wrong}' in type string {quotedValue letters}"
  | .ok forms =>
    let (cs, s) := allInputs .plain c o.operands s
    let skip := ((o.value? "j").bind fun t => sizeOf? t.toList).getD 0
    let cs := cs.drop skip
    let cs := match (o.value? "N").bind fun t => sizeOf? t.toList with
      | some n => cs.take n
      | none => cs
    let perLine := match o.value? "w" with
      | some "" => 32
      | some text => (text.toNat?.getD 16).max 1
      | none => 16
    let bytes := bytesOf cs
    let radix := (o.value? "A").getD "o"
    let body := Dump.blockLines forms radix perLine (o.has "v") none false skip
      (Digest.pieces perLine bytes.length bytes)
    let ending := Dump.offsetText radix (skip + bytes.length)
    put (body ++ (if ending.isEmpty then [] else ending ++ ['\n'])) s

/-! ### Words in order -/

/-- Words in an order in which each stands before those that it has to stand before; `fuel` bounds
their number. Loops are cut at their first word, and told of. -/
def inTopologicalOrder : (fuel : Nat) → (words : List String) → (pairs : List (String × String)) →
    List (String ⊕ List String)
  | 0, _, _ => []
  | fuel + 1, words, pairs =>
    match words with
    | [] => []
    | first :: _ =>
      match words.filter fun w => !pairs.any fun (_, b) => b == w with
      | [] =>
        let loop := words.filter fun w => pairs.any fun (_, b) => b == w
        .inr loop :: inTopologicalOrder fuel words (pairs.filter fun (_, b) => b != first)
      | free =>
        free.map .inl ++ inTopologicalOrder fuel (words.filter (!free.contains ·))
          (pairs.filter fun (a, _) => !free.contains a)

/-- Puts words into an order. -/
def tsort : Tool := withOptions [] 1 fun o c s =>
  match o.operands with
  | _ :: extra :: _ => extraOperand c 1 extra s
  | operands =>
    let name := operands.head?.getD "-"
    match inputOr .plain c name s with
    | (none, s) => s
    | (some cs, s) =>
      let words := ((Text.fields ' ' (cs.map fun c =>
        if c == '\n' || c == '\t' then ' ' else c)).filter (!·.isEmpty)).map String.ofList
      if words.length % 2 = 1 then
        complain s s!"{c.name}: {name}: input contains an odd number of tokens"
      else
        let rec pairsOf : List String → List (String × String)
          | a :: b :: rest => (a, b) :: pairsOf rest
          | _ => []
        let pairs := (pairsOf words).filter fun (a, b) => a != b
        let all := words.eraseDups.mergeSort fun a b => a ≤ b
        (inTopologicalOrder (2 * all.length + 2) all pairs.eraseDups).foldl (fun s part =>
          match part with
          | .inl word => s.printLine word
          | .inr loop =>
            let s := complain s s!"{c.name}: {name}: input contains a loop:"
            loop.foldl (fun s word => s.complain s!"{c.name}: {word}") s) s

/-- Puts lines into an order that nobody asked for: the one that they have. -/
def shuf : Tool :=
  withOptions [flag 'e' "echo", taking 'i' "input-range", taking 'n' "head-count",
    taking 'o' "output", flag 'r' "repeat", flag 'z' "zero-terminated",
    longTaking "random-source"] 1 fun o c s =>
  let (lines, s) : List (List Char) × Session :=
    if o.has "e" then (o.operands.map String.toList, s)
    else match o.value? "i" with
      | some range =>
        match Text.cutFirst '-' range.toList with
        | some (low, high) =>
          let low := (String.ofList low).toNat?.getD 0
          let high := (String.ofList high).toNat?.getD 0
          ((List.range (high + 1 - low)).map fun i => (toString (low + i)).toList, s)
        | none => ([], s)
      | none =>
        let (cs, s) := allInputs .plain c (o.operands.take 1) s
        (linesOf cs, s)
  let lines := match (o.value? "n").bind String.toNat? with
    | some n => lines.take n
    | none => lines
  put (ofLines lines) s

end IdlBuild.Tool
