import IdlBuild.Tool.Input
import IdlBuild.Tool.Paths

/-!
# Digests and codes of files

`md5sum` and its kin, `cksum`, `sum`, `base64` and `base32`. A text is filled up to whole blocks, and
each block is worked into a state of words; in the end the state is the digest.
-/

namespace IdlBuild.Tool

open Shell (Session Call Tool)
open Text (Bytes)

namespace Digest

/-! ### Blocks -/

/-- The bytes of a number, the highest first. -/
def bigEndian : (count : Nat) → (n : Nat) → Bytes
  | 0, _ => []
  | count + 1, n => bigEndian count (n / 0x100) ++ [UInt8.ofNat (n % 0x100)]

/-- The number that bytes are, the highest first. -/
def ofBigEndian (bytes : Bytes) : Nat := bytes.foldl (fun n b => n * 0x100 + b.toNat) 0

/-- Bytes filled up to whole blocks of a size; the last bytes hold the length in bits. -/
def filled (block lengthBytes : Nat) (isBig : Bool) (bytes : Bytes) : Bytes :=
  let used := bytes.length + 1 + lengthBytes
  let zeros := (block - used % block) % block
  let length := bigEndian lengthBytes (bytes.length * 8)
  bytes ++ 0x80 :: List.replicate zeros 0 ++ (if isBig then length else length.reverse)

/-- A row in pieces of a size; `fuel` bounds their number. -/
def pieces {α : Type} (size : Nat) : (fuel : Nat) → List α → List (List α)
  | 0, _ => []
  | _, [] => []
  | fuel + 1, xs => xs.take size :: pieces size fuel (xs.drop size)

/-- The words of a block. -/
def wordsOf (size : Nat) (isBig : Bool) (block : Bytes) : Array Nat :=
  ((pieces size block.length block).map fun word =>
    ofBigEndian (if isBig then word else word.reverse)).toArray

/-! ### Constants -/

/-- The first prime numbers; `fuel` bounds how far they are looked for. -/
def primesFrom : (fuel count candidate : Nat) → (found : List Nat) → List Nat
  | 0, _, _, found => found.reverse
  | _, 0, _, found => found.reverse
  | fuel + 1, count + 1, candidate, found =>
    if found.any fun p => candidate % p = 0 then
      primesFrom fuel (count + 1) (candidate + 1) found
    else primesFrom fuel count (candidate + 1) (candidate :: found)

/-- The first prime numbers. -/
def primes (count : Nat) : List Nat := primesFrom 1000 count 2 []

/-- The greatest number of which a power is at most `n`; found bit by bit. -/
def root (power n : Nat) : (bits : Nat) → (found : Nat) → Nat
  | 0, found => found
  | bits + 1, found =>
    let next := found + 1 <<< bits
    root power n bits (if Nat.pow next power ≤ n then next else found)

/-- The first bits behind the point of a root of a number. -/
def rootFraction (power bits n : Nat) : Nat :=
  root power (n <<< (power * bits)) (bits + 8) 0 % (1 <<< bits)

/-! ### Words -/

/-- A word turned to the left. -/
def turnLeft (n : UInt32) (count : Nat) : UInt32 :=
  (n <<< UInt32.ofNat count) ||| (n >>> UInt32.ofNat (32 - count))

/-- A word turned to the right within a number of bits. -/
def turnRight (bits n count : Nat) : Nat :=
  (n >>> count) ||| ((n <<< (bits - count)) % (1 <<< bits))

/-! ### MD5 -/

/-- How far each step turns. -/
def md5Turns : Array Nat := #[7, 12, 17, 22, 5, 9, 14, 20, 4, 11, 16, 23, 6, 10, 15, 21]

/-- The constants of the steps: sines. -/
def md5Sines : Array UInt32 :=
  ((List.range 64).map fun i =>
    ((Float.sin (Float.ofNat (i + 1))).abs * 4294967296.0).toUInt64.toUInt32).toArray

/-- Works a block into the state. -/
def md5Block (state : List UInt32) (block : Bytes) : List UInt32 :=
  let words := wordsOf 4 false block
  match state with
  | [a0, b0, c0, d0] =>
    let (a, b, c, d) := (List.range 64).foldl (fun ((a, b, c, d) : UInt32 × UInt32 × UInt32 × UInt32) i =>
      let (f, g) : UInt32 × Nat := match i / 16 with
        | 0 => ((b &&& c) ||| ((~~~b) &&& d), i)
        | 1 => ((d &&& b) ||| ((~~~d) &&& c), (5 * i + 1) % 16)
        | 2 => (b ^^^ c ^^^ d, (3 * i + 5) % 16)
        | _ => (c ^^^ (b ||| (~~~d)), (7 * i) % 16)
      let sum := f + a + (md5Sines[i]?).getD 0 + UInt32.ofNat ((words[g]?).getD 0)
      let turn := (md5Turns[i / 16 * 4 + i % 4]?).getD 0
      (d, b + turnLeft sum turn, b, c)) (a0, b0, c0, d0)
    [a0 + a, b0 + b, c0 + c, d0 + d]
  | _ => state

/-- The MD5 digest. -/
def md5 (bytes : Bytes) : Bytes :=
  let all := filled 64 8 false bytes
  let state := (pieces 64 all.length all).foldl md5Block
    [0x67452301, 0xefcdab89, 0x98badcfe, 0x10325476]
  state.flatMap fun n => (bigEndian 4 n.toNat).reverse

/-! ### SHA-1 -/

/-- The words of a block with those that follow from them; `count` says how many. -/
def sha1Words : (count : Nat) → Array UInt32 → Array UInt32
  | 0, words => words
  | count + 1, words =>
    let back (n : Nat) : UInt32 := (words[words.size - n]?).getD 0
    sha1Words count (words.push (turnLeft (back 3 ^^^ back 8 ^^^ back 14 ^^^ back 16) 1))

/-- Works a block into the state. -/
def sha1Block (state : List UInt32) (block : Bytes) : List UInt32 :=
  let words := sha1Words 64 ((wordsOf 4 true block).map UInt32.ofNat)
  match state with
  | [a0, b0, c0, d0, e0] =>
    let (a, b, c, d, e) := (List.range 80).foldl
      (fun ((a, b, c, d, e) : UInt32 × UInt32 × UInt32 × UInt32 × UInt32) i =>
        let (f, k) : UInt32 × UInt32 := match i / 20 with
          | 0 => ((b &&& c) ||| ((~~~b) &&& d), 0x5A827999)
          | 1 => (b ^^^ c ^^^ d, 0x6ED9EBA1)
          | 2 => ((b &&& c) ||| (b &&& d) ||| (c &&& d), 0x8F1BBCDC)
          | _ => (b ^^^ c ^^^ d, 0xCA62C1D6)
        (turnLeft a 5 + f + e + k + (words[i]?).getD 0, a, turnLeft b 30, c, d))
      (a0, b0, c0, d0, e0)
    [a0 + a, b0 + b, c0 + c, d0 + d, e0 + e]
  | _ => state

/-- The SHA-1 digest. -/
def sha1 (bytes : Bytes) : Bytes :=
  let all := filled 64 8 true bytes
  let state := (pieces 64 all.length all).foldl sha1Block
    [0x67452301, 0xEFCDAB89, 0x98BADCFE, 0x10325476, 0xC3D2E1F0]
  state.flatMap fun n => bigEndian 4 n.toNat

/-! ### SHA-2 -/

/-- A kind of SHA-2: the bits of a word, the number of steps, and how far words are turned. -/
structure Kind where
  bits : Nat
  steps : Nat
  high : Nat × Nat × Nat
  low : Nat × Nat × Nat
  late : Nat × Nat × Nat
  early : Nat × Nat × Nat

/-- The kind with words of 32 bits. -/
def Kind.small : Kind :=
  ⟨32, 64, (2, 13, 22), (6, 11, 25), (17, 19, 10), (7, 18, 3)⟩

/-- The kind with words of 64 bits. -/
def Kind.large : Kind :=
  ⟨64, 80, (28, 34, 39), (14, 18, 41), (19, 61, 6), (1, 8, 7)⟩

/-- A word turned three times, or turned twice and shifted, and mixed. -/
def Kind.mixed (kind : Kind) (shifts : Bool) (turns : Nat × Nat × Nat) (n : Nat) : Nat :=
  let last := if shifts then n >>> turns.2.2 else turnRight kind.bits n turns.2.2
  turnRight kind.bits n turns.1 ^^^ turnRight kind.bits n turns.2.1 ^^^ last

/-- A sum that stays within a word. -/
def Kind.sum (kind : Kind) (ns : List Nat) : Nat := ns.foldl (· + ·) 0 % (1 <<< kind.bits)

/-- The words of a block with those that follow from them; `count` says how many. -/
def Kind.words (kind : Kind) : (count : Nat) → Array Nat → Array Nat
  | 0, words => words
  | count + 1, words =>
    let back (n : Nat) : Nat := (words[words.size - n]?).getD 0
    Kind.words kind count (words.push (kind.sum [kind.mixed true kind.late (back 2), back 7,
      kind.mixed true kind.early (back 15), back 16]))

/-- Works a block into the state. -/
def Kind.block (kind : Kind) (constants : Array Nat) (state : List Nat) (block : Bytes) :
    List Nat :=
  let words := kind.words (kind.steps - 16) (wordsOf (kind.bits / 8) true block)
  let full := 1 <<< kind.bits
  let done := (List.range kind.steps).foldl (fun state i =>
    match state with
    | [a, b, c, d, e, f, g, h] =>
      let chosen := (e &&& f) ^^^ ((full - 1 - e) &&& g)
      let most := (a &&& b) ^^^ (a &&& c) ^^^ (b &&& c)
      let first := kind.sum [h, kind.mixed false kind.low e, chosen, (constants[i]?).getD 0,
        (words[i]?).getD 0]
      let second := kind.sum [kind.mixed false kind.high a, most]
      [kind.sum [first, second], a, b, c, kind.sum [d, first], e, f, g]
    | other => other) state
  (state.zip done).map fun (a, b) => (a + b) % full

/-- A digest of this kind that starts with a state and is cut to a number of bytes. -/
def Kind.digest (kind : Kind) (start : List Nat) (size : Nat) (bytes : Bytes) : Bytes :=
  let block := kind.bits * 2
  let all := filled block (kind.bits / 4) true bytes
  let constants := ((primes kind.steps).map (rootFraction 3 kind.bits)).toArray
  let state := (pieces block all.length all).foldl (kind.block constants) start
  (state.flatMap (bigEndian (kind.bits / 8))).take size

/-- The SHA-256 digest. -/
def sha256 (bytes : Bytes) : Bytes :=
  Kind.small.digest ((primes 8).map (rootFraction 2 32)) 32 bytes

/-- The SHA-224 digest. -/
def sha224 (bytes : Bytes) : Bytes :=
  Kind.small.digest
    (((primes 16).drop 8).map fun p => rootFraction 2 64 p % 0x100000000) 28 bytes

/-- The SHA-512 digest. -/
def sha512 (bytes : Bytes) : Bytes :=
  Kind.large.digest ((primes 8).map (rootFraction 2 64)) 64 bytes

/-- The SHA-384 digest. -/
def sha384 (bytes : Bytes) : Bytes :=
  Kind.large.digest (((primes 16).drop 8).map (rootFraction 2 64)) 48 bytes

/-! ### Sums -/

/-- A bit of a remainder, worked in. -/
def crcBit (n : UInt32) : UInt32 :=
  if n &&& 0x80000000 != 0 then (n <<< 1) ^^^ 0x04C11DB7 else n <<< 1

/-- A byte worked into a remainder. -/
def crcByte (n : UInt32) (b : UInt8) : UInt32 :=
  (List.range 8).foldl (fun n _ => crcBit n) (n ^^^ (b.toUInt32 <<< 24))

/-- The bytes of a length, the lowest first, without zeros at the end; `fuel` bounds them. -/
def lengthBytes : (fuel : Nat) → Nat → Bytes
  | 0, _ => []
  | _, 0 => []
  | fuel + 1, n => UInt8.ofNat (n % 0x100) :: lengthBytes fuel (n / 0x100)

/-- The remainder of a text and its length. -/
def crc (bytes : Bytes) : Nat :=
  (~~~(lengthBytes 16 bytes.length).foldl crcByte (bytes.foldl crcByte 0)).toNat

/-- A sum that is turned by one bit before each byte. -/
def turningSum (bytes : Bytes) : Nat :=
  bytes.foldl (fun n b => (n / 2 + n % 2 * 0x8000 + b.toNat) % 0x10000) 0

/-- A sum of all bytes, folded. -/
def plainSum (bytes : Bytes) : Nat :=
  let n := bytes.foldl (fun n b => n + b.toNat) 0
  let r := n % 0x10000 + n % 0x100000000 / 0x10000
  r % 0x10000 + r / 0x10000

end Digest

/-! ### Tools that check -/

/-- A number of digits in front of a number. -/
def zeroFilled (width n : Nat) : String :=
  let digits := toString n
  String.ofList (List.replicate (width - digits.length) '0') ++ digits

/-- Bytes in base 16. -/
def hexOf (bytes : Bytes) : String :=
  String.ofList (bytes.flatMap fun b =>
    [Nat.digitChar (b.toNat / 16), Nat.digitChar (b.toNat % 16)])

/-- A line of a list of digests: the digest and the name, if it is one. -/
def digestLine? (digits : Nat) (line : String) : Option (String × String) :=
  let cs := line.toList
  let front := cs.take digits
  match cs.drop digits with
  | ' ' :: mark :: name =>
    if front.length = digits && front.all (fun c => c.isDigit || ('a' ≤ c.toLower && c.toLower ≤ 'f'))
        && (mark == ' ' || mark == '*') && !name.isEmpty then
      some (String.ofList (front.map Char.toLower), String.ofList name)
    else none
  | _ => none

/-- What came of checking a list. -/
structure Checked where
  right : Nat
  wrong : Nat
  unread : Nat
  malformed : Nat

/-- Checks one list of digests. -/
def checkList (c : Call) (o : Options) (digest : Bytes → Bytes) (digits : Nat) (list : String)
    (s : Session) : Session :=
  match inputOr .plain c list s with
  | (none, s) => s
  | (some cs, s) =>
    let quiet := o.has "status"
    let (found, s) := (linesOf cs).foldl (fun ((found, s) : Checked × Session) line =>
      match digestLine? digits (String.ofList line) with
      | none => ({ found with malformed := found.malformed + 1 }, s)
      | some (wanted, name) =>
        match input name s with
        | (.content content, s) =>
          if hexOf (digest (bytesOf content)) == wanted then
            ({ found with right := found.right + 1 },
              if quiet || o.has "quiet" then s else s.printLine s!"{name}: OK")
          else
            ({ found with wrong := found.wrong + 1 },
              if quiet then s else s.printLine s!"{name}: FAILED")
        | (.unopened fault, s) | (.unread fault, s) =>
          let s := s.complain s!"{c.name}: {shownName name}: {fault.reason}"
          ({ found with unread := found.unread + 1 },
            if quiet then s else s.printLine s!"{name}: FAILED open or read"))
      ((⟨0, 0, 0, 0⟩ : Checked), s)
    if found.right + found.wrong + found.unread = 0 then
      complain s s!"{c.name}: {shownName list}: no properly formatted checksum lines found"
    else
      let warn (n : Nat) (one many : String) (s : Session) : Session :=
        if n = 0 || quiet then s
        else
          let text := if n = 1 then one else many
          s.complain s!"{c.name}: WARNING: {n} {text}"
      let s := warn found.malformed "line is improperly formatted" "lines are improperly formatted" s
      let s := warn found.unread "listed file could not be read" "listed files could not be read" s
      let s := warn found.wrong "computed checksum did NOT match"
        "computed checksums did NOT match" s
      if found.wrong + found.unread = 0 then s else s.withStatus 1

/-- A tool that shows digests. -/
def digestTool (title : String) (digest : Bytes → Bytes) (digits : Nat) : Tool :=
  withOptions [flag 'b' "binary", flag 't' "text", flag 'c' "check", flag 'z' "zero",
    flag 'w' "warn", longFlag "tag", longFlag "quiet", longFlag "status", longFlag "strict",
    longFlag "ignore-missing"] 1 fun o c s =>
  if o.has "c" then (orInput o.operands).foldl (fun s list => checkList c o digest digits list s) s
  else onInputs .plain c o.operands (fun name cs s =>
    let ending := if o.has "z" then "\x00" else "\n"
    let shown := hexOf (digest (bytesOf cs))
    let mark := if o.has "b" then "*" else " "
    s.print (if o.has "tag" then s!"{title} ({name}) = {shown}{ending}"
      else s!"{shown} {mark}{name}{ending}")) s

/-- Shows remainders and lengths of files. -/
def cksum : Tool := withOptions [taking 'a' "algorithm"] 1 fun o c s =>
  let show' (name : String) (cs : List Char) (s : Session) : Session :=
    let title := if name == "-" && o.operands.isEmpty then "" else " " ++ name
    s.printLine s!"{Digest.crc (bytesOf cs)} {cs.length}{title}"
  onInputs .plain c o.operands show' s

/-- Shows sums and sizes of files. -/
def sum : Tool := withOptions [flag 'r' "", flag 's' "sysv"] 1 fun o c s =>
  onInputs .plain c o.operands (fun name cs s =>
    let title := if name == "-" && o.operands.isEmpty then "" else " " ++ name
    let bytes := bytesOf cs
    if o.last? ["r", "s"] == some "s" then
      s.printLine s!"{Digest.plainSum bytes} {(cs.length + 511) / 512}{title}"
    else
      let blocks := toString ((cs.length + 1023) / 1024)
      let fill := String.ofList (List.replicate (5 - blocks.length) ' ')
      s.printLine s!"{zeroFilled 5 (Digest.turningSum bytes)} {fill}{blocks}{title}") s

/-! ### Codes -/

/-- The letters of a code with groups of bits. -/
def codeLetters (bits : Nat) : Array Char :=
  if bits = 6 then "ABCDEFGHIJKLMNOPQRSTUVWXYZabcdefghijklmnopqrstuvwxyz0123456789+/".toList.toArray
  else "ABCDEFGHIJKLMNOPQRSTUVWXYZ234567".toList.toArray

/-- Bytes in letters: `size` bytes make `count` letters. -/
def encoded (bits size count : Nat) (bytes : Bytes) : List Char :=
  let letters := codeLetters bits
  (Digest.pieces size bytes.length bytes).flatMap fun piece =>
    let whole := piece ++ List.replicate (size - piece.length) 0
    let n := Digest.ofBigEndian whole
    let used := (piece.length * 8 + bits - 1) / bits
    (List.range count).map fun i =>
      if used ≤ i then '='
      else (letters[(n >>> (bits * (count - 1 - i))) % (1 <<< bits)]?).getD '='

/-- What letters stand for, and whether all of them were letters. -/
def decoded (bits size count : Nat) (ignores : Bool) (cs : List Char) : Bytes × Bool :=
  let letters := codeLetters bits
  let isLetter (c : Char) : Bool := c == '=' || letters.contains c
  let body := cs.filter fun c => c != '\n' && (isLetter c || !ignores)
  let good := body.takeWhile isLetter
  let groups := Digest.pieces count good.length good
  let ofGroup (group : List Char) : Bytes :=
    let used := group.takeWhile (· != '=')
    let n := (List.range count).foldl (fun n i =>
      (n <<< bits) + ((used[i]?).bind letters.idxOf?).getD 0) 0
    (Digest.bigEndian size n).take (used.length * bits / 8)
  let isWhole := good.length = body.length && good.length % count = 0
  (groups.flatMap ofGroup, isWhole)

/-- A text in lines of a width. -/
def wrapped (width : Nat) (cs : List Char) : List Char :=
  if width = 0 then cs
  else (Digest.pieces width cs.length cs).flatMap fun line => line ++ ['\n']

/-- A tool that writes bytes in letters, or reads them. -/
def codeTool (bits size count : Nat) : Tool :=
  withOptions [flag 'd' "decode", flag 'i' "ignore-garbage", taking 'w' "wrap"] 1 fun o c s =>
  match o.operands with
  | _ :: extra :: _ => extraOperand c 1 extra s
  | operands =>
    match (o.value? "w").getD "76" |>.toNat? with
    | none =>
      let shown := quotedValue ((o.value? "w").getD "")
      complain s s!"{c.name}: invalid wrap size: {shown}"
    | some width =>
      let wording : Wording := { Wording.plain with unread := fun _ reason => s!"read error: {reason}" }
      onInputs wording c operands (fun _ cs s =>
        if o.has "d" then
          let (bytes, isWhole) := decoded bits size count (o.has "i") cs
          let s := s.write 1 bytes
          if isWhole then s else complain s s!"{c.name}: invalid input"
        else put (wrapped width (encoded bits size count (bytesOf cs))) s) s

end IdlBuild.Tool
