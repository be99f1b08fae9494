/-!
# UTF-8

Texts as bytes and back. `parts` reads any byte list as characters and broken pieces, where a
broken piece is as long as a prefix of a well-formed sequence can be; `decode` accepts the lists
without a broken piece, and `decodeLossy` puts U+FFFD in the place of each. The reader is a machine
that is fed one byte at a time. A byte of ASCII ends whatever has begun (`feed_ascii`).
-/

namespace IdlBuild.Text

/-- Raw bytes, as files and streams hold them. -/
abbrev Bytes := List UInt8

/-! ### Writing -/

/-- The bytes of a text. -/
def encode (s : String) : Bytes := s.toList.flatMap String.utf8EncodeChar

/-! ### Reading -/

/-- What a stretch of bytes was read as. -/
inductive Part where
  | char (c : Char)
  | broken (bytes : Bytes)
deriving DecidableEq, Repr

/-- A sequence that has begun: its bytes so far, the value they carry, the range of the next byte
and the number of bytes after that one. -/
structure Pending where
  seen : Bytes
  value : Nat
  low : UInt8
  high : UInt8
  more : Nat
deriving DecidableEq, Repr

/-- Reads a byte where a sequence may begin. -/
def beginSequence (b : UInt8) : List Part × Option Pending :=
  let n := b.toNat
  if n < 0x80 then ([.char (Char.ofNat n)], none)
  else if 0xC2 ≤ n ∧ n ≤ 0xDF then ([], some ⟨[b], n - 0xC0, 0x80, 0xBF, 0⟩)
  else if n = 0xE0 then ([], some ⟨[b], 0, 0xA0, 0xBF, 1⟩)
  else if n = 0xED then ([], some ⟨[b], 13, 0x80, 0x9F, 1⟩)
  else if 0xE1 ≤ n ∧ n ≤ 0xEF then ([], some ⟨[b], n - 0xE0, 0x80, 0xBF, 1⟩)
  else if n = 0xF0 then ([], some ⟨[b], 0, 0x90, 0xBF, 2⟩)
  else if 0xF1 ≤ n ∧ n ≤ 0xF3 then ([], some ⟨[b], n - 0xF0, 0x80, 0xBF, 2⟩)
  else if n = 0xF4 then ([], some ⟨[b], 4, 0x80, 0x8F, 2⟩)
  else ([.broken [b]], none)

/-- Reads one byte. A byte that does not continue a sequence ends it as broken and begins anew. -/
def feed : Option Pending → UInt8 → List Part × Option Pending
  | none, b => beginSequence b
  | some p, b =>
    if p.low ≤ b ∧ b ≤ p.high then
      let value := p.value * 64 + (b.toNat - 0x80)
      match p.more with
      | 0 => ([.char (Char.ofNat value)], none)
      | more + 1 => ([], some ⟨p.seen ++ [b], value, 0x80, 0xBF, more⟩)
    else
      let (read, next) := beginSequence b
      (.broken p.seen :: read, next)

/-- Reads the rest of the bytes from a given state. -/
def partsFrom : Option Pending → Bytes → List Part
  | none, [] => []
  | some p, [] => [.broken p.seen]
  | state, b :: bs => (feed state b).1 ++ partsFrom (feed state b).2 bs

/-- The characters and broken pieces of a byte list. -/
def parts (bytes : Bytes) : List Part := partsFrom none bytes

/-- The character that stands for a part when broken pieces are replaced. -/
def Part.replaced : Part → Char
  | .char c => c
  | .broken _ => '\uFFFD'

/-- The text of a byte list, U+FFFD for each broken piece. -/
def decodeLossy (bytes : Bytes) : String := String.ofList ((parts bytes).map Part.replaced)

/-- The character of a part that is one. -/
def Part.char? : Part → Option Char
  | .char c => some c
  | .broken _ => none

/-- The text of a byte list, if all of it is well formed. -/
def decode (bytes : Bytes) : Option String := ((parts bytes).mapM Part.char?).map String.ofList

/-! ### Following the machine -/

/-- A byte below 0x80 ends whatever has begun and is itself a character. -/
theorem feed_ascii (state : Option Pending) {b : UInt8} (h : b.toNat < 0x80)
    (hp : ∀ p, state = some p → 0x80 ≤ p.low.toNat) :
    feed state b = (partsFrom state [] ++ [.char (Char.ofNat b.toNat)], none) := by
  cases state with
  | none => simp [feed, beginSequence, partsFrom, h]
  | some p =>
    have hlow := hp p rfl
    have hlt : ¬ p.low ≤ b := by
      intro hle
      have := UInt8.le_iff_toNat_le.1 hle
      omega
    simp [feed, beginSequence, partsFrom, h, hlt]

end IdlBuild.Text
