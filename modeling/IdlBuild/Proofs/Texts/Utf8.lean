import IdlBuild.Text.Utf8
import Mathlib.Data.List.Basic
import Mathlib.Tactic.NormNum

/-!
# UTF-8 there and back

Reading the bytes of a text gives the text (`decodeLossy_encode`). Whatever bytes are read, the
parts that they are read as have these bytes (`bytes_parts`), so a character is read only where its
own bytes stand. A byte below 0x80 belongs to no longer sequence: bytes that are cut at it and then
read give the same as bytes that are read as a whole (`decodeLossy_cut`).
-/

namespace IdlBuild.Text

/-! ### Steps of the reader -/

theorem partsFrom_last {p : Pending} {b : UInt8} (bs : Bytes) (hlow : p.low.toNat ≤ b.toNat)
    (hhigh : b.toNat ≤ p.high.toNat) (hmore : p.more = 0) :
    partsFrom (some p) (b :: bs) =
      .char (Char.ofNat (p.value * 64 + (b.toNat - 0x80))) :: partsFrom none bs := by
  have hrange : p.low ≤ b ∧ b ≤ p.high :=
    ⟨UInt8.le_iff_toNat_le.2 hlow, UInt8.le_iff_toNat_le.2 hhigh⟩
  simp [partsFrom, feed, hrange, hmore]

theorem partsFrom_next {p : Pending} {b : UInt8} {more : Nat} (bs : Bytes)
    (hlow : p.low.toNat ≤ b.toNat) (hhigh : b.toNat ≤ p.high.toNat) (hmore : p.more = more + 1) :
    partsFrom (some p) (b :: bs) =
      partsFrom (some ⟨p.seen ++ [b], p.value * 64 + (b.toNat - 0x80), 0x80, 0xBF, more⟩) bs := by
  have hrange : p.low ≤ b ∧ b ≤ p.high :=
    ⟨UInt8.le_iff_toNat_le.2 hlow, UInt8.le_iff_toNat_le.2 hhigh⟩
  simp [partsFrom, feed, hrange, hmore]

/-- What the first byte of a sequence says of the sequence. -/
inductive Begins (b : UInt8) : List Part × Option Pending → Prop
  | single (h : b.toNat < 0x80) : Begins b ([.char (Char.ofNat b.toNat)], none)
  | two (hlow : 0xC2 ≤ b.toNat) (hhigh : b.toNat ≤ 0xDF) :
    Begins b ([], some ⟨[b], b.toNat - 0xC0, 0x80, 0xBF, 0⟩)
  | three (low high : UInt8) (hfirst : 0xE0 ≤ b.toNat) (hlast : b.toNat ≤ 0xEF)
    (hlow : b.toNat = 0xE0 ∧ low.toNat = 0xA0 ∨ b.toNat ≠ 0xE0 ∧ low.toNat = 0x80)
    (hhigh : b.toNat = 0xED ∧ high.toNat = 0x9F ∨ b.toNat ≠ 0xED ∧ high.toNat = 0xBF) :
    Begins b ([], some ⟨[b], b.toNat - 0xE0, low, high, 1⟩)
  | four (low high : UInt8) (hfirst : 0xF0 ≤ b.toNat) (hlast : b.toNat ≤ 0xF4)
    (hlow : b.toNat = 0xF0 ∧ low.toNat = 0x90 ∨ b.toNat ≠ 0xF0 ∧ low.toNat = 0x80)
    (hhigh : b.toNat = 0xF4 ∧ high.toNat = 0x8F ∨ b.toNat ≠ 0xF4 ∧ high.toNat = 0xBF) :
    Begins b ([], some ⟨[b], b.toNat - 0xF0, low, high, 2⟩)
  | broken (h : 0x80 ≤ b.toNat ∧ b.toNat < 0xC2 ∨ 0xF5 ≤ b.toNat) : Begins b ([.broken [b]], none)

theorem begins_beginSequence (b : UInt8) : Begins b (beginSequence b) := by
  have hlt := b.toNat_lt
  unfold beginSequence
  dsimp only
  split_ifs with h1 h2 h3 h4 h5 h6 h7 h8
  · exact .single h1
  · exact .two h2.1 h2.2
  · have hvalue : 0 = b.toNat - 0xE0 := by omega
    rw [hvalue]
    exact .three _ _ (by omega) (by omega) (.inl ⟨h3, rfl⟩) (.inr ⟨by omega, rfl⟩)
  · have hvalue : 13 = b.toNat - 0xE0 := by omega
    rw [hvalue]
    exact .three _ _ (by omega) (by omega) (.inr ⟨h3, rfl⟩) (.inl ⟨h4, rfl⟩)
  · exact .three _ _ (by omega) (by omega) (.inr ⟨h3, rfl⟩) (.inr ⟨h4, rfl⟩)
  · have hvalue : 0 = b.toNat - 0xF0 := by omega
    rw [hvalue]
    exact .four _ _ (by omega) (by omega) (.inl ⟨h6, rfl⟩) (.inr ⟨by omega, rfl⟩)
  · exact .four _ _ (by omega) (by omega) (.inr ⟨h6, rfl⟩) (.inr ⟨by omega, rfl⟩)
  · have hvalue : 4 = b.toNat - 0xF0 := by omega
    rw [hvalue]
    exact .four _ _ (by omega) (by omega) (.inr ⟨h6, rfl⟩) (.inl ⟨h8, rfl⟩)
  · exact .broken (by omega)

/-! ### Reading what was written -/

theorem partsFrom_one {b : UInt8} (bs : Bytes) (hb : b.toNat < 0x80) :
    partsFrom none (b :: bs) = .char (Char.ofNat b.toNat) :: partsFrom none bs := by
  simp [partsFrom, feed, beginSequence, hb]

theorem partsFrom_two {b₁ b₂ : UInt8} (bs : Bytes) (h₁ : 0xC2 ≤ b₁.toNat ∧ b₁.toNat ≤ 0xDF)
    (h₂ : 0x80 ≤ b₂.toNat ∧ b₂.toNat ≤ 0xBF) :
    partsFrom none (b₁ :: b₂ :: bs) =
      .char (Char.ofNat ((b₁.toNat - 0xC0) * 64 + (b₂.toNat - 0x80))) :: partsFrom none bs := by
  have hbegins := begins_beginSequence b₁
  rw [partsFrom, feed]
  generalize beginSequence b₁ = begun at *
  cases hbegins with
  | two => exact partsFrom_last bs h₂.1 h₂.2 rfl
  | single | three | four | broken => omega

theorem partsFrom_three {b₁ b₂ b₃ : UInt8} (bs : Bytes)
    (h₁ : 0xE0 ≤ b₁.toNat ∧ b₁.toNat ≤ 0xEF)
    (h₂ : 0x80 ≤ b₂.toNat ∧ b₂.toNat ≤ 0xBF) (hlow : b₁.toNat = 0xE0 → 0xA0 ≤ b₂.toNat)
    (hhigh : b₁.toNat = 0xED → b₂.toNat ≤ 0x9F)
    (h₃ : 0x80 ≤ b₃.toNat ∧ b₃.toNat ≤ 0xBF) :
    partsFrom none (b₁ :: b₂ :: b₃ :: bs) =
      .char (Char.ofNat (((b₁.toNat - 0xE0) * 64 + (b₂.toNat - 0x80)) * 64 + (b₃.toNat - 0x80)))
        :: partsFrom none bs := by
  have hbegins := begins_beginSequence b₁
  rw [partsFrom, feed]
  generalize beginSequence b₁ = begun at *
  cases hbegins with
  | three low high hfirst hlast hl hh =>
    have hlowest : low.toNat ≤ b₂.toNat := by omega
    have hhighest : b₂.toNat ≤ high.toNat := by omega
    exact (partsFrom_next _ hlowest hhighest rfl).trans (partsFrom_last bs h₃.1 h₃.2 rfl)
  | single | two | four | broken => omega

theorem partsFrom_four {b₁ b₂ b₃ b₄ : UInt8} (bs : Bytes)
    (h₁ : 0xF0 ≤ b₁.toNat ∧ b₁.toNat ≤ 0xF4)
    (h₂ : 0x80 ≤ b₂.toNat ∧ b₂.toNat ≤ 0xBF) (hlow : b₁.toNat = 0xF0 → 0x90 ≤ b₂.toNat)
    (hhigh : b₁.toNat = 0xF4 → b₂.toNat ≤ 0x8F)
    (h₃ : 0x80 ≤ b₃.toNat ∧ b₃.toNat ≤ 0xBF) (h₄ : 0x80 ≤ b₄.toNat ∧ b₄.toNat ≤ 0xBF) :
    partsFrom none (b₁ :: b₂ :: b₃ :: b₄ :: bs) =
      .char (Char.ofNat ((((b₁.toNat - 0xF0) * 64 + (b₂.toNat - 0x80)) * 64
        + (b₃.toNat - 0x80)) * 64 + (b₄.toNat - 0x80))) :: partsFrom none bs := by
  have hbegins := begins_beginSequence b₁
  rw [partsFrom, feed]
  generalize beginSequence b₁ = begun at *
  cases hbegins with
  | four low high hfirst hlast hl hh =>
    have hlowest : low.toNat ≤ b₂.toNat := by omega
    have hhighest : b₂.toNat ≤ high.toNat := by omega
    exact ((partsFrom_next _ hlowest hhighest rfl).trans (partsFrom_next _ h₃.1 h₃.2 rfl)).trans
      (partsFrom_last bs h₄.1 h₄.2 rfl)
  | single | two | three | broken => omega

/-- A character is read from its bytes, whatever follows them. -/
theorem partsFrom_utf8EncodeChar (c : Char) (bs : Bytes) :
    partsFrom none (String.utf8EncodeChar c ++ bs) = .char c :: partsFrom none bs := by
  have hvalid : c.val.toNat < 0xD800 ∨ (0xDFFF < c.val.toNat ∧ c.val.toNat < 0x110000) := c.valid
  have hchar : Char.ofNat c.val.toNat = c := Char.ofNat_toNat c
  have hbyte : ∀ n, n < 0x100 → (UInt8.ofNat n).toNat = n := fun n hn => UInt8.toNat_ofNat_of_lt' hn
  have htail : ∀ n, (UInt8.ofNat (n % 64 + 128)).toNat = n % 64 + 128 :=
    fun n => hbyte _ (by omega)
  unfold String.utf8EncodeChar
  generalize c.val.toNat = v at *
  dsimp only
  split_ifs with h1 h2 h3
  · have hb := hbyte v (by omega)
    rw [List.singleton_append, partsFrom_one _ (by omega), hb, hchar]
  · have hb₁ := hbyte (v / 64 % 32 + 192) (by omega)
    have hb₂ := htail v
    have hvalue : (v / 64 % 32 + 192 - 0xC0) * 64 + (v % 64 + 128 - 0x80) = v := by omega
    rw [List.cons_append, List.singleton_append, partsFrom_two _ (by omega) (by omega), hb₁, hb₂,
      hvalue, hchar]
  · have hb₁ := hbyte (v / 4096 % 16 + 224) (by omega)
    have hb₂ := htail (v / 64)
    have hb₃ := htail v
    have hvalue : ((v / 4096 % 16 + 224 - 0xE0) * 64 + (v / 64 % 64 + 128 - 0x80)) * 64
        + (v % 64 + 128 - 0x80) = v := by omega
    rw [List.cons_append, List.cons_append, List.singleton_append,
      partsFrom_three _ (by omega) (by omega) (by omega) (by omega) (by omega), hb₁, hb₂, hb₃,
      hvalue, hchar]
  · have hb₁ := hbyte (v / 262144 % 8 + 240) (by omega)
    have hb₂ := htail (v / 4096)
    have hb₃ := htail (v / 64)
    have hb₄ := htail v
    have hvalue : (((v / 262144 % 8 + 240 - 0xF0) * 64 + (v / 4096 % 64 + 128 - 0x80)) * 64
        + (v / 64 % 64 + 128 - 0x80)) * 64 + (v % 64 + 128 - 0x80) = v := by omega
    rw [List.cons_append, List.cons_append, List.cons_append, List.singleton_append,
      partsFrom_four _ (by omega) (by omega) (by omega) (by omega) (by omega) (by omega), hb₁, hb₂,
      hb₃, hb₄, hvalue, hchar]

theorem parts_encode (s : String) : parts (encode s) = s.toList.map .char := by
  rw [parts, encode]
  induction s.toList with
  | nil => rfl
  | cons c cs ih => rw [List.flatMap_cons, partsFrom_utf8EncodeChar, ih, List.map_cons]

/-- A text is read from its bytes. -/
theorem decodeLossy_encode (s : String) : decodeLossy (encode s) = s := by
  have hreplaced : Part.replaced ∘ Part.char = id := rfl
  rw [decodeLossy, parts_encode, List.map_map, hreplaced, List.map_id, String.ofList_toList]

theorem decode_encode (s : String) : decode (encode s) = some s := by
  have hchars : (s.toList.map Part.char).mapM Part.char? = some s.toList := by
    induction s.toList with
    | nil => rfl
    | cons c cs ih => simp [List.mapM_cons, ih, Part.char?]
  rw [decode, parts_encode, hchars, Option.map_some, String.ofList_toList]

theorem encode_append (s t : String) : encode (s ++ t) = encode s ++ encode t := by
  rw [encode, String.toList_append, List.flatMap_append]
  rfl

theorem encode_eq_nil_iff {s : String} : encode s = [] ↔ s = "" := by
  constructor
  · intro h
    rw [← decodeLossy_encode s, h]
    rfl
  · rintro rfl
    rfl

/-- A byte below 0x80 at the front of a text is its first character. -/
theorem head?_of_encode {s : String} {b : UInt8} {bs : Bytes} (h : encode s = b :: bs)
    (hb : b.toNat < 0x80) : s.toList.head? = some (Char.ofNat b.toNat) := by
  have hparts := parts_encode s
  rw [h, parts, partsFrom_one bs hb] at hparts
  cases hs : s.toList with
  | nil =>
    rw [hs] at hparts
    cases hparts
  | cons c cs =>
    rw [hs, List.map_cons, List.cons.injEq, Part.char.injEq] at hparts
    rw [hparts.1]
    rfl

/-! ### What was read -/

/-- The bytes that a part was read from. -/
def Part.bytes : Part → Bytes
  | .char c => String.utf8EncodeChar c
  | .broken bytes => bytes

/-- The last bytes of the long sequence of a number. -/
def continuation : (count : Nat) → (number : Nat) → Bytes
  | 0, _ => []
  | count + 1, number => UInt8.ofNat (number / 64 ^ count % 64 + 0x80) :: continuation count number

theorem toNat_firstTail : (0x80 : UInt8).toNat = 0x80 := rfl

theorem toNat_lastTail : (0xBF : UInt8).toNat = 0xBF := rfl

/-- A sequence has begun as the sequences of all numbers begin that it may still become. -/
structure Pending.Sound (p : Pending) : Prop where
  low : 0x80 ≤ p.low.toNat
  high : p.high.toNat ≤ 0xBF
  begins : ∀ number, (p.value * 64 + (p.low.toNat - 0x80)) * 64 ^ p.more ≤ number →
    number < (p.value * 64 + (p.high.toNat - 0x80) + 1) * 64 ^ p.more →
    String.utf8EncodeChar (Char.ofNat number) = p.seen ++ continuation (p.more + 1) number

theorem toNat_ofNat {n : Nat} (h : n < 0xD800 ∨ (0xDFFF < n ∧ n < 0x110000)) :
    (Char.ofNat n).val.toNat = n := by
  have hvalid : n.isValidChar := h
  rw [Char.ofNat, dif_pos hvalid]
  rfl

/-- A byte below 0x80 is the only byte of its character. -/
theorem utf8EncodeChar_of_lt {b : UInt8} (hb : b.toNat < 0x80) :
    String.utf8EncodeChar (Char.ofNat b.toNat) = [b] := by
  have hnumber := toNat_ofNat (n := b.toNat) (by omega)
  rw [String.utf8EncodeChar, hnumber, if_pos (by omega), UInt8.ofNat_toNat]

theorem Pending.Sound.next {p : Pending} (h : p.Sound) {b : UInt8} {more : Nat}
    (hlow : p.low.toNat ≤ b.toNat) (hhigh : b.toNat ≤ p.high.toNat) (hmore : p.more = more + 1) :
    Pending.Sound ⟨p.seen ++ [b], p.value * 64 + (b.toNat - 0x80), 0x80, 0xBF, more⟩ := by
  refine ⟨Nat.le_refl _, Nat.le_refl _, fun number hfirst hlast => ?_⟩
  dsimp only at hfirst hlast ⊢
  rw [toNat_firstTail, Nat.sub_self, Nat.add_zero] at hfirst
  rw [toNat_lastTail] at hlast
  have hl := h.low
  have hh := h.high
  have hpow : 64 ^ p.more = 64 * 64 ^ more := by rw [hmore, pow_succ, Nat.mul_comm]
  have hseen := h.begins number ?_ ?_
  · have hvalue : number / 64 ^ (more + 1) = p.value * 64 + (b.toNat - 0x80) := by
      refine Nat.div_eq_of_lt_le ?_ ?_
      · rw [pow_succ, Nat.mul_comm (64 ^ more), ← Nat.mul_assoc]
        exact hfirst
      · rw [pow_succ, Nat.mul_comm (64 ^ more), ← Nat.mul_assoc, Nat.add_mul _ 1 64]
        exact hlast
    have hbyte : UInt8.ofNat (number / 64 ^ (more + 1) % 64 + 0x80) = b := by
      have hn : (p.value * 64 + (b.toNat - 0x80)) % 64 + 0x80 = b.toNat := by omega
      rw [hvalue, hn, UInt8.ofNat_toNat]
    rw [hseen, hmore, continuation, hbyte, List.append_assoc]
    rfl
  · rw [hpow, ← Nat.mul_assoc]
    exact (Nat.mul_le_mul_right _ (by omega)).trans hfirst
  · rw [hpow, ← Nat.mul_assoc]
    exact hlast.trans_le (Nat.mul_le_mul_right _ (by omega))

/-- The last byte of a sequence completes the bytes of its character. -/
theorem Pending.Sound.last {p : Pending} (h : p.Sound) {b : UInt8}
    (hlow : p.low.toNat ≤ b.toNat) (hhigh : b.toNat ≤ p.high.toNat) (hmore : p.more = 0) :
    String.utf8EncodeChar (Char.ofNat (p.value * 64 + (b.toNat - 0x80))) = p.seen ++ [b] := by
  have hl := h.low
  have hh := h.high
  have hseen := h.begins (p.value * 64 + (b.toNat - 0x80)) ?_ ?_
  · have hbyte : (p.value * 64 + (b.toNat - 0x80)) / 64 ^ 0 % 64 + 0x80 = b.toNat := by
      rw [pow_zero, Nat.div_one]
      omega
    rw [hseen, hmore, continuation, hbyte, UInt8.ofNat_toNat]
    rfl
  · rw [hmore, pow_zero]
    omega
  · rw [hmore, pow_zero]
    omega

/-- The bytes of the sequence that has begun. -/
def openBytes (state : Option Pending) : Bytes := state.elim [] Pending.seen

/-- Whether a state can be reached. -/
def IsSound (state : Option Pending) : Prop := ∀ p, state = some p → p.Sound

theorem isSound_none : IsSound none := fun _ h => by cases h

theorem beginSequence_keeps (b : UInt8) :
    IsSound (beginSequence b).2 ∧
      (beginSequence b).1.flatMap Part.bytes ++ openBytes (beginSequence b).2 = [b] := by
  have hbegins := begins_beginSequence b
  generalize beginSequence b = begun at *
  cases hbegins with
  | single h =>
    refine ⟨isSound_none, ?_⟩
    simp [Part.bytes, openBytes, utf8EncodeChar_of_lt h]
  | broken h => exact ⟨isSound_none, rfl⟩
  | two hlow hhigh =>
    refine ⟨?_, rfl⟩
    rintro p ⟨⟩
    refine ⟨Nat.le_refl _, Nat.le_refl _, fun number hfirst hlast => ?_⟩
    dsimp only at hfirst hlast ⊢
    rw [toNat_firstTail] at hfirst
    rw [toNat_lastTail] at hlast
    have hnumber := toNat_ofNat (n := number) (by omega)
    have hb : number / 64 % 32 + 192 = b.toNat := by omega
    rw [String.utf8EncodeChar, hnumber, if_neg (by omega), if_pos (by omega), hb, UInt8.ofNat_toNat]
    simp [continuation]
  | three low high hfirst hlast hl hh =>
    refine ⟨?_, rfl⟩
    rintro p ⟨⟩
    refine ⟨?_, ?_, fun number hleast hmost => ?_⟩
    · dsimp only
      omega
    · dsimp only
      omega
    · dsimp only at hleast hmost ⊢
      have hnumber := toNat_ofNat (n := number) (by omega)
      have hb : number / 4096 % 16 + 224 = b.toNat := by omega
      rw [String.utf8EncodeChar, hnumber, if_neg (by omega), if_neg (by omega), if_pos (by omega),
        hb, UInt8.ofNat_toNat]
      simp [continuation]
  | four low high hfirst hlast hl hh =>
    refine ⟨?_, rfl⟩
    rintro p ⟨⟩
    refine ⟨?_, ?_, fun number hleast hmost => ?_⟩
    · dsimp only
      omega
    · dsimp only
      omega
    · dsimp only at hleast hmost ⊢
      have hnumber := toNat_ofNat (n := number) (by omega)
      have hb : number / 262144 % 8 + 240 = b.toNat := by omega
      rw [String.utf8EncodeChar, hnumber, if_neg (by omega), if_neg (by omega), if_neg (by omega),
        hb, UInt8.ofNat_toNat]
      simp [continuation]

theorem feed_keeps {state : Option Pending} (h : IsSound state) (b : UInt8) :
    IsSound (feed state b).2 ∧
      (feed state b).1.flatMap Part.bytes ++ openBytes (feed state b).2
        = openBytes state ++ [b] := by
  obtain ⟨hsound, hbytes⟩ := beginSequence_keeps b
  cases state with
  | none => exact ⟨hsound, hbytes⟩
  | some p =>
    have hp := h p rfl
    by_cases hrange : p.low ≤ b ∧ b ≤ p.high
    · have hlow := UInt8.le_iff_toNat_le.1 hrange.1
      have hhigh := UInt8.le_iff_toNat_le.1 hrange.2
      cases hmore : p.more with
      | zero =>
        have hlast := hp.last hlow hhigh hmore
        simp only [feed, hrange, hmore, and_self, if_true]
        refine ⟨isSound_none, ?_⟩
        simp [Part.bytes, openBytes, hlast]
      | succ more =>
        simp only [feed, hrange, hmore, and_self, if_true]
        refine ⟨?_, rfl⟩
        rintro next ⟨⟩
        exact hp.next hlow hhigh hmore
    · simp only [feed, if_neg hrange]
      refine ⟨hsound, ?_⟩
      rw [List.flatMap_cons, List.append_assoc, hbytes]
      rfl

theorem bytes_partsFrom {state : Option Pending} (h : IsSound state) (bs : Bytes) :
    (partsFrom state bs).flatMap Part.bytes = openBytes state ++ bs := by
  induction bs generalizing state with
  | nil => cases state <;> simp [partsFrom, openBytes, Part.bytes]
  | cons b bs ih =>
    obtain ⟨hsound, hbytes⟩ := feed_keeps h b
    rw [partsFrom, List.flatMap_append, ih hsound, ← List.append_assoc, hbytes, List.append_assoc]
    rfl

/-- The parts of some bytes have these bytes. -/
theorem bytes_parts (bytes : Bytes) : (parts bytes).flatMap Part.bytes = bytes :=
  bytes_partsFrom isSound_none bytes

/-- Parts that are all characters have the bytes of these. -/
theorem flatMap_bytes_of_chars {ps : List Part} {cs : List Char}
    (h : ps.mapM Part.char? = some cs) :
    ps.flatMap Part.bytes = cs.flatMap String.utf8EncodeChar := by
  induction ps generalizing cs with
  | nil =>
    cases h
    rfl
  | cons part ps ih =>
    rw [List.mapM_cons] at h
    obtain ⟨c, hc, h⟩ := Option.bind_eq_some_iff.1 h
    obtain ⟨rest, hrest, h⟩ := Option.bind_eq_some_iff.1 h
    cases h
    cases part with
    | broken => cases hc
    | char d =>
      cases hc
      rw [List.flatMap_cons, List.flatMap_cons, ih hrest]
      rfl

/-- Only the bytes of a text are read as it without loss. -/
theorem eq_encode_of_decode {bytes : Bytes} {s : String} (h : decode bytes = some s) :
    bytes = encode s := by
  obtain ⟨cs, hcs, rfl⟩ := Option.map_eq_some_iff.1 h
  rw [encode, String.toList_ofList, ← flatMap_bytes_of_chars hcs, bytes_parts]

/-! ### Cutting -/

/-- A byte below 0x80 ends what stands before it, and what stands after it is read anew. -/
theorem partsFrom_cut {state : Option Pending} (h : IsSound state) {b : UInt8}
    (hb : b.toNat < 0x80) (as bs : Bytes) :
    partsFrom state (as ++ b :: bs) =
      partsFrom state as ++ .char (Char.ofNat b.toNat) :: partsFrom none bs := by
  induction as generalizing state with
  | nil =>
    have hfeed := feed_ascii state hb fun p hp => (h p hp).low
    rw [List.nil_append, partsFrom, hfeed, List.append_assoc]
    rfl
  | cons a as ih =>
    rw [List.cons_append, partsFrom, partsFrom, ih (feed_keeps h a).1, List.append_assoc]

/-- Bytes may be cut at a byte below 0x80 before or after they are read. -/
theorem decodeLossy_cut {b : UInt8} (hb : b.toNat < 0x80) (as bs : Bytes) :
    (decodeLossy (as ++ b :: bs)).toList =
      (decodeLossy as).toList ++ Char.ofNat b.toNat :: (decodeLossy bs).toList := by
  have hparts := partsFrom_cut isSound_none hb as bs
  simp only [decodeLossy, parts, hparts, String.toList_ofList, List.map_append, List.map_cons]
  rfl

/-- A character stands in what was read only where its bytes stand. -/
theorem bytes_of_mem_decodeLossy {bytes : Bytes} {c : Char} (hc : c ≠ '\uFFFD')
    (h : c ∈ (decodeLossy bytes).toList) : String.utf8EncodeChar c <:+: bytes := by
  rw [decodeLossy, String.toList_ofList] at h
  obtain ⟨part, hpart, hreplaced⟩ := List.mem_map.1 h
  obtain ⟨before, after, hparts⟩ := List.append_of_mem hpart
  have hbytes := bytes_parts bytes
  rw [hparts, List.flatMap_append, List.flatMap_cons] at hbytes
  cases part with
  | broken => exact absurd hreplaced.symm hc
  | char d =>
    cases hreplaced
    exact ⟨_, _, (List.append_assoc ..).trans hbytes⟩

/-- A byte below 0x80 stands in a text where its character does. -/
theorem mem_encode_iff {b : UInt8} (hb : b.toNat < 0x80) {s : String} :
    b ∈ encode s ↔ Char.ofNat b.toNat ∈ s.toList := by
  constructor
  · intro h
    obtain ⟨before, after, hbytes⟩ := List.append_of_mem h
    have hcut := decodeLossy_cut hb before after
    rw [← hbytes, decodeLossy_encode] at hcut
    rw [hcut]
    exact List.mem_append_right _ (List.mem_cons_self ..)
  · intro h
    refine List.mem_flatMap.2 ⟨_, h, ?_⟩
    rw [utf8EncodeChar_of_lt hb]
    exact List.mem_singleton_self b

theorem encode_injective : Function.Injective encode := fun s t h => by
  rw [← decodeLossy_encode s, h, decodeLossy_encode]

theorem bytes_of_getLast_decodeLossy {bytes : Bytes} {c : Char} (hc : c ≠ '\uFFFD')
    (h : (decodeLossy bytes).toList.getLast? = some c) : String.utf8EncodeChar c <:+ bytes := by
  rw [decodeLossy, String.toList_ofList, List.getLast?_map] at h
  obtain ⟨part, hpart, hreplaced⟩ := Option.map_eq_some_iff.1 h
  obtain ⟨before, hparts⟩ := List.getLast?_eq_some_iff.1 hpart
  have hbytes := bytes_parts bytes
  rw [hparts, List.flatMap_append, List.flatMap_singleton] at hbytes
  cases part with
  | broken => exact absurd hreplaced.symm hc
  | char d =>
    cases hreplaced
    exact ⟨_, hbytes⟩

end IdlBuild.Text
