import IdlBuild.Text.CanonicalData

/-!
# Canonical composition

Texts that differ only in how accented characters are put together are canonically equivalent. The
composed form of a text is the one that stands for all of them: characters are decomposed as far as
they go, marks are put into the order of their classes, and what can be composed is composed again.
Texts are lists of code points here.
-/

namespace IdlBuild.Text

/-! ### Syllables of Hangul -/

/-- The first syllable. -/
def syllableBase : Nat := 0xAC00

/-- The number of syllables. -/
def syllableCount : Nat := 11172

/-- The number of finals, none counted too. -/
def finalCount : Nat := 28

/-- The number of syllables that share an initial. -/
def initialBlock : Nat := 588

/-- The letters of a syllable. -/
def syllableLetters (n : Nat) : List Nat :=
  let index := n - syllableBase
  [0x1100 + index / initialBlock, 0x1161 + index % initialBlock / finalCount] ++
    (if index % finalCount = 0 then [] else [0x11A7 + index % finalCount])

/-- The syllable of an initial and a vowel, or of a syllable without a final and a final. -/
def syllable? (a b : Nat) : Option Nat :=
  if 0x1100 ≤ a ∧ a < 0x1113 ∧ 0x1161 ≤ b ∧ b < 0x1176 then
    some (syllableBase + (a - 0x1100) * initialBlock + (b - 0x1161) * finalCount)
  else if syllableBase ≤ a ∧ a < syllableBase + syllableCount ∧
      (a - syllableBase) % finalCount = 0 ∧ 0x11A7 < b ∧ b < 0x11C3 then
    some (a + (b - 0x11A7))
  else none

/-! ### Decomposition -/

/-- What a code point is decomposed to in one step. -/
def decomposedOnce? (n : Nat) : Option (List Nat) :=
  (compositionTable.image? n).or (decompositionTable.image? n)

/-- What a code point is decomposed to in a number of steps. -/
def decomposedIn : (steps : Nat) → Nat → List Nat
  | 0, n => [n]
  | steps + 1, n =>
    if syllableBase ≤ n ∧ n < syllableBase + syllableCount then syllableLetters n
    else match decomposedOnce? n with
      | some parts => parts.flatMap (decomposedIn steps)
      | none => [n]

/-- The full decomposition of a code point; no chain is longer than four. -/
def decomposedCode (n : Nat) : List Nat := if n < 0xC0 then [n] else decomposedIn 4 n

/-! ### Order -/

/-- The combining class of a code point; a starter has class zero. -/
def combiningClass (n : Nat) : Nat :=
  if n < 0x300 then 0 else ((combiningClassTable.find? n).bind (·.target.head?)).getD 0

/-- Puts a mark into a reversed text, before the marks of greater class at its end. -/
def insertMark (n : Nat) : List Nat → List Nat
  | [] => [n]
  | m :: before =>
    if combiningClass n < combiningClass m then m :: insertMark n before else n :: m :: before

/-- The text with the marks after each starter in the order of their classes. -/
def ordered (codes : List Nat) : List Nat :=
  (codes.foldl (fun before n =>
    if combiningClass n = 0 then n :: before else insertMark n before) []).reverse

/-! ### Composition -/

/-- The code point that two others compose to. -/
def composedPair? (a b : Nat) : Option Nat :=
  (syllable? a b).or
    ((compositionTable.entries.find? (·.target == [a, b])).map (·.first))

/-- A text being composed: what is done, reversed; the last starter; the marks after it that were
not composed with it, reversed. -/
structure Composing where
  done : List Nat
  starter : Option Nat
  marks : List Nat

namespace Composing

/-- The whole text so far, reversed. -/
def flushed (c : Composing) : List Nat := c.marks ++ c.starter.toList ++ c.done

/-- Whether a mark between the starter and a code point keeps them apart. -/
def isBlocked (c : Composing) (n : Nat) : Bool :=
  match c.marks with
  | [] => false
  | m :: _ => combiningClass n ≤ combiningClass m

/-- Adds a code point that is not composed with the starter. -/
def push (c : Composing) (n : Nat) : Composing :=
  if combiningClass n = 0 then ⟨c.flushed, some n, []⟩ else { c with marks := n :: c.marks }

/-- Adds a code point. -/
def add (c : Composing) (n : Nat) : Composing :=
  match c.starter with
  | some s =>
    if c.isBlocked n then c.push n
    else match composedPair? s n with
      | some composite => { c with starter := some composite }
      | none => c.push n
  | none => c.push n

end Composing

/-- The composed form of a text. -/
def composed (codes : List Nat) : List Nat :=
  if codes.all (· < 0x300) then codes
  else
    let start : Composing := ⟨[], none, []⟩
    ((ordered (codes.flatMap decomposedCode)).foldl Composing.add start).flushed.reverse

end IdlBuild.Text
