import IdlBuild.Text.Decimal

/-!
# Decimal numbers there and back

A whole number is read from its digits, a plus sign or zeros in front of them allowed
(`readWord_written`), so different numbers are written differently (`toString_injective`).
-/

namespace IdlBuild.Text

/-- The digits of a number. -/
def digitsOf (n : Nat) : List Char := Nat.toDigits 10 n

theorem toList_toString (n : Nat) : (toString n).toList = digitsOf n :=
  (congrArg String.toList Nat.repr_eq_ofList_toDigits).trans String.toList_ofList

theorem toString_injective {m n : Nat} (h : toString m = toString n) : m = n := by
  have hdigits := congrArg String.toList h
  rw [toList_toString, toList_toString] at hdigits
  rw [← Nat.ofDigitChars_ten_toDigits (n := m), ← Nat.ofDigitChars_ten_toDigits (n := n)]
  exact congrArg (Nat.ofDigitChars 10 · 0) hdigits

theorem isDigit_of_mem_digitsOf {n : Nat} {c : Char} (h : c ∈ digitsOf n) : c.isDigit = true :=
  Nat.isDigit_of_mem_toDigits (by decide) (by decide) h

theorem digit?_of_isDigit {c : Char} (h : c.isDigit = true) :
    digit? c = some (c.toNat - '0'.toNat) := by
  obtain ⟨hlow, hhigh⟩ := Char.isDigit_iff_toNat.1 h
  rw [digit?, if_pos]
  exact ⟨hlow, hhigh⟩

theorem le_ofDigitChars (cs : List Char) (value : Nat) : value ≤ Nat.ofDigitChars 10 cs value := by
  rw [Nat.ofDigitChars_eq_ofDigitChars_zero]
  have hpos : 0 < 10 ^ cs.length := Nat.pos_of_ne_zero (by simp)
  exact Nat.le_trans (Nat.le_mul_of_pos_left value hpos) (Nat.le_add_right _ _)

/-- Digits are read as the number that they write, if it is in the range. -/
theorem readDigits_of_isDigit {cs : List Char} (h : ∀ c ∈ cs, c.isDigit = true) {value : Nat}
    (hlt : Nat.ofDigitChars 10 cs value < wordBound) :
    readDigits value cs = .ok (Nat.ofDigitChars 10 cs value) := by
  induction cs generalizing value with
  | nil => rfl
  | cons c cs ih =>
    have hdigit := digit?_of_isDigit (h c (List.mem_cons_self ..))
    rw [Nat.ofDigitChars_cons, Nat.mul_comm 10 value] at hlt ⊢
    have hnext : value * 10 + (c.toNat - '0'.toNat) < wordBound :=
      Nat.lt_of_le_of_lt (le_ofDigitChars cs _) hlt
    rw [readDigits, hdigit]
    dsimp only
    rw [if_pos hnext]
    exact ih (fun d hd => h d (List.mem_cons_of_mem _ hd)) hlt

/-- The ways to write a number: a plus sign may stand in front, and zeros. -/
def written (plus : Bool) (zeros n : Nat) : String :=
  String.ofList ((if plus then ['+'] else []) ++ List.replicate zeros '0' ++ digitsOf n)

/-- However a number of the range is written, it is read. -/
theorem readWord_written (plus : Bool) (zeros : Nat) {n : Nat} (hn : n < wordBound) :
    readWord (written plus zeros n) = .ok n := by
  have hvalue : Nat.ofDigitChars 10 (List.replicate zeros '0' ++ digitsOf n) 0 = n := by
    rw [Nat.ofDigitChars_append, Nat.ofDigitChars_replicate_zero, Nat.mul_zero]
    exact Nat.ofDigitChars_ten_toDigits
  have hdigits : ∀ c ∈ List.replicate zeros '0' ++ digitsOf n, c.isDigit = true := by
    intro c hc
    rcases List.mem_append.1 hc with hc | hc
    · rw [List.eq_of_mem_replicate hc]
      rfl
    · exact isDigit_of_mem_digitsOf hc
  have hlt : Nat.ofDigitChars 10 (List.replicate zeros '0' ++ digitsOf n) 0 < wordBound := by
    rwa [hvalue]
  have hread := readDigits_of_isDigit hdigits hlt
  rw [hvalue] at hread
  have hne : List.replicate zeros '0' ++ digitsOf n ≠ [] := by
    intro h
    exact Nat.toDigits_ne_nil (List.append_eq_nil_iff.1 h).2
  rw [readWord, written, String.toList_ofList, List.append_assoc]
  generalize List.replicate zeros '0' ++ digitsOf n = cs at *
  cases plus with
  | true =>
    cases cs with
    | nil => exact absurd rfl hne
    | cons c cs => exact hread
  | false =>
    cases cs with
    | nil => exact absurd rfl hne
    | cons c cs =>
      have hplus : c ≠ '+' := by
        rintro rfl
        exact absurd (hdigits '+' (List.mem_cons_self ..)) (by decide)
      simp only [Bool.false_eq_true, if_false, List.nil_append]
      split
      · next heq => cases heq
      · next heq => exact absurd (List.cons.inj heq).1 hplus
      · next heq => exact absurd (List.cons.inj heq).1 hplus
      · exact hread

end IdlBuild.Text
