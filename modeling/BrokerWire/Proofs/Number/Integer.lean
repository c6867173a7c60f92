import BrokerWire.Number.Integer
import Mathlib.Data.Nat.Digits.Lemmas
import Mathlib.Tactic.Common

namespace BrokerWire.Number

theorem isDigit_of_mem_digitsOf {n : Nat} {c : Char} (h : c ∈ digitsOf n) : c.isDigit = true :=
  Nat.isDigit_of_mem_toDigits (by decide) (by decide) h

theorem digitsOf_ne_nil (n : Nat) : digitsOf n ≠ [] :=
  Nat.toDigits_ne_nil

theorem ofDigitChars_digitsOf (n : Nat) : Nat.ofDigitChars 10 (digitsOf n) 0 = n :=
  Nat.ofDigitChars_ten_toDigits

theorem le_ofDigitChars (digits : List Char) (n : Nat) : n ≤ Nat.ofDigitChars 10 digits n := by
  rw [Nat.ofDigitChars_eq_ofDigitChars_zero]
  exact Nat.le_add_right_of_le (Nat.le_mul_of_pos_left n (Nat.pow_pos (by decide)))

theorem digit?_eq_some {c : Char} (h : c.isDigit = true) : digit? c = some (c.toNat - 48) :=
  if_pos h

/-- Digits are read into the value in front of them as long as the outcome stays within the limit:
what was read before is never larger. -/
theorem readMagnitude_digits {limit : Nat} {overflow : IntegerFault} {digits : List Char}
    (hdigits : ∀ c ∈ digits, c.isDigit = true) {value : Nat}
    (hlimit : Nat.ofDigitChars 10 digits value ≤ limit) :
    readMagnitude limit overflow value digits = .ok (Nat.ofDigitChars 10 digits value) := by
  induction digits generalizing value with
  | nil => rfl
  | cons c digits ih =>
    have hc := digit?_eq_some (hdigits c List.mem_cons_self)
    rw [Nat.ofDigitChars_cons] at hlimit ⊢
    have hfits : 10 * value + (c.toNat - 48) ≤ limit :=
      Nat.le_trans (le_ofDigitChars digits _) hlimit
    rw [readMagnitude, hc]
    dsimp only
    rw [if_neg (Nat.not_lt.mpr hfits)]
    exact ih (fun other hm => hdigits other (List.mem_cons_of_mem c hm)) hlimit

theorem readDigits_digitsOf {limit n : Nat} (overflow : IntegerFault) (h : n ≤ limit) :
    readDigits limit overflow (digitsOf n) = .ok n := by
  have hvalue := ofDigitChars_digitsOf n
  have hread : readMagnitude limit overflow 0 (digitsOf n) = .ok n := by
    have hlimit : Nat.ofDigitChars 10 (digitsOf n) 0 ≤ limit := by rwa [hvalue]
    rw [readMagnitude_digits (fun c hm => isDigit_of_mem_digitsOf hm) hlimit, hvalue]
  unfold readDigits
  split
  · next hnil => exact absurd hnil (digitsOf_ne_nil n)
  · exact hread

/-- The digits of a number begin with a digit, so no sign is taken off them. -/
theorem digitsOf_head (n : Nat) : ∃ c rest, digitsOf n = c :: rest ∧ c.isDigit = true := by
  obtain ⟨c, rest, h⟩ := List.exists_cons_of_ne_nil (digitsOf_ne_nil n)
  have hc : c ∈ digitsOf n := by
    rw [h]
    exact List.mem_cons_self
  exact ⟨c, rest, h, isDigit_of_mem_digitsOf hc⟩

theorem readInteger_integerText {below above : Nat} {n : Int} (hlow : -(below : Int) ≤ n)
    (hhigh : n ≤ above) : readInteger below above (integerText n) = .ok n := by
  unfold integerText
  by_cases hsign : n < 0
  · have hfits : n.natAbs ≤ below := by omega
    have hvalue : -(n.natAbs : Int) = n := by omega
    rw [if_pos hsign, readInteger, readDigits_digitsOf .tooSmall hfits]
    exact congrArg Except.ok hvalue
  · have hfits : n.natAbs ≤ above := by omega
    have hvalue : Int.ofNat n.natAbs = n := by
      simp only [Int.ofNat_eq_natCast]
      omega
    have hread := readDigits_digitsOf .tooLarge hfits
    obtain ⟨c, rest, hdigits, hc⟩ := digitsOf_head n.natAbs
    rw [if_neg hsign]
    rw [hdigits] at hread ⊢
    unfold readInteger
    split
    · next hnil => cases hnil
    · next hplus =>
      cases hplus
      cases hc
    · next hminus =>
      cases hminus
      cases hc
    · rw [hread]
      exact congrArg Except.ok hvalue

theorem readInt32_integerText (n : Int32) : readInt32 (integerText n.toInt) = .ok n := by
  have hlow : -((negatives 32 : Nat) : Int) ≤ n.toInt := n.le_toInt
  have hhigh : n.toInt ≤ ((negatives 32 - 1 : Nat) : Int) := by
    have hlt := n.toInt_lt
    change n.toInt ≤ 2147483647
    omega
  rw [readInt32, readInteger_integerText hlow hhigh]
  simp only [Except.map, Int32.ofInt_toInt]

theorem readInt64_integerText (n : Int64) : readInt64 (integerText n.toInt) = .ok n := by
  have hlow : -((negatives 64 : Nat) : Int) ≤ n.toInt := n.le_toInt
  have hhigh : n.toInt ≤ ((negatives 64 - 1 : Nat) : Int) := by
    have hlt := n.toInt_lt
    change n.toInt ≤ 9223372036854775807
    omega
  rw [readInt64, readInteger_integerText hlow hhigh]
  simp only [Except.map, Int64.ofInt_toInt]

/-- No character of an integer's text is the zero character. -/
theorem toNat_ne_zero_of_isDigit {c : Char} (h : c.isDigit = true) : c.toNat ≠ 0 := by
  intro hzero
  have hc : c = Char.ofNat 0 := by rw [← hzero, Char.ofNat_toNat]
  rw [hc] at h
  cases h

theorem toNat_ne_zero_of_mem_integerText {n : Int} {c : Char} (h : c ∈ integerText n) :
    c.toNat ≠ 0 := by
  unfold integerText at h
  split at h
  · obtain rfl | hm := List.mem_cons.mp h
    · decide
    · exact toNat_ne_zero_of_isDigit (isDigit_of_mem_digitsOf hm)
  · exact toNat_ne_zero_of_isDigit (isDigit_of_mem_digitsOf h)

end BrokerWire.Number
