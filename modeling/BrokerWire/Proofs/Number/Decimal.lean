import BrokerWire.Number.Decimal.Reader
import BrokerWire.Proofs.Number.Integer
import BrokerWire.Proofs.Text.Utf8
import Mathlib.Data.Rat.Floor
import Mathlib.Tactic.FieldSimp
import Mathlib.Tactic.Ring

namespace BrokerWire.Decimal

/-- The number that a decimal stands for. -/
def value (d : Decimal) : ℚ :=
  d.coefficient / 10 ^ d.scale

theorem strip_value (coefficient : Int) (scale : Nat) :
    ((strip coefficient scale).1 : ℚ) / 10 ^ (strip coefficient scale).2 =
      coefficient / 10 ^ scale := by
  induction scale generalizing coefficient with
  | zero => rfl
  | succ scale ih =>
    rw [strip]
    split
    · next hzero =>
      obtain ⟨tenth, rfl⟩ := Int.dvd_of_emod_eq_zero hzero
      rw [ih, Int.mul_ediv_cancel_left tenth (by decide)]
      push_cast
      field_simp
      ring
    · rfl

theorem value_normalize (d : Decimal) : d.normalize.value = d.value :=
  strip_value d.coefficient d.scale

/-- Whether a coefficient with fractional digits has no trailing zero among them. -/
def IsStripped (coefficient : Int) (scale : Nat) : Prop :=
  scale = 0 ∨ coefficient % 10 ≠ 0

theorem isStripped_strip (coefficient : Int) (scale : Nat) :
    IsStripped (strip coefficient scale).1 (strip coefficient scale).2 := by
  induction scale generalizing coefficient with
  | zero => exact .inl rfl
  | succ scale ih =>
    rw [strip]
    split
    · exact ih _
    · next hdigit => exact .inr hdigit

/-- Of two decimals of one number, the one with more fractional digits has trailing zeros. -/
theorem scale_le_of_value_eq {d e : Decimal} (hd : IsStripped d.coefficient d.scale)
    (h : d.value = e.value) : d.scale ≤ e.scale := by
  by_contra hmore
  obtain ⟨more, hscale⟩ : ∃ more, d.scale = e.scale + (more + 1) :=
    ⟨d.scale - e.scale - 1, by omega⟩
  have hcoefficient : (d.coefficient : ℚ) = (e.coefficient * 10 ^ more * 10 : ℤ) := by
    rw [value, value, hscale] at h
    field_simp at h
    have hpower : (10 : ℚ) ^ e.scale ≠ 0 := by positivity
    apply mul_right_cancel₀ hpower
    rw [h]
    push_cast
    ring
  rw [Int.cast_inj] at hcoefficient
  obtain hzero | hdigit := hd
  · omega
  · exact hdigit (hcoefficient ▸ Int.mul_emod_left _ _)

/-- Without trailing zeros each number is one decimal. -/
theorem normalize_eq_iff {d e : Decimal} : d.normalize = e.normalize ↔ d.value = e.value := by
  constructor
  · intro h
    rw [← value_normalize d, h, value_normalize]
  · intro h
    rw [← value_normalize d, ← value_normalize e] at h
    have hscale : d.normalize.scale = e.normalize.scale :=
      Nat.le_antisymm (scale_le_of_value_eq (isStripped_strip _ _) h)
        (scale_le_of_value_eq (isStripped_strip _ _) h.symm)
    have hcoefficient : d.normalize.coefficient = e.normalize.coefficient := by
      rw [value, value, hscale, div_left_inj' (by positivity), Int.cast_inj] at h
      exact h
    generalize d.normalize = d at *
    generalize e.normalize = e at *
    obtain ⟨_, _, _, _⟩ := d
    obtain ⟨_, _, _, _⟩ := e
    simp only at hscale hcoefficient
    subst hscale hcoefficient
    rfl
/-- The whole part of a number, toward zero. -/
def wholePart (x : ℚ) : ℤ :=
  if 0 ≤ x then ⌊x⌋ else ⌈x⌉

theorem value_truncate (d : Decimal) : d.truncate.value = wholePart d.value := by
  have hvalue : d.truncate.value = ((d.coefficient.tdiv (10 ^ d.scale : ℕ) : ℤ) : ℚ) := by
    simp [value, truncate]
  have hpower : (0 : ℚ) < 10 ^ d.scale := by positivity
  have hquotient : d.value = (d.coefficient : ℚ) / ((10 ^ d.scale : ℕ) : ℚ) := by
    simp [value]
  rw [hvalue, Int.cast_inj, wholePart]
  by_cases hsign : 0 ≤ d.coefficient
  · have hnonneg : 0 ≤ d.value := div_nonneg (by exact_mod_cast hsign) hpower.le
    rw [if_pos hnonneg, hquotient, Rat.floor_intCast_div_natCast,
      Int.tdiv_eq_ediv_of_nonneg hsign]
  · have hneg : ¬ 0 ≤ d.value := by
      have hcoefficient : (d.coefficient : ℚ) < 0 := by exact_mod_cast Int.not_le.mp hsign
      exact not_le.mpr (div_neg_of_neg_of_pos hcoefficient hpower)
    have hopposite : 0 ≤ -d.coefficient := by omega
    rw [if_neg hneg, hquotient, Rat.ceil_intCast_div_natCast,
      ← Int.tdiv_eq_ediv_of_nonneg hopposite, Int.neg_tdiv, Int.neg_neg]

/-- Where the reading stands behind digits that fit. -/
def Progress.behind (p : Progress) (digits : List Char) : Progress where
  coefficient := Nat.ofDigitChars 10 digits p.coefficient
  scale := if p.point then p.scale + digits.length else 0
  point := p.point
  started := p.started || !digits.isEmpty

theorem readDigits_digit {p : Progress} {c : Char} (hc : c.isDigit = true)
    (hfull : p.point = true → p.scale < maxScale)
    (hlimit : 10 * p.coefficient + (c.toNat - 48) < limit) (rest : List Char) :
    readDigits p (c :: rest) = readDigits (p.behind [c]) rest := by
  have hdigit : Number.digit? c = some (c.toNat - 48) := if_pos hc
  have hroom : p.isFull = false := by
    cases hpoint : p.point with
    | false => simp [Progress.isFull, hpoint]
    | true => simpa [Progress.isFull, hpoint] using hfull hpoint
  rw [readDigits, hdigit]
  dsimp only
  rw [if_pos ⟨by rw [hroom]; rfl, hlimit⟩]
  simp [Progress.behind, Nat.ofDigitChars_cons]

/-- Digits are read into the coefficient, and behind the point into the scale. -/
theorem readDigits_append {digits : List Char} (hdigits : ∀ c ∈ digits, c.isDigit = true)
    {p : Progress} (hwhole : p.point = false → p.scale = 0)
    (hscale : p.point = true → p.scale + digits.length ≤ maxScale)
    (hlimit : Nat.ofDigitChars 10 digits p.coefficient < limit) (rest : List Char) :
    readDigits p (digits ++ rest) = readDigits (p.behind digits) rest := by
  induction digits generalizing p with
  | nil =>
    have hnone : p.behind [] = p := by
      obtain ⟨coefficient, scale, point, started⟩ := p
      cases point with
      | false =>
        have hzero : scale = 0 := hwhole rfl
        simp [Progress.behind, hzero]
      | true => simp [Progress.behind]
    rw [hnone, List.nil_append]
  | cons c digits ih =>
    have hc := hdigits c List.mem_cons_self
    have hrest := fun other hm => hdigits other (List.mem_cons_of_mem c hm)
    rw [Nat.ofDigitChars_cons] at hlimit
    have hfits : 10 * p.coefficient + (c.toNat - 48) < limit :=
      Nat.lt_of_le_of_lt (Number.le_ofDigitChars digits _) hlimit
    have hroom : p.point = true → p.scale < maxScale := by
      intro hpoint
      have hle := hscale hpoint
      rw [List.length_cons] at hle
      omega
    have hbehind : (p.behind [c]).behind digits = p.behind (c :: digits) := by
      cases hpoint : p.point with
      | false => simp [Progress.behind, Nat.ofDigitChars_cons, hpoint]
      | true =>
        simp only [Progress.behind, Nat.ofDigitChars_cons, hpoint, if_true, List.length_cons]
        simp [Nat.add_comm, Nat.add_left_comm]
    rw [List.cons_append, readDigits_digit hc hroom hfits, ih hrest _ _ _, hbehind]
    · intro hpoint
      simp [Progress.behind, show p.point = false from hpoint]
    · intro hpoint
      have hle := hscale hpoint
      simp only [Progress.behind, show p.point = true from hpoint, if_true, List.length_cons,
        List.length_nil] at hle ⊢
      omega
    · simpa [Progress.behind, Nat.ofDigitChars_cons] using hlimit

theorem readDigits_whole {digits : List Char} (hdigits : ∀ c ∈ digits, c.isDigit = true)
    (hsome : digits ≠ []) (hlimit : Nat.ofDigitChars 10 digits 0 < limit) (rest : List Char) :
    readDigits .start (digits ++ rest) =
      readDigits ⟨Nat.ofDigitChars 10 digits 0, 0, false, true⟩ rest := by
  have hstart : Progress.start.point = true → Progress.start.scale + digits.length ≤ maxScale := by
    intro h
    cases h
  have hstarted : digits.isEmpty = false := List.isEmpty_eq_false_iff.mpr hsome
  rw [readDigits_append hdigits (fun _ => rfl) hstart hlimit]
  simp [Progress.behind, Progress.start, hstarted]

theorem readDigits_point (coefficient : Nat) (rest : List Char) :
    readDigits ⟨coefficient, 0, false, true⟩ ('.' :: rest) =
      readDigits ⟨coefficient, 0, true, true⟩ rest := by
  have hpoint : Number.digit? '.' = none := by decide
  rw [readDigits, hpoint]
  dsimp only
  rw [if_pos ⟨rfl, rfl⟩]

theorem readDigits_fraction {digits : List Char} (hdigits : ∀ c ∈ digits, c.isDigit = true)
    {coefficient : Nat} (hscale : digits.length ≤ maxScale)
    (hlimit : Nat.ofDigitChars 10 digits coefficient < limit) :
    readDigits ⟨coefficient, 0, true, true⟩ digits =
      .ok (Nat.ofDigitChars 10 digits coefficient, digits.length) := by
  have hroom : 0 + digits.length ≤ maxScale := by omega
  have happend := readDigits_append hdigits (p := ⟨coefficient, 0, true, true⟩) (fun _ => rfl)
    (fun _ => hroom) hlimit []
  rw [List.append_nil] at happend
  rw [happend]
  simp [Progress.behind, readDigits]

/-- Digits with leading zeros, as many as a point before the last `scale` of them needs. -/
def padded (n scale : Nat) : List Char :=
  List.replicate (scale + 1 - (Number.digitsOf n).length) '0' ++ Number.digitsOf n

theorem isDigit_of_mem_padded {n scale : Nat} {c : Char} (h : c ∈ padded n scale) :
    c.isDigit = true := by
  obtain h | h := List.mem_append.mp h
  · rw [List.eq_of_mem_replicate h]
    rfl
  · exact Nat.isDigit_of_mem_toDigits (by decide) (by decide) h

theorem ofDigitChars_padded (n scale : Nat) : Nat.ofDigitChars 10 (padded n scale) 0 = n := by
  rw [padded, Nat.ofDigitChars_append, Nat.ofDigitChars_replicate_zero, Nat.mul_zero,
    Number.digitsOf, Nat.ofDigitChars_ten_toDigits]

theorem length_padded (n scale : Nat) : scale < (padded n scale).length := by
  rw [padded, List.length_append, List.length_replicate]
  omega

theorem pointed_digitsOf (n scale : Nat) :
    pointed (Number.digitsOf n) scale =
      if scale = 0 then Number.digitsOf n
      else
        (padded n scale).take ((padded n scale).length - scale) ++
          '.' :: (padded n scale).drop ((padded n scale).length - scale) := rfl

theorem readDigits_pointed {n scale : Nat} (hn : n < limit) (hscale : scale ≤ maxScale) :
    readDigits .start (pointed (Number.digitsOf n) scale) = .ok (n, scale) := by
  rw [pointed_digitsOf]
  by_cases hwhole : scale = 0
  · have hdigits : ∀ c ∈ Number.digitsOf n, c.isDigit = true :=
      fun c hm => Nat.isDigit_of_mem_toDigits (by decide) (by decide) hm
    have hvalue : Nat.ofDigitChars 10 (Number.digitsOf n) 0 = n := Nat.ofDigitChars_ten_toDigits
    have hsome : Number.digitsOf n ≠ [] := Nat.toDigits_ne_nil
    rw [if_pos hwhole, ← List.append_nil (Number.digitsOf n),
      readDigits_whole hdigits hsome (by rwa [hvalue]), readDigits, if_pos rfl, hvalue, hwhole]
  · rw [if_neg hwhole]
    have hlength := length_padded n scale
    have hvalue := ofDigitChars_padded n scale
    generalize hplace : (padded n scale).length - scale = place
    have hdigits := @isDigit_of_mem_padded n scale
    generalize padded n scale = digits at hlength hvalue hplace hdigits
    have hsplit : Nat.ofDigitChars 10 (digits.drop place)
        (Nat.ofDigitChars 10 (digits.take place) 0) = n := by
      rw [← Nat.ofDigitChars_append, List.take_append_drop, hvalue]
    have hfirst : digits.take place ≠ [] := by
      intro hnil
      have hl := congrArg List.length hnil
      rw [List.length_take, List.length_nil] at hl
      omega
    have hfirstLimit : Nat.ofDigitChars 10 (digits.take place) 0 < limit := by
      refine Nat.lt_of_le_of_lt (Number.le_ofDigitChars (digits.drop place) _) ?_
      rwa [hsplit]
    have hbehind : (digits.drop place).length = scale := by
      rw [List.length_drop]
      omega
    rw [readDigits_whole (fun c hm => hdigits (List.mem_of_mem_take hm)) hfirst hfirstLimit,
      readDigits_point, readDigits_fraction (fun c hm => hdigits (List.mem_of_mem_drop hm))
        (by rwa [hbehind]) (by rwa [hsplit]), hsplit, hbehind]

theorem pointed_head (n scale : Nat) :
    ∃ c rest, pointed (Number.digitsOf n) scale = c :: rest ∧ c.isDigit = true := by
  rw [pointed_digitsOf]
  by_cases hwhole : scale = 0
  · have hsome : Number.digitsOf n ≠ [] := Nat.toDigits_ne_nil
    obtain ⟨c, rest, hdigits⟩ := List.exists_cons_of_ne_nil hsome
    have hc : c ∈ Number.digitsOf n := by
      rw [hdigits]
      exact List.mem_cons_self
    rw [if_pos hwhole]
    exact ⟨c, rest, hdigits, Nat.isDigit_of_mem_toDigits (by decide) (by decide) hc⟩
  · have hlength := length_padded n scale
    obtain ⟨place, hplace⟩ : ∃ place, (padded n scale).length - scale = place + 1 :=
      ⟨(padded n scale).length - scale - 1, by omega⟩
    have hsome : padded n scale ≠ [] := by
      intro hnil
      rw [hnil, List.length_nil] at hlength
      omega
    obtain ⟨c, rest, hdigits⟩ := List.exists_cons_of_ne_nil hsome
    have hc : c ∈ padded n scale := by
      rw [hdigits]
      exact List.mem_cons_self
    rw [if_neg hwhole, hplace, hdigits, List.take_succ_cons, List.cons_append]
    exact ⟨c, _, rfl, isDigit_of_mem_padded hc⟩

theorem mem_pointed {n scale : Nat} {c : Char} (h : c ∈ pointed (Number.digitsOf n) scale) :
    c = '.' ∨ c.isDigit = true := by
  rw [pointed_digitsOf] at h
  split at h
  · exact .inr (Nat.isDigit_of_mem_toDigits (by decide) (by decide) h)
  · obtain h | h := List.mem_append.mp h
    · exact .inr (isDigit_of_mem_padded (List.mem_of_mem_take h))
    · obtain rfl | h := List.mem_cons.mp h
      · exact .inl rfl
      · exact .inr (isDigit_of_mem_padded (List.mem_of_mem_drop h))

theorem not_isMark_of_isDigit {c : Char} (h : c.isDigit = true) : isMark c = false := by
  cases hmark : isMark c with
  | false => rfl
  | true =>
    rw [isMark, Bool.or_eq_true, decide_eq_true_eq, decide_eq_true_eq] at hmark
    obtain rfl | rfl := hmark <;> cases h

/-- The text of a decimal: a minus sign if it is below zero, and its magnitude. -/
theorem toList_text (d : Decimal) :
    d.text.toList =
      if d.coefficient < 0 then '-' :: pointed (Number.digitsOf d.coefficient.natAbs) d.scale
      else pointed (Number.digitsOf d.coefficient.natAbs) d.scale := by
  rw [text, String.toList_ofList]

theorem readSigned_text (d : Decimal) :
    readSigned d.text.toList = .ok (d.coefficient, d.scale) := by
  have hread := readDigits_pointed d.coefficient_lt d.scale_le
  rw [toList_text]
  by_cases hsign : d.coefficient < 0
  · have hnegative : -(d.coefficient.natAbs : Int) = d.coefficient := by omega
    rw [if_pos hsign, readSigned, hread]
    simp only [Except.map, hnegative]
  · have hpositive : (d.coefficient.natAbs : Int) = d.coefficient := by omega
    obtain ⟨c, rest, hbody, hc⟩ := pointed_head d.coefficient.natAbs d.scale
    rw [if_neg hsign]
    rw [hbody] at hread ⊢
    unfold readSigned
    split
    · next hnil => cases hnil
    · next hminus =>
      cases hminus
      cases hc
    · next hplus =>
      cases hplus
      cases hc
    · rw [hread]
      simp only [Except.map, hpositive]

theorem mem_text {d : Decimal} {c : Char} (h : c ∈ d.text.toList) :
    c = '-' ∨ c = '.' ∨ c.isDigit = true := by
  rw [toList_text] at h
  split at h
  · obtain rfl | h := List.mem_cons.mp h
    · exact .inl rfl
    · exact .inr (mem_pointed h)
  · exact .inr (mem_pointed h)

/-- No character of a decimal's text is the zero character. -/
theorem text_isTerminable (d : Decimal) : Utf8.IsTerminable d.text := by
  intro c hm
  obtain rfl | rfl | hc := mem_text hm
  · decide
  · decide
  · exact Number.toNat_ne_zero_of_isDigit hc

/-- Reading gives back the decimal that was written. -/
theorem read_text (d : Decimal) : read d.text.toList = .ok d := by
  have hplain : d.text.toList.any isMark = false := by
    rw [List.any_eq_false]
    intro c hm
    obtain rfl | rfl | hc := mem_text hm
    · decide
    · decide
    · rw [not_isMark_of_isDigit hc]
      exact Bool.false_ne_true
  have hparts : ofParts (d.coefficient, d.scale) = .ok d := by
    rw [ofParts, of?, dif_pos ⟨d.coefficient_lt, d.scale_le⟩]
  rw [read, hplain, readPlain, readSigned_text]
  exact hparts

end BrokerWire.Decimal
