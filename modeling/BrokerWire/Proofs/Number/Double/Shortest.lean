import BrokerWire.Proofs.Number.Double.Nearest
import Mathlib.Data.Rat.Cast.Order
import Mathlib.Algebra.Order.Field.Power
import Mathlib.Tactic.FieldSimp
import Mathlib.Tactic.NormNum
import Mathlib.Tactic.Positivity

namespace BrokerWire.Double

/-- A step of a grid is a power of ten in quarter units. -/
theorem gridScale_eq (exponent : Int) :
    ((gridScale exponent).1 : ℚ) =
      10 ^ exponent * (Nat.pow 2 1076 : ℕ) * (gridScale exponent).2 := by
  unfold gridScale
  generalize Nat.pow 2 1076 = unit
  split
  · next hsign =>
    obtain ⟨n, rfl⟩ := Int.eq_ofNat_of_zero_le hsign
    simp
  · next hsign =>
    obtain ⟨n, hn⟩ := Int.eq_ofNat_of_zero_le (show 0 ≤ -exponent by omega)
    obtain rfl : exponent = -(n : Int) := by omega
    simp
    field_simp

theorem gridScale_pos (exponent : Int) :
    0 < (gridScale exponent).1 ∧ 0 < (gridScale exponent).2 := by
  unfold gridScale
  generalize 1076 = place
  split
  · exact ⟨Nat.mul_pos (Nat.pow_pos (by decide)) (Nat.two_pow_pos place), Nat.one_pos⟩
  · exact ⟨Nat.two_pow_pos place, Nat.pow_pos (by decide)⟩

/-- The estimate of the decimal exponent is close: 21 places below it a step is finer than the last
of 54 bits. A power of two is between `10 ^ (3 / 10)` and `10 ^ (28 / 93)` for each of its places. -/
theorem estimate_lt {b : Int} (hlow : -1074 ≤ b) (hhigh : b ≤ 1023) :
    (10 : ℚ) ^ (b * 30103 / 100000 - 21) < 2 ^ (b - 54) := by
  have hfloor : 100000 * (b * 30103 / 100000) ≤ b * 30103 := by omega
  generalize b * 30103 / 100000 = k at hfloor
  by_cases hsign : 0 ≤ b
  · obtain ⟨n, rfl⟩ := Int.eq_ofNat_of_zero_le hsign
    refine lt_of_pow_lt_pow_left₀ 10 (by positivity) ?_
    calc ((10 : ℚ) ^ (k - 21)) ^ 10
      _ = 10 ^ ((k - 21) * 10) := by rw [zpow_mul]; rfl
      _ ≤ 10 ^ ((3 : ℤ) * n + -(180 : ℕ)) := zpow_le_zpow_right₀ (by norm_num) (by omega)
      _ = (10 ^ 3) ^ n * (10 ^ 180)⁻¹ := by
        rw [zpow_add₀ (by norm_num), zpow_mul, zpow_natCast, zpow_neg, zpow_natCast]
        rfl
      _ ≤ (2 ^ 10) ^ n * (10 ^ 180)⁻¹ := by
        gcongr
        norm_num
      _ < (2 ^ 10) ^ n * ((2 ^ 3) ^ 180)⁻¹ := by
        gcongr
        norm_num
      _ = (2 ^ ((n : ℤ) - 54)) ^ 10 := by
        rw [← zpow_natCast (2 ^ ((n : ℤ) - 54) : ℚ) 10, ← zpow_mul, ← pow_mul, ← pow_mul,
          ← zpow_natCast, ← zpow_natCast, ← zpow_neg, ← zpow_add₀ (by norm_num)]
        congr 1
        push_cast
        ring
  · obtain ⟨n, hn⟩ := Int.eq_ofNat_of_zero_le (show 0 ≤ 54 - b by omega)
    obtain rfl : b = 54 - n := by omega
    refine lt_of_pow_lt_pow_left₀ 93 (by positivity) ?_
    calc ((10 : ℚ) ^ (k - 21)) ^ 93
      _ = 10 ^ ((k - 21) * 93) := by rw [zpow_mul]; rfl
      _ < 10 ^ ((28 : ℤ) * -n) := zpow_lt_zpow_right₀ (by norm_num) (by omega)
      _ = ((10 ^ 28) ^ n)⁻¹ := by
        rw [zpow_mul, zpow_neg, zpow_natCast]
        rfl
      _ ≤ ((2 ^ 93) ^ n)⁻¹ := by
        gcongr
        norm_num
      _ = (2 ^ ((54 : ℤ) - n - 54)) ^ 93 := by
        rw [← zpow_natCast (2 ^ ((54 : ℤ) - n - 54) : ℚ) 93, ← zpow_mul, ← pow_mul,
          ← zpow_natCast, ← zpow_neg]
        congr 1
        push_cast
        ring

theorem units_pos {rank : Nat} (h : 0 < rank) : 0 < units rank := by
  by_cases hrank : rank < 2 ^ 53
  · rw [(units_of_low hrank).2]
    exact h
  · obtain ⟨m, s, -, hunits, hm, -⟩ := rank_of_high (Nat.le_of_not_lt hrank)
    rw [hunits]
    exact Nat.mul_pos (by omega) (Nat.two_pow_pos _)

/-- A magnitude has at most 53 bits in front of its shift. -/
theorem units_add_le (rank : Nat) : units rank + 2 ^ shift rank ≤ 2 ^ (53 + shift rank) := by
  by_cases hrank : rank < 2 ^ 53
  · rw [(units_of_low hrank).2, (units_of_low hrank).1]
    exact hrank
  · obtain ⟨m, s, hshift, hunits, -, hm, -⟩ := rank_of_high (Nat.le_of_not_lt hrank)
    rw [hunits, hshift, Nat.pow_add 2 53, ← Nat.succ_mul]
    exact Nat.mul_le_mul_right _ hm

theorem units_lt (rank : Nat) : units rank < 2 ^ (53 + shift rank) := by
  have hle := units_add_le rank
  have hpos := Nat.two_pow_pos (shift rank)
  omega

theorem shift_lt {rank : Nat} (h : rank < rankCount) : shift rank ≤ 2045 := by
  have hcount : rank < 2047 * 2 ^ 52 := h
  change rank / 2 ^ 52 - 1 ≤ 2045
  omega

/-- A magnitude is at least as long as its shift. -/
theorem shift_le_units {rank : Nat} (h : 0 < rank) : 2 ^ shift rank ≤ units rank := by
  have hpos := units_pos h
  unfold units at hpos ⊢
  exact Nat.le_mul_of_pos_left _ (Nat.pos_of_mul_pos_right hpos)

/-- Below a magnitude its interval goes on for a quarter of a step at least. -/
theorem low_add_le (rank : Nat) (h : 0 < rank) :
    (interval rank).low + 2 ^ shift rank ≤ 4 * units rank := by
  have hstep := shift_le_units h
  rw [interval_low]
  split <;> omega

/-- A grid whose steps are finer than that has a point in the interval. -/
theorem gridPoint?_isSome (tie : Tie) {rank : Nat} (h : 0 < rank) {scale : Nat × Nat}
    (hpos : 0 < scale.1 ∧ 0 < scale.2) (hfine : scale.1 < 2 ^ shift rank * scale.2) :
    (gridPoint? tie (interval rank) scale).isSome = true := by
  have hlow := Nat.mul_le_mul_right scale.2 (low_add_le rank h)
  have hhigh : 4 * units rank * scale.2 < (interval rank).high * scale.2 := by
    apply Nat.mul_lt_mul_of_pos_right _ hpos.2
    have hstep := Nat.two_pow_pos (shift rank)
    rw [interval_high]
    omega
  have hdiv := Nat.div_add_mod (4 * units rank * scale.2) scale.1
  have hrest := Nat.mod_lt (4 * units rank * scale.2) hpos.1
  rw [Nat.mul_comm] at hdiv
  rw [Nat.add_mul] at hlow
  -- The point below the magnitude is not as low as the interval ends.
  have hdown : (interval rank).holds
      (4 * units rank * scale.2 / scale.1 * scale.1) scale.2 = true := by
    unfold Interval.holds
    split
    all_goals
      simp only [Bool.and_eq_true, decide_eq_true_eq]
      omega
  unfold gridPoint?
  dsimp only
  change (if _ = true ∧ _ then _ else if (interval rank).holds
      (4 * units rank * scale.2 / scale.1 * scale.1) scale.2 = true then _ else _ :
        Option Nat).isSome = true
  rw [if_pos hdown]
  split <;> rfl

theorem gridPoint?_holds {tie : Tie} {i : Interval} {scale : Nat × Nat} {digits : Nat}
    (h : gridPoint? tie i scale = some digits) : i.holds (digits * scale.1) scale.2 = true := by
  unfold gridPoint? at h
  dsimp only at h
  split at h
  · next hboth =>
    obtain ⟨hdown, hup⟩ := hboth
    split at h
    · cases h
      exact hup
    · cases h
      exact hdown
  · split at h
    · next hdown =>
      cases h
      exact hdown
    · split at h
      · next hup =>
        cases h
        exact hup
      · cases h

/-- Whether digits on the grid of a power of ten lie in an interval. -/
def Interval.HoldsDecimal (i : Interval) (digits : Nat) (exponent : Int) : Prop :=
  i.holds (digits * (gridScale exponent).1) (gridScale exponent).2 = true

/-- The search ends at the first grid with a point in the interval. -/
theorem searchGrids_holds {tie : Tie} {i : Interval} {grids : Nat} {exponent : Int} {below : Nat}
    (hbelow : below < grids)
    (h : (gridPoint? tie i (gridScale (exponent - below))).isSome = true) :
    i.HoldsDecimal (searchGrids tie i grids exponent).1 (searchGrids tie i grids exponent).2 := by
  induction grids generalizing exponent below with
  | zero => exact absurd hbelow (Nat.not_lt_zero below)
  | succ grids ih =>
    rw [searchGrids]
    cases hpoint : gridPoint? tie i (gridScale exponent) with
    | some digits => exact gridPoint?_holds hpoint
    | none =>
      cases below with
      | zero =>
        rw [Nat.cast_zero, Int.sub_zero, hpoint] at h
        cases h
      | succ below =>
        apply ih (Nat.lt_of_succ_lt_succ hbelow)
        rw [show exponent - 1 - (below : Int) = exponent - ((below + 1 : Nat) : Int) by omega]
        exact h

theorem finest_lt {rank : Nat} (hpos : 0 < rank) (hrank : rank < rankCount) :
    (gridScale (decimalCeiling rank - (23 : Nat))).1 <
      2 ^ shift rank * (gridScale (decimalCeiling rank - (23 : Nat))).2 := by
  have hne := (units_pos hpos).ne'
  have hbits : (units rank).log2 < 53 + shift rank := (Nat.log2_lt hne).mpr (units_lt rank)
  have hshift := shift_lt hrank
  have hgrid := gridScale_eq (decimalCeiling rank - (23 : Nat))
  have hestimate := estimate_lt (b := (units rank).log2 - 1074) (by omega) (by omega)
  have hexponent : decimalCeiling rank - (23 : Nat) =
      ((units rank).log2 - 1074 : Int) * 30103 / 100000 - 21 := by
    unfold decimalCeiling
    dsimp only
    omega
  rw [← hexponent] at hestimate
  have hscale : (0 : ℚ) < (gridScale (decimalCeiling rank - (23 : Nat))).2 := by
    exact_mod_cast (gridScale_pos _).2
  generalize decimalCeiling rank - (23 : Nat) = exponent at hgrid hestimate hscale ⊢
  have hfine (place : ℕ) (hplace : place = 1076) :
      (10 : ℚ) ^ exponent * (Nat.pow 2 place : ℕ) < 2 ^ shift rank :=
    calc (10 : ℚ) ^ exponent * (Nat.pow 2 place : ℕ)
      _ = 10 ^ exponent * 2 ^ (place : ℤ) := by
        rw [Nat.pow_eq, Nat.cast_pow, zpow_natCast]
        rfl
      _ < 2 ^ (((units rank).log2 : ℤ) - 1074 - 54) * 2 ^ (place : ℤ) := by gcongr
      _ = 2 ^ (((units rank).log2 : ℤ) - 52) := by
        rw [← zpow_add₀ (by norm_num)]
        congr 1
        omega
      _ ≤ 2 ^ (shift rank : ℤ) := zpow_le_zpow_right₀ (by norm_num) (by omega)
      _ = 2 ^ shift rank := zpow_natCast _ _
  have hquarters := hfine 1076 rfl
  generalize Nat.pow 2 1076 = unit at hquarters hgrid
  have hcast : ((gridScale exponent).1 : ℚ) <
      ((2 ^ shift rank * (gridScale exponent).2 : ℕ) : ℚ) := by
    rw [hgrid, Nat.cast_mul, Nat.cast_pow]
    exact mul_lt_mul_of_pos_right hquarters hscale
  exact_mod_cast hcast

/-- The shortest digits of a magnitude lie in its interval. -/
theorem shortest_holds (tie : Tie) {rank : Nat} (hpos : 0 < rank) (hrank : rank < rankCount) :
    (interval rank).HoldsDecimal (shortest tie rank).1 (shortest tie rank).2 :=
  searchGrids_holds (by decide)
    (gridPoint?_isSome tie hpos (gridScale_pos _) (finest_lt hpos hrank))

end BrokerWire.Double
