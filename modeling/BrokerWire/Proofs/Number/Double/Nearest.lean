import BrokerWire.Number.Double.Shortest
import Mathlib.Data.Nat.Log
import Mathlib.Tactic.Ring
import Mathlib.Tactic.Linarith

namespace BrokerWire.Double

/-- A quotient that is at most half away from a whole number is rounded to it; exactly half only if
the number is even. -/
theorem nearestEven_eq {n d m : Nat} (hd : 0 < d) (hlow : 2 * (m * d) ≤ 2 * n + d)
    (hhigh : 2 * n ≤ 2 * (m * d) + d)
    (htie : 2 * (m * d) = 2 * n + d ∨ 2 * n = 2 * (m * d) + d → m % 2 = 0) :
    nearestEven n d = m := by
  have hdiv := Nat.div_add_mod n d
  have hrest := Nat.mod_lt n hd
  unfold nearestEven
  dsimp only
  generalize n / d = f at hdiv ⊢
  generalize n % d = t at hdiv hrest ⊢
  rw [Nat.mul_comm d f] at hdiv
  -- The quotient without its fraction is the number or the one below it.
  have hnear : f = m ∨ f + 1 = m := by
    have habove : f < m + 1 := by
      by_contra hlarge
      have hmul := Nat.mul_le_mul_right d (Nat.le_of_not_lt hlarge)
      rw [Nat.add_mul] at hmul
      omega
    have hbelow : m < f + 2 := by
      by_contra hlarge
      have hmul := Nat.mul_le_mul_right d (Nat.le_of_not_lt hlarge)
      rw [Nat.add_mul] at hmul
      omega
    omega
  obtain rfl | rfl := hnear
  · rw [if_neg]
    omega
  · rw [Nat.add_mul] at hlow hhigh htie
    rw [if_pos]
    omega

theorem nearestRank_eq {num den s : Nat} (hden : 0 < den)
    (hlow : s = 0 ∨ 2 ^ (52 + s) * den ≤ num) (hhigh : num < 2 ^ (53 + s) * den) :
    nearestRank num den = nearestEven num (den * 2 ^ s) + s * 2 ^ 52 := by
  have hbinade : (num / den).log2 + 1 - 53 = s := by
    have hbelow : num / den < 2 ^ (53 + s) := (Nat.div_lt_iff_lt_mul hden).mpr hhigh
    by_cases hzero : num / den = 0
    · obtain rfl | hlow := hlow
      · rw [hzero]
        rfl
      · have hone : 2 ^ (52 + s) ≤ num / den := (Nat.le_div_iff_mul_le hden).mpr hlow
        have hpos : 0 < 2 ^ (52 + s) := Nat.two_pow_pos _
        omega
    · have hlog := (Nat.log2_lt hzero).mpr hbelow
      obtain rfl | hlow := hlow
      · omega
      · have hone : 2 ^ (52 + s) ≤ num / den := (Nat.le_div_iff_mul_le hden).mpr hlow
        have hlog' := (Nat.le_log2 hzero).mpr hone
        omega
  unfold nearestRank
  dsimp only
  rw [hbinade]
  rfl

/-- The bounds of an interval, as a quotient of quarter units meets them. The ends belong to it only
if the rank is even. -/
theorem holds_bounds {i : Interval} {num den : Nat} (h : i.holds num den = true) :
    i.low * den ≤ num ∧ num ≤ i.high * den ∧
      (i.closed = true ∨ i.low * den < num ∧ num < i.high * den) := by
  unfold Interval.holds at h
  split at h
  · next hclosed =>
    simp only [Bool.and_eq_true, decide_eq_true_eq] at h
    exact ⟨h.1, h.2, .inl hclosed⟩
  · simp only [Bool.and_eq_true, decide_eq_true_eq] at h
    exact ⟨h.1.le, h.2.le, .inr h⟩

/-- A quotient lies in an interval in whatever terms it is written. -/
theorem holds_congr {i : Interval} {num den num' den' : Nat} (hden : 0 < den) (hden' : 0 < den')
    (he : num * den' = num' * den) (h : i.holds num den = true) : i.holds num' den' = true := by
  have hle (k : Nat) : k * den ≤ num ↔ k * den' ≤ num' :=
    calc k * den ≤ num
      _ ↔ k * den * den' ≤ num * den' := (Nat.mul_le_mul_right_iff hden').symm
      _ ↔ k * den' * den ≤ num' * den := by rw [he, Nat.mul_right_comm]
      _ ↔ k * den' ≤ num' := Nat.mul_le_mul_right_iff hden
  have hge (k : Nat) : num ≤ k * den ↔ num' ≤ k * den' :=
    calc num ≤ k * den
      _ ↔ num * den' ≤ k * den * den' := (Nat.mul_le_mul_right_iff hden').symm
      _ ↔ num' * den ≤ k * den' * den := by rw [he, Nat.mul_right_comm]
      _ ↔ num' ≤ k * den' := Nat.mul_le_mul_right_iff hden
  unfold Interval.holds at h ⊢
  simp only [← Nat.not_le, hle, hge] at h ⊢
  exact h

theorem interval_low (rank : Nat) :
    (interval rank).low =
      4 * units rank -
        if rank % 2 ^ 52 = 0 ∧ 1 < rank / 2 ^ 52 then 2 ^ shift rank else 2 * 2 ^ shift rank := by
  have hhalf : 2 * 2 ^ shift rank / 2 = 2 ^ shift rank := Nat.mul_div_cancel_left _ (by decide)
  change 4 * units rank -
    (if rank % 2 ^ 52 = 0 ∧ 1 < rank / 2 ^ 52 then 2 * 2 ^ shift rank / 2 else 2 * 2 ^ shift rank)
      = _
  rw [hhalf]

theorem interval_high (rank : Nat) :
    (interval rank).high = 4 * units rank + 2 * 2 ^ shift rank := rfl

theorem interval_closed (rank : Nat) : (interval rank).closed = true ↔ rank % 2 = 0 :=
  decide_eq_true_iff

/-- Ranks below two binades are their own significands and units. -/
theorem units_of_low {rank : Nat} (h : rank < 2 ^ 53) : shift rank = 0 ∧ units rank = rank := by
  have hshift : shift rank = 0 := by
    change rank / 2 ^ 52 - 1 = 0
    omega
  refine ⟨hshift, ?_⟩
  have hsignificand : significand rank = rank := by
    change (if rank / 2 ^ 52 = 0 then rank else 2 ^ 52 + rank % 2 ^ 52) = rank
    split <;> omega
  rw [units, hshift, hsignificand]
  exact Nat.mul_one rank

/-- Every other rank is a significand of 53 bits, and a shift that counts the binades. -/
theorem rank_of_high {rank : Nat} (h : 2 ^ 53 ≤ rank) :
    ∃ m s, shift rank = s + 1 ∧ units rank = m * 2 ^ (s + 1) ∧ 2 ^ 52 ≤ m ∧ m < 2 ^ 53 ∧
      rank = m + (s + 1) * 2 ^ 52 ∧ (rank % 2 ^ 52 = 0 ↔ m = 2 ^ 52) ∧ 1 < rank / 2 ^ 52 := by
  have hshift : shift rank = rank / 2 ^ 52 - 2 + 1 := by
    change rank / 2 ^ 52 - 1 = _
    omega
  have hsignificand : significand rank = 2 ^ 52 + rank % 2 ^ 52 := by
    change (if rank / 2 ^ 52 = 0 then rank else 2 ^ 52 + rank % 2 ^ 52) = _
    rw [if_neg]
    omega
  have hunits : units rank = (2 ^ 52 + rank % 2 ^ 52) * 2 ^ (rank / 2 ^ 52 - 2 + 1) := by
    rw [units, hsignificand, hshift]
    rfl
  exact ⟨2 ^ 52 + rank % 2 ^ 52, rank / 2 ^ 52 - 2, hshift, hunits, by omega, by omega, by omega,
    by omega, by omega⟩

theorem nearestRank_of_low {rank num den : Nat} (hden : 0 < den) (hrank : rank < 2 ^ 53)
    (h : (interval rank).holds (4 * num) den = true) : nearestRank num den = rank := by
  obtain ⟨hlow, hhigh, hends⟩ := holds_bounds h
  obtain ⟨hshift, hunits⟩ := units_of_low hrank
  have hbinade : ¬ (rank % 2 ^ 52 = 0 ∧ 1 < rank / 2 ^ 52) := by omega
  rw [interval_low, interval_high, interval_closed, if_neg hbinade, hunits, hshift] at hends
  rw [interval_low, if_neg hbinade, hunits, hshift] at hlow
  rw [interval_high, hunits, hshift] at hhigh
  simp only [pow_zero, Nat.mul_one, Nat.sub_mul, Nat.add_mul, Nat.mul_assoc] at hlow hhigh hends
  have hfits : num < 2 ^ (53 + 0) * den := by
    have hmul := Nat.mul_le_mul_right den (Nat.succ_le_of_lt hrank)
    rw [Nat.succ_mul] at hmul
    omega
  rw [nearestRank_eq hden (.inl rfl) hfits, pow_zero, Nat.mul_one, Nat.zero_mul, Nat.add_zero]
  exact nearestEven_eq hden (by omega) (by omega) (by omega)

theorem nearestRank_of_high {rank num den : Nat} (hden : 0 < den) (hrank : 2 ^ 53 ≤ rank)
    (h : (interval rank).holds (4 * num) den = true) : nearestRank num den = rank := by
  obtain ⟨hlow, hhigh, hends⟩ := holds_bounds h
  obtain ⟨m, s, hshift, hunits, hleast, hmost, hvalue, hbottom, hbinade⟩ := rank_of_high hrank
  rw [interval_low, interval_high, interval_closed, hunits, hshift] at hends
  rw [interval_low, hunits, hshift] at hlow
  rw [interval_high, hunits, hshift] at hhigh
  -- All bounds are multiples of half a step, which is `step` quarter units long.
  obtain ⟨step, hstep⟩ : ∃ step, step = den * 2 ^ s := ⟨_, rfl⟩
  have hpos : 0 < step := by
    rw [hstep]
    exact Nat.mul_pos hden (Nat.two_pow_pos s)
  have hdouble : den * 2 ^ (s + 1) = 2 * step := by
    rw [hstep, pow_succ]
    ring
  have hmiddle : 4 * (m * 2 ^ (s + 1)) * den = 8 * (m * step) := by
    rw [hstep, pow_succ]
    ring
  have hhalf : 2 * 2 ^ (s + 1) * den = 4 * step := by
    rw [hstep, pow_succ]
    ring
  have hquarter : 2 ^ (s + 1) * den = 2 * step := by
    rw [hstep, pow_succ]
    ring
  have hbottomStep : 2 ^ 52 * step ≤ m * step := Nat.mul_le_mul_right step hleast
  have htopStep : m * step + step ≤ 2 ^ 53 * step := by
    have hmul := Nat.mul_le_mul_right step (Nat.succ_le_of_lt hmost)
    rwa [Nat.succ_mul] at hmul
  have hscale (k : Nat) : 2 ^ (k + s) * den = 2 ^ k * step := by
    rw [hstep, pow_add]
    ring
  rw [Nat.add_mul, hmiddle, hhalf] at hhigh
  by_cases hinside : 2 ^ 53 * step ≤ num
  · -- The quotient is in the binade of the rank.
    have hfirst : 2 ^ (52 + (s + 1)) * den ≤ num := by
      have hgoal := hscale 53
      rw [show 52 + (s + 1) = 53 + s by omega, hgoal]
      exact hinside
    have hlast : num < 2 ^ (53 + (s + 1)) * den := by
      have hgoal := hscale 54
      rw [show 53 + (s + 1) = 54 + s by omega, hgoal]
      omega
    rw [nearestRank_eq hden (.inr hfirst) hlast, hdouble]
    have hsame : m * (2 * step) = 2 * (m * step) := by ring
    have hrounded : nearestEven num (2 * step) = m := by
      rw [Nat.sub_mul, hmiddle] at hlow hends
      rw [Nat.add_mul, hmiddle, hhalf] at hends
      split at hlow
      · rw [hquarter] at hlow
        apply nearestEven_eq (by omega) <;> omega
      · rw [hhalf] at hlow
        rw [if_neg ‹_›, hhalf] at hends
        apply nearestEven_eq (by omega) <;> omega
    rw [hrounded, ← hvalue]
  · -- The quotient is in the binade below, so the rank is the lowest of its own.
    have hlowest : rank % 2 ^ 52 = 0 := by
      by_contra habove
      have hnext : 2 ^ 52 + 1 ≤ m := by omega
      have hmul := Nat.mul_le_mul_right step hnext
      rw [if_neg (fun hc => habove hc.1), Nat.sub_mul, hmiddle, hhalf] at hlow
      rw [Nat.add_mul] at hmul
      omega
    have hm : m = 2 ^ 52 := hbottom.mp hlowest
    rw [if_pos ⟨hlowest, hbinade⟩, Nat.sub_mul, hmiddle, hquarter, hm] at hlow
    have hfirst : 2 ^ (52 + s) * den ≤ num := by
      rw [hscale]
      omega
    have hlast : num < 2 ^ (53 + s) * den := by
      rw [hscale]
      omega
    have hrounded : nearestEven num step = 2 ^ 53 := by
      apply nearestEven_eq hpos <;> omega
    rw [nearestRank_eq hden (.inr hfirst) hlast, ← hstep, hrounded, hvalue, hm]
    ring

/-- A quotient that lies in the interval of a rank, in quarter units, is nearest to that rank. -/
theorem nearestRank_of_holds {rank num den : Nat} (hden : 0 < den)
    (h : (interval rank).holds (4 * num) den = true) : nearestRank num den = rank := by
  by_cases hrank : rank < 2 ^ 53
  · exact nearestRank_of_low hden hrank h
  · exact nearestRank_of_high hden (Nat.le_of_not_lt hrank) h

end BrokerWire.Double
