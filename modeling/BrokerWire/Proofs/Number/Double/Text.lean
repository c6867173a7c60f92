import BrokerWire.Number.Double.Reader
import BrokerWire.Number.Double.Text
import BrokerWire.Proofs.Number.Double.Shortest
import BrokerWire.Proofs.Text.Utf8
import BrokerWire.Proofs.Number.Integer

namespace BrokerWire.Double

open Number (digit? digitsOf)

/-- Digits are read into the value in front of them, up to a character that is none. -/
theorem takeDigits_append {digits rest : List Char} (hdigits : ∀ c ∈ digits, c.isDigit = true)
    (hrest : ∀ c ∈ rest.head?, c.isDigit = false) (value count : Nat) :
    takeDigits value count (digits ++ rest) =
      (Nat.ofDigitChars 10 digits value, count + digits.length, rest) := by
  induction digits generalizing value count with
  | nil =>
    cases rest with
    | nil => rfl
    | cons c rest =>
      have hc : digit? c = none := if_neg (by rw [hrest c rfl]; exact Bool.false_ne_true)
      rw [List.nil_append, takeDigits, hc]
      rfl
  | cons c digits ih =>
    have hc := Number.digit?_eq_some (hdigits c List.mem_cons_self)
    rw [List.cons_append, takeDigits, hc]
    dsimp only
    rw [ih (fun other hm => hdigits other (List.mem_cons_of_mem c hm)), Nat.ofDigitChars_cons,
      List.length_cons]
    congr 2
    omega

theorem takeDigits_all {digits : List Char} (hdigits : ∀ c ∈ digits, c.isDigit = true)
    (value count : Nat) :
    takeDigits value count digits =
      (Nat.ofDigitChars 10 digits value, count + digits.length, []) := by
  have hall := takeDigits_append hdigits (show ∀ c ∈ ([] : List Char).head?, _ from nofun) value
    count
  rwa [List.append_nil] at hall

/-- Digits in front of a point and digits behind it are read as one number. -/
theorem decimal?_point {whole fraction : List Char} (hwhole : ∀ c ∈ whole, c.isDigit = true)
    (hsome : whole ≠ []) (hfraction : ∀ c ∈ fraction, c.isDigit = true) :
    decimal? (whole ++ '.' :: fraction) =
      some (Nat.ofDigitChars 10 (whole ++ fraction) 0, -(fraction.length : Int)) := by
  have hstop : ∀ c ∈ ('.' :: fraction).head?, c.isDigit = false := by
    simp only [List.head?_cons, Option.mem_some_iff]
    rintro c rfl
    rfl
  have hcount : ¬ 0 + whole.length + (0 + fraction.length) = 0 := by
    have hlength := List.length_pos_of_ne_nil hsome
    omega
  unfold decimal?
  rw [takeDigits_append hwhole hstop]
  simp only [takeDigits_all hfraction]
  rw [if_neg hcount, Nat.ofDigitChars_append]
  simp [exponent?]

theorem decimal?_whole {digits : List Char} (hdigits : ∀ c ∈ digits, c.isDigit = true)
    (hsome : digits ≠ []) :
    decimal? digits = some (Nat.ofDigitChars 10 digits 0, -((0 : Nat) : Int)) := by
  have hcount : ¬ 0 + digits.length + 0 = 0 := by
    have hlength := List.length_pos_of_ne_nil hsome
    omega
  unfold decimal?
  rw [takeDigits_all hdigits]
  dsimp only
  rw [if_neg hcount]
  simp [exponent?]

theorem isDigit_of_mem_zeros {n : Nat} {c : Char} (h : c ∈ List.replicate n '0') :
    c.isDigit = true := by
  rw [List.eq_of_mem_replicate h]
  rfl

/-- Positional notation is read as its digits, with zeros behind them or a point within: what is
gained in zeros and lost behind the point is the place of the point. -/
theorem decimal?_positional {digits : List Char} (hdigits : ∀ c ∈ digits, c.isDigit = true)
    (hsome : digits ≠ []) (point : Int) :
    ∃ zeros fraction : Nat, (zeros : Int) - fraction = point - digits.length ∧
      decimal? (positional digits point) =
        some (Nat.ofDigitChars 10 digits 0 * 10 ^ zeros, -(fraction : Int)) := by
  unfold positional
  by_cases hsmall : point ≤ 0
  · rw [if_pos hsmall]
    have hfraction : ∀ c ∈ List.replicate (-point).toNat '0' ++ digits, c.isDigit = true := by
      intro c hm
      obtain hm | hm := List.mem_append.mp hm
      · exact isDigit_of_mem_zeros hm
      · exact hdigits c hm
    have hzero : ∀ c ∈ ['0'], c.isDigit = true := by simp
    have hread := decimal?_point hzero (List.cons_ne_nil '0' []) hfraction
    refine ⟨0, (List.replicate (-point).toNat '0' ++ digits).length, ?_, ?_⟩
    · rw [List.length_append, List.length_replicate]
      omega
    · have hvalue : Nat.ofDigitChars 10 (['0'] ++ (List.replicate (-point).toNat '0' ++ digits)) 0 =
          Nat.ofDigitChars 10 digits 0 := by
        rw [Nat.ofDigitChars_append, Nat.ofDigitChars_append, Nat.ofDigitChars_replicate_zero]
        rfl
      rw [hvalue] at hread
      rw [pow_zero, Nat.mul_one]
      exact hread
  rw [if_neg hsmall]
  by_cases hlarge : digits.length ≤ point
  · rw [if_pos hlarge]
    have hall : ∀ c ∈ digits ++ List.replicate (point.toNat - digits.length) '0',
        c.isDigit = true := by
      intro c hm
      obtain hm | hm := List.mem_append.mp hm
      · exact hdigits c hm
      · exact isDigit_of_mem_zeros hm
    refine ⟨point.toNat - digits.length, 0, by omega, ?_⟩
    rw [decimal?_whole hall (List.append_ne_nil_of_left_ne_nil hsome _), Nat.ofDigitChars_append,
      Nat.ofDigitChars_replicate_zero, Nat.mul_comm]
  · rw [if_neg hlarge]
    refine ⟨0, digits.length - point.toNat, by omega, ?_⟩
    have hfirst : digits.take point.toNat ≠ [] := by
      intro hnil
      have hlength := congrArg List.length hnil
      rw [List.length_take, List.length_nil] at hlength
      omega
    rw [decimal?_point (fun c hm => hdigits c (List.mem_of_mem_take hm)) hfirst
      (fun c hm => hdigits c (List.mem_of_mem_drop hm)), List.take_append_drop, List.length_drop,
      pow_zero, Nat.mul_one]

/-- What is kept of digits, and the zeros behind it. -/
theorem digits_split (digits : List Char) :
    ∃ zeros, digits = (digits.reverse.dropWhile (· = '0')).reverse ++ List.replicate zeros '0' := by
  refine ⟨(digits.reverse.takeWhile (· = '0')).length, ?_⟩
  have hzeros : digits.reverse.takeWhile (· = '0') =
      List.replicate (digits.reverse.takeWhile (· = '0')).length '0' := by
    apply List.eq_replicate_of_mem
    intro c hm
    have hall := List.all_takeWhile (p := fun c => decide (c = '0')) (l := digits.reverse)
    simpa using List.all_eq_true.mp hall c hm
  have hsplit := congrArg List.reverse
    (List.takeWhile_append_dropWhile (p := fun c => decide (c = '0')) (l := digits.reverse))
  rw [List.reverse_append, List.reverse_reverse, hzeros, List.reverse_replicate] at hsplit
  exact hsplit.symm

/-- The digits that are written of a magnitude, without the zeros behind them, and what they stand
for. -/
theorem shortestDigits_eq (tie : Tie) (rank : Nat) (hpos : 0 < (shortest tie rank).1) :
    ∃ zeros : Nat, (∀ c ∈ (shortestDigits tie rank).1, c.isDigit = true) ∧
      (shortestDigits tie rank).1 ≠ [] ∧
      Nat.ofDigitChars 10 (shortestDigits tie rank).1 0 * 10 ^ zeros = (shortest tie rank).1 ∧
      (shortestDigits tie rank).2 - (shortestDigits tie rank).1.length =
        (shortest tie rank).2 + zeros := by
  obtain ⟨zeros, hsplit⟩ := digits_split (digitsOf (shortest tie rank).1)
  have hkept : (shortestDigits tie rank).1 =
      ((digitsOf (shortest tie rank).1).reverse.dropWhile (· = '0')).reverse := rfl
  have hpoint : (shortestDigits tie rank).2 =
      (digitsOf (shortest tie rank).1).length + (shortest tie rank).2 := rfl
  have hvalue := Number.ofDigitChars_digitsOf (shortest tie rank).1
  have hdigits := @Number.isDigit_of_mem_digitsOf (shortest tie rank).1
  rw [← hkept] at hsplit
  generalize digitsOf (shortest tie rank).1 = written at hsplit hpoint hvalue hdigits
  generalize (shortestDigits tie rank).1 = kept at hsplit ⊢
  subst hsplit
  rw [Nat.ofDigitChars_append, Nat.ofDigitChars_replicate_zero, Nat.mul_comm] at hvalue
  refine ⟨zeros, fun c hm => hdigits (List.mem_append_left _ hm), ?_, hvalue, ?_⟩
  · rintro rfl
    rw [Nat.ofDigitChars_nil, Nat.zero_mul] at hvalue
    omega
  · rw [hpoint, List.length_append, List.length_replicate]
    push_cast
    ring

theorem interval_high_le {rank : Nat} (hrank : rank < rankCount) :
    (interval rank).high ≤ 2 ^ 2100 := by
  have hunits := units_add_le rank
  have hshift := shift_lt hrank
  rw [interval_high]
  calc 4 * units rank + 2 * 2 ^ shift rank
    _ ≤ 4 * 2 ^ (53 + shift rank) := by omega
    _ = 2 ^ (55 + shift rank) := by rw [show 55 + shift rank = 53 + shift rank + 2 by omega]; ring
    _ ≤ 2 ^ 2100 := Nat.pow_le_pow_right (by decide) (by omega)

theorem two_le_interval_low {rank : Nat} (hpos : 0 < rank) : 2 ≤ (interval rank).low := by
  have hstep := shift_le_units hpos
  have hone := Nat.two_pow_pos (shift rank)
  rw [interval_low]
  split <;> omega

/-- The decimals of an interval are within the finite values. -/
theorem decimal_bounds {rank : Nat} (hpos : 0 < rank) (hrank : rank < rankCount)
    {digits fraction : Nat}
    (h : (interval rank).holds (digits * 2 ^ 1076) (10 ^ fraction) = true) :
    digits < 10 ^ (309 + fraction) ∧ 10 ^ fraction < digits * 10 ^ 324 := by
  obtain ⟨hlow, hhigh, -⟩ := holds_bounds h
  have hscale : 0 < 10 ^ fraction := Nat.pow_pos (by decide)
  constructor
  · have hfits : digits * 2 ^ 1076 ≤ 2 ^ 1024 * 10 ^ fraction * 2 ^ 1076 :=
      calc digits * 2 ^ 1076
        _ ≤ 2 ^ 2100 * 10 ^ fraction :=
          Nat.le_trans hhigh (Nat.mul_le_mul_right _ (interval_high_le hrank))
        _ = 2 ^ 1024 * 10 ^ fraction * 2 ^ 1076 := by
          rw [show 2100 = 1024 + 1076 by rfl, pow_add, Nat.mul_right_comm]
    calc digits
      _ ≤ 2 ^ 1024 * 10 ^ fraction := Nat.le_of_mul_le_mul_right hfits (Nat.two_pow_pos 1076)
      _ < 10 ^ 309 * 10 ^ fraction := Nat.mul_lt_mul_of_pos_right (by decide +kernel) hscale
      _ = 10 ^ (309 + fraction) := (pow_add 10 309 fraction).symm
  · calc 10 ^ fraction
      _ < 2 * 10 ^ fraction := by omega
      _ ≤ (interval rank).low * 10 ^ fraction :=
        Nat.mul_le_mul_right _ (two_le_interval_low hpos)
      _ ≤ digits * 2 ^ 1076 := hlow
      _ ≤ digits * 10 ^ 324 := Nat.mul_le_mul_left _ (by decide +kernel)

/-- A decimal in the interval of a rank is nearest to it, in whatever digits it is written. -/
theorem ofDecimal_of_holds (negative : Bool) {rank : Nat} (hpos : 0 < rank)
    (hrank : rank < rankCount) {digits fraction : Nat}
    (h : (interval rank).holds (digits * 2 ^ 1076) (10 ^ fraction) = true) :
    ofDecimal negative digits (-(fraction : Int)) = .finite negative ⟨rank, hrank⟩ := by
  obtain ⟨hmost, hleast⟩ := decimal_bounds hpos hrank h
  have hdigits : digits ≠ 0 := by
    rintro rfl
    rw [Nat.zero_mul] at hleast
    exact absurd hleast (Nat.not_lt_zero _)
  have hlength : (Nat.toDigits 10 digits).length ≤ 309 + fraction :=
    (Nat.length_toDigits_le_iff (by decide) (by omega)).mpr hmost
  have hlength' : fraction < (Nat.toDigits 10 digits).length + 324 := by
    by_contra hshort
    have hfew : (Nat.toDigits 10 digits).length ≤ fraction - 324 := by omega
    have hsome : 0 < (Nat.toDigits 10 digits).length :=
      List.length_pos_of_ne_nil Nat.toDigits_ne_nil
    have hsmall := (Nat.length_toDigits_le_iff (by decide) (by omega)).mp hfew
    have hmul := Nat.mul_lt_mul_of_pos_right hsmall (show 0 < 10 ^ 324 by decide +kernel)
    rw [← pow_add, Nat.sub_add_cancel (by omega)] at hmul
    omega
  have hnearest : nearestRank (digits * 2 ^ 1074) (10 ^ fraction) = rank := by
    apply nearestRank_of_holds (Nat.pow_pos (by decide))
    rw [show 4 * (digits * 2 ^ 1074) = digits * 2 ^ 1076 by
      rw [show 1076 = 1074 + 2 by rfl, pow_add]
      ring]
    exact h
  have hfinite : ofRank negative rank = .finite negative ⟨rank, hrank⟩ := dif_pos hrank
  unfold ofDecimal
  dsimp only
  rw [if_neg hdigits, if_neg (by omega), if_neg (by omega)]
  split
  · next hwhole =>
    obtain rfl : fraction = 0 := by omega
    have hsame : digits * Nat.pow 10 (-((0 : Nat) : Int)).toNat * Nat.pow 2 1074 =
        digits * 2 ^ 1074 := by
      rw [show (-((0 : Nat) : Int)).toNat = 0 by rfl, Nat.pow_eq, Nat.pow_eq, pow_zero, Nat.mul_one]
    rw [hsame, ← hfinite, ← hnearest, pow_zero]
  · have hsame : (- -(fraction : Int)).toNat = fraction := by omega
    rw [hsame, ← hfinite]
    exact congrArg (ofRank negative) hnearest

/-- A decimal in terms of a grid, and in terms of its digits and those behind the point. -/
theorem gridScale_cross {exponent : Int} {zeros fraction behind : Nat}
    (h : (zeros : Int) - fraction = exponent + behind) :
    10 ^ behind * (gridScale exponent).1 * 10 ^ fraction =
      10 ^ zeros * Nat.pow 2 1076 * (gridScale exponent).2 := by
  unfold gridScale
  generalize Nat.pow 2 1076 = unit
  split
  · next hsign =>
    obtain ⟨n, rfl⟩ := Int.eq_ofNat_of_zero_le hsign
    obtain rfl : zeros = behind + n + fraction := by omega
    simp only [Int.toNat_natCast, Nat.pow_eq]
    ring
  · next hsign =>
    obtain ⟨n, hn⟩ := Int.eq_ofNat_of_zero_le (show 0 ≤ -exponent by omega)
    have hplaces : behind + fraction = zeros + n := by omega
    simp only [hn, Int.toNat_natCast, Nat.pow_eq]
    calc 10 ^ behind * unit * 10 ^ fraction
      _ = 10 ^ (behind + fraction) * unit := by ring
      _ = 10 ^ zeros * unit * 10 ^ n := by
        rw [hplaces]
        ring

theorem shortest_pos (tie : Tie) {rank : Nat} (hpos : 0 < rank) (hrank : rank < rankCount) :
    0 < (shortest tie rank).1 := by
  obtain ⟨hlow, -, -⟩ := holds_bounds (shortest_holds tie hpos hrank)
  apply Nat.pos_of_ne_zero
  intro hzero
  have hscale := (gridScale_pos (shortest tie rank).2).2
  have hmul := Nat.mul_le_mul (two_le_interval_low hpos) (Nat.succ_le_of_lt hscale)
  rw [hzero, Nat.zero_mul] at hlow
  omega

/-- The written digits of a magnitude are read as that magnitude. -/
theorem readMagnitude_positional (tie : Tie) (negative : Bool) {rank : Nat} (hpos : 0 < rank)
    (hrank : rank < rankCount) :
    readMagnitude negative
        (positional (shortestDigits tie rank).1 (shortestDigits tie rank).2) =
      some (.finite negative ⟨rank, hrank⟩) := by
  obtain ⟨behind, hdigits, hsome, hvalue, hplace⟩ :=
    shortestDigits_eq tie rank (shortest_pos tie hpos hrank)
  obtain ⟨zeros, fraction, hpoint, hread⟩ :=
    decimal?_positional hdigits hsome (shortestDigits tie rank).2
  have hholds : (interval rank).holds
      (Nat.ofDigitChars 10 (shortestDigits tie rank).1 0 * 10 ^ zeros * 2 ^ 1076)
      (10 ^ fraction) = true := by
    have hcross := gridScale_cross (hpoint.trans hplace)
    apply holds_congr (gridScale_pos _).2 (Nat.pow_pos (by decide)) _
      (shortest_holds tie hpos hrank)
    rw [← hvalue]
    generalize Nat.ofDigitChars 10 (shortestDigits tie rank).1 0 = digits
    calc digits * 10 ^ behind * (gridScale (shortest tie rank).2).1 * 10 ^ fraction
      _ = digits * (10 ^ behind * (gridScale (shortest tie rank).2).1 * 10 ^ fraction) := by ring
      _ = digits * (10 ^ zeros * Nat.pow 2 1076 * (gridScale (shortest tie rank).2).2) := by
        rw [hcross]
      _ = digits * 10 ^ zeros * Nat.pow 2 1076 * (gridScale (shortest tie rank).2).2 := by
        simp only [Nat.mul_assoc]
  rw [readMagnitude, hread]
  dsimp only
  rw [ofDecimal_of_holds negative hpos hrank hholds]

theorem positional_head {digits : List Char} (hdigits : ∀ c ∈ digits, c.isDigit = true)
    (hsome : digits ≠ []) (point : Int) :
    ∃ c rest, positional digits point = c :: rest ∧ c.isDigit = true := by
  obtain ⟨c, rest, rfl⟩ := List.exists_cons_of_ne_nil hsome
  have hc := hdigits c List.mem_cons_self
  unfold positional
  split
  · exact ⟨'0', _, rfl, rfl⟩
  · next hpoint =>
    split
    · exact ⟨c, _, rfl, hc⟩
    · obtain ⟨n, hn⟩ : ∃ n, point.toNat = n + 1 := ⟨point.toNat - 1, by omega⟩
      rw [hn]
      exact ⟨c, _, rfl, hc⟩

theorem mem_positional {digits : List Char} (hdigits : ∀ c ∈ digits, c.isDigit = true) {point : Int}
    {c : Char} (h : c ∈ positional digits point) : c = '.' ∨ c.isDigit = true := by
  have hzero {n : Nat} (hm : c ∈ List.replicate n '0') : c.isDigit = true := by
    rw [List.eq_of_mem_replicate hm]
    rfl
  unfold positional at h
  split at h
  · obtain rfl | h := List.mem_cons.mp h
    · exact .inr rfl
    obtain rfl | h := List.mem_cons.mp h
    · exact .inl rfl
    obtain h | h := List.mem_append.mp h
    · exact .inr (hzero h)
    · exact .inr (hdigits c h)
  split at h
  · obtain h | h := List.mem_append.mp h
    · exact .inr (hdigits c h)
    · exact .inr (hzero h)
  · obtain h | h := List.mem_append.mp h
    · exact .inr (hdigits c (List.mem_of_mem_take h))
    obtain rfl | h := List.mem_cons.mp h
    · exact .inl rfl
    · exact .inr (hdigits c (List.mem_of_mem_drop h))

/-- A sign in front of digits is taken off them. -/
theorem read_signed {negative : Bool} {text : List Char} {x : Double}
    (hhead : ∃ c rest, text = c :: rest ∧ c.isDigit = true)
    (h : readMagnitude negative text = some x) : read (signed negative text) = .ok x := by
  obtain ⟨c, rest, rfl, hc⟩ := hhead
  cases negative with
  | true => simp only [signed, if_true, read, h]
  | false =>
    simp only [signed, Bool.false_eq_true, if_false]
    unfold read
    split
    · next hminus =>
      cases hminus
      cases hc
    · next hplus =>
      cases hplus
      cases hc
    · simp only [h]

/-- Reading gives back the value that was written. -/
theorem read_text (x : Double) : read x.text.toList = .ok x := by
  cases x with
  | nan => rfl
  | infinity negative => cases negative <;> rfl
  | finite negative rank =>
    obtain ⟨rank, hrank⟩ := rank
    by_cases hzero : rank = 0
    · subst hzero
      rw [text, if_pos rfl, String.toList_ofList]
      cases negative <;> rfl
    · have hpos : 0 < rank := Nat.pos_of_ne_zero hzero
      obtain ⟨-, hdigits, hsome, -⟩ := shortestDigits_eq .up rank (shortest_pos .up hpos hrank)
      have htext : (Double.finite negative ⟨rank, hrank⟩).text.toList =
          signed negative
            (positional (shortestDigits .up rank).1 (shortestDigits .up rank).2) := by
        rw [text, if_neg hzero, String.toList_ofList]
      rw [htext]
      exact read_signed (positional_head hdigits hsome _)
        (readMagnitude_positional .up negative hpos hrank)

/-- No character of a value's text is the zero character. -/
theorem text_isTerminable (x : Double) : Utf8.IsTerminable x.text := by
  have hsigned {negative : Bool} {body : List Char} (hbody : body.all (·.toNat ≠ 0) = true) :
      Utf8.IsTerminable (String.ofList (signed negative body)) := by
    have hnonzero (c : Char) (hm : c ∈ body) : c.toNat ≠ 0 :=
      of_decide_eq_true (List.all_eq_true.mp hbody c hm)
    intro c hm
    rw [String.toList_ofList] at hm
    cases negative with
    | false => exact hnonzero c hm
    | true =>
      obtain rfl | hm := List.mem_cons.mp hm
      · decide
      · exact hnonzero c hm
  cases x with
  | nan => decide
  | infinity negative => exact hsigned rfl
  | finite negative rank =>
    obtain ⟨rank, hrank⟩ := rank
    by_cases hzero : rank = 0
    · subst hzero
      rw [text, if_pos rfl]
      exact hsigned rfl
    · obtain ⟨-, hdigits, -⟩ :=
        shortestDigits_eq .up rank (shortest_pos .up (Nat.pos_of_ne_zero hzero) hrank)
      rw [text, if_neg hzero]
      refine hsigned (List.all_eq_true.mpr fun c hm => decide_eq_true ?_)
      obtain rfl | hc := mem_positional hdigits hm
      · decide
      · exact Number.toNat_ne_zero_of_isDigit hc

end BrokerWire.Double
