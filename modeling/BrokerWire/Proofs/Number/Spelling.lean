import BrokerWire.Proofs.Number.Decimal

namespace BrokerWire.Number

theorem digit?_eq_ok {c : Char} {d : Nat} (h : digit? c = some d) :
    c.isDigit = true ∧ d = c.toNat - 48 := by
  unfold digit? at h
  split at h
  · next hc =>
    cases h
    exact ⟨hc, rfl⟩
  · cases h

theorem readMagnitude_eq_ok {limit : Nat} {overflow : IntegerFault} {digits : List Char}
    {value n : Nat} (hvalue : value ≤ limit)
    (h : readMagnitude limit overflow value digits = .ok n) :
    (∀ c ∈ digits, c.isDigit = true) ∧ n = Nat.ofDigitChars 10 digits value ∧ n ≤ limit := by
  induction digits generalizing value with
  | nil =>
    cases h
    exact ⟨nofun, rfl, hvalue⟩
  | cons c digits ih =>
    rw [readMagnitude] at h
    cases hdigit : digit? c with
    | none =>
      rw [hdigit] at h
      cases h
    | some d =>
      obtain ⟨hc, rfl⟩ := digit?_eq_ok hdigit
      rw [hdigit] at h
      dsimp only at h
      split at h
      · cases h
      · next hfits =>
        obtain ⟨hrest, hn, hle⟩ := ih (Nat.not_lt.mp hfits) h
        exact ⟨List.forall_mem_cons.mpr ⟨hc, hrest⟩, by rw [hn, Nat.ofDigitChars_cons]; rfl, hle⟩

theorem readDigits_eq_ok {limit : Nat} {overflow : IntegerFault} {digits : List Char} {n : Nat}
    (h : readDigits limit overflow digits = .ok n) :
    (∀ c ∈ digits, c.isDigit = true) ∧ n = Nat.ofDigitChars 10 digits 0 ∧ n ≤ limit := by
  unfold readDigits at h
  split at h
  · cases h
  · exact readMagnitude_eq_ok (Nat.zero_le limit) h

/-- Whether a text spells an integer: decimal digits, perhaps behind a sign. -/
inductive Spells : List Char → Int → Prop
  | bare {digits : List Char} (h : ∀ c ∈ digits, c.isDigit = true) :
    Spells digits (Nat.ofDigitChars 10 digits 0)
  | plus {digits : List Char} (h : ∀ c ∈ digits, c.isDigit = true) :
    Spells ('+' :: digits) (Nat.ofDigitChars 10 digits 0)
  | minus {digits : List Char} (h : ∀ c ∈ digits, c.isDigit = true) :
    Spells ('-' :: digits) (-(Nat.ofDigitChars 10 digits 0 : Nat))

theorem exists_of_map_eq_ok {ε α β : Type} {r : Except ε α} {f : α → β} {b : β}
    (h : r.map f = .ok b) : ∃ a, r = .ok a ∧ f a = b := by
  cases r with
  | error e => cases h
  | ok a =>
    cases h
    exact ⟨a, rfl, rfl⟩

theorem readInteger_eq_ok {below above : Nat} {text : List Char} {n : Int}
    (h : readInteger below above text = .ok n) :
    Spells text n ∧ -(below : Int) ≤ n ∧ n ≤ above := by
  unfold readInteger at h
  split at h
  · cases h
  · obtain ⟨m, hread, rfl⟩ := exists_of_map_eq_ok h
    obtain ⟨hdigits, rfl, hle⟩ := readDigits_eq_ok hread
    refine ⟨.plus hdigits, ?_, ?_⟩ <;> simp only [Int.ofNat_eq_natCast] <;> omega
  · next digits =>
    cases hread : readDigits below .tooSmall digits with
    | error fault =>
      rw [hread] at h
      cases h
    | ok m =>
      obtain ⟨hdigits, rfl, hle⟩ := readDigits_eq_ok hread
      rw [hread] at h
      cases h
      refine ⟨.minus hdigits, ?_, ?_⟩ <;> dsimp only <;> omega
  · obtain ⟨m, hread, rfl⟩ := exists_of_map_eq_ok h
    obtain ⟨hdigits, rfl, hle⟩ := readDigits_eq_ok hread
    refine ⟨.bare hdigits, ?_, ?_⟩ <;> simp only [Int.ofNat_eq_natCast] <;> omega

theorem readInt32_eq_ok {text : List Char} {n : Int32} (h : readInt32 text = .ok n) :
    Spells text n.toInt := by
  unfold readInt32 at h
  obtain ⟨i, hread, rfl⟩ := exists_of_map_eq_ok h
  obtain ⟨hspells, hlow, hhigh⟩ := readInteger_eq_ok hread
  change -2147483648 ≤ i at hlow
  change i ≤ 2147483647 at hhigh
  rwa [Int32.toInt_ofInt_of_le hlow (by omega)]

theorem readInt64_eq_ok {text : List Char} {n : Int64} (h : readInt64 text = .ok n) :
    Spells text n.toInt := by
  unfold readInt64 at h
  obtain ⟨i, hread, rfl⟩ := exists_of_map_eq_ok h
  obtain ⟨hspells, hlow, hhigh⟩ := readInteger_eq_ok hread
  change -9223372036854775808 ≤ i at hlow
  change i ≤ 9223372036854775807 at hhigh
  rwa [Int64.toInt_ofInt_of_le hlow (by omega)]

/-- As many digits spell a number in one way only. -/
theorem ofDigitChars_inj {a b : List Char} (ha : ∀ c ∈ a, c.isDigit = true)
    (hb : ∀ c ∈ b, c.isDigit = true) (hlength : a.length = b.length)
    (h : Nat.ofDigitChars 10 a 0 = Nat.ofDigitChars 10 b 0) : a = b := by
  induction a using List.reverseRecOn generalizing b with
  | nil => exact (List.length_eq_zero_iff.mp hlength.symm).symm
  | append_singleton a c ih =>
    obtain rfl | ⟨b, d, rfl⟩ := List.eq_nil_or_concat' b
    · simp at hlength
    rw [List.length_append, List.length_append] at hlength
    rw [Nat.ofDigitChars_append, Nat.ofDigitChars_append, Nat.ofDigitChars_cons,
      Nat.ofDigitChars_cons, Nat.ofDigitChars_nil, Nat.ofDigitChars_nil] at h
    change _ + (c.toNat - 48) = _ + (d.toNat - 48) at h
    obtain ⟨ha, hc⟩ := List.forall_mem_append.mp ha
    obtain ⟨hb, hd⟩ := List.forall_mem_append.mp hb
    have hc : 48 ≤ c.toNat ∧ c.toNat ≤ 57 :=
      Char.isDigit_iff_toNat.mp (hc c List.mem_cons_self)
    have hd : 48 ≤ d.toNat ∧ d.toNat ≤ 57 :=
      Char.isDigit_iff_toNat.mp (hd d List.mem_cons_self)
    have hlast : c = d := Char.toNat_inj.mp (by omega)
    have hfront : a = b := ih ha hb (Nat.add_right_cancel hlength) (by omega)
    rw [hlast, hfront]

theorem ofDigitChars_zeros (n : Nat) (digits : List Char) :
    Nat.ofDigitChars 10 (List.replicate n '0' ++ digits) 0 = Nat.ofDigitChars 10 digits 0 := by
  rw [Nat.ofDigitChars_append, Nat.ofDigitChars_replicate_zero, Nat.mul_zero]

theorem isDigit_zeros {n : Nat} {digits : List Char} (h : ∀ c ∈ digits, c.isDigit = true) :
    ∀ c ∈ List.replicate n '0' ++ digits, c.isDigit = true := by
  refine List.forall_mem_append.mpr ⟨fun c hm => ?_, h⟩
  rw [List.eq_of_mem_replicate hm]
  rfl

/-- Whether digits begin with no zero. -/
def IsOwn (digits : List Char) : Prop :=
  (∀ c ∈ digits, c.isDigit = true) ∧ digits.head? ≠ some '0'

instance (digits : List Char) : Decidable (IsOwn digits) :=
  decidable_of_iff (digits.all Char.isDigit = true ∧ digits.head? ≠ some '0')
    (and_congr_left' List.all_eq_true)

/-- Digits spell a number with zeros in front of the number's own digits. -/
theorem IsOwn.zeros {own digits : List Char} (hown : IsOwn own)
    (hdigits : ∀ c ∈ digits, c.isDigit = true)
    (h : Nat.ofDigitChars 10 digits 0 = Nat.ofDigitChars 10 own 0) :
    ∃ zeros, digits = List.replicate zeros '0' ++ own := by
  obtain hlt | hle := Nat.lt_or_ge digits.length own.length
  · have hmore : own = List.replicate (own.length - digits.length) '0' ++ digits := by
      apply ofDigitChars_inj hown.1 (isDigit_zeros hdigits)
      · rw [List.length_append, List.length_replicate]
        omega
      · rw [ofDigitChars_zeros, h]
    obtain ⟨more, hzero⟩ : ∃ more, own.length - digits.length = more + 1 :=
      ⟨own.length - digits.length - 1, by omega⟩
    rw [hzero] at hmore
    refine absurd ?_ hown.2
    rw [hmore]
    rfl
  · refine ⟨digits.length - own.length, ?_⟩
    apply ofDigitChars_inj hdigits (isDigit_zeros hown.1)
    · rw [List.length_append, List.length_replicate]
      omega
    · rw [ofDigitChars_zeros, h]

theorem IsOwn.unique {a b : List Char} (ha : IsOwn a) (hb : IsOwn b)
    (h : Nat.ofDigitChars 10 a 0 = Nat.ofDigitChars 10 b 0) : a = b := by
  obtain ⟨zeros, hzeros⟩ := hb.zeros ha.1 h
  cases zeros with
  | zero => exact hzeros
  | succ zeros =>
    refine absurd ?_ ha.2
    rw [hzeros]
    rfl

/-- The spellings of a number: its own digits behind zeros, and perhaps a plus sign in front. -/
def IsRespelled (own text : List Char) : Prop :=
  ∃ sign zeros, (sign = [] ∨ sign = ['+']) ∧ text = sign ++ (List.replicate zeros '0' ++ own)

/-- The texts of a positive integer are its own digits behind zeros and perhaps a plus sign. -/
theorem Spells.respelled {text own : List Char} {n : Int} (h : Spells text n) (hpos : 0 < n)
    (hown : IsOwn own) (hn : n = (Nat.ofDigitChars 10 own 0 : Nat)) : IsRespelled own text := by
  cases h with
  | bare hdigits =>
    obtain ⟨zeros, rfl⟩ := hown.zeros hdigits (by omega)
    exact ⟨[], zeros, .inl rfl, rfl⟩
  | plus hdigits =>
    obtain ⟨zeros, rfl⟩ := hown.zeros hdigits (by omega)
    exact ⟨['+'], zeros, .inr rfl, rfl⟩
  | minus hdigits => omega

end BrokerWire.Number

namespace BrokerWire.Decimal

open Number (IsOwn)

/-- Whether a text is a whole number without a plus sign and without zeros in front. -/
def IsPlain (text : List Char) : Prop :=
  ∃ sign digits, (sign = [] ∨ sign = ['-']) ∧ IsOwn digits ∧ text = sign ++ digits

theorem readDigits_eq_ok {digits : List Char} (hdigits : ∀ c ∈ digits, c.isDigit = true)
    {p : Progress} (hpoint : p.point = false) (hscale : p.scale = 0) {r : Nat × Nat}
    (h : readDigits p digits = .ok r) : r = (Nat.ofDigitChars 10 digits p.coefficient, 0) := by
  induction digits generalizing p with
  | nil =>
    rw [readDigits] at h
    split at h
    · cases h
      rw [hscale, Nat.ofDigitChars_nil]
    · cases h
  | cons c digits ih =>
    obtain ⟨hc, hrest⟩ := List.forall_mem_cons.mp hdigits
    rw [readDigits, Number.digit?_eq_some hc] at h
    dsimp only at h
    rw [hpoint] at h
    split at h
    · rw [Nat.ofDigitChars_cons]
      exact ih hrest rfl rfl h
    · cases h

theorem ofParts_eq_ok {parts : Int × Nat} {d : Decimal} (h : ofParts parts = .ok d) :
    d.coefficient = parts.1 ∧ d.scale = parts.2 := by
  unfold ofParts of? at h
  split at h
  · next hsome =>
    cases h
    split at hsome
    · cases hsome
      exact ⟨rfl, rfl⟩
    · cases hsome
  · cases h

theorem not_isMark_of_own {sign digits : List Char} (hsign : sign = [] ∨ sign = ['-'])
    (hown : IsOwn digits) : (sign ++ digits).any isMark = false := by
  have hdigits : ∀ c ∈ digits, ¬ isMark c = true := by
    intro c hm
    rw [not_isMark_of_isDigit (hown.1 c hm)]
    exact Bool.false_ne_true
  rw [List.any_eq_false]
  obtain rfl | rfl := hsign
  · exact hdigits
  · exact List.forall_mem_cons.mpr ⟨by decide, hdigits⟩

theorem readSigned_eq_ok {sign digits : List Char} (hsign : sign = [] ∨ sign = ['-'])
    (hdigits : ∀ c ∈ digits, c.isDigit = true) {parts : Int × Nat}
    (h : readSigned (sign ++ digits) = .ok parts) :
    sign = [] ∧ parts = (((Nat.ofDigitChars 10 digits 0 : Nat) : Int), 0) ∨
      sign = ['-'] ∧ parts = (-((Nat.ofDigitChars 10 digits 0 : Nat) : Int), 0) := by
  obtain rfl | rfl := hsign
  · refine .inl ⟨rfl, ?_⟩
    rw [List.nil_append] at h
    unfold readSigned at h
    split at h
    · cases h
    · have hminus := hdigits '-' List.mem_cons_self
      cases hminus
    · have hplus := hdigits '+' List.mem_cons_self
      cases hplus
    · obtain ⟨r, hread, rfl⟩ := Number.exists_of_map_eq_ok h
      rw [readDigits_eq_ok hdigits rfl rfl hread]
      rfl
  · refine .inr ⟨rfl, ?_⟩
    obtain ⟨r, hread, rfl⟩ := Number.exists_of_map_eq_ok h
    rw [readDigits_eq_ok hdigits rfl rfl hread]
    rfl

/-- A plain text is read as the whole number that it spells. -/
theorem value_of_read {sign digits : List Char} (hsign : sign = [] ∨ sign = ['-'])
    (hown : IsOwn digits) {d : Decimal} (h : read (sign ++ digits) = .ok d) :
    sign = [] ∧ d.value = (Nat.ofDigitChars 10 digits 0 : Nat) ∨
      sign = ['-'] ∧ d.value = -(Nat.ofDigitChars 10 digits 0 : Nat) := by
  rw [read, not_isMark_of_own hsign hown, if_neg Bool.false_ne_true, readPlain] at h
  cases hread : readSigned (sign ++ digits) with
  | error fault =>
    rw [hread] at h
    cases h
  | ok parts =>
    rw [hread] at h
    obtain ⟨hcoefficient, hscale⟩ := ofParts_eq_ok h
    obtain ⟨hs, rfl⟩ | ⟨hs, rfl⟩ := readSigned_eq_ok hsign hown.1 hread
    · exact .inl ⟨hs, by simp [value, hcoefficient, hscale]⟩
    · exact .inr ⟨hs, by simp [value, hcoefficient, hscale]⟩

/-- A number other than zero has one plain text. -/
theorem IsPlain.eq_of_value {text text' : List Char} (hplain : IsPlain text)
    (hplain' : IsPlain text') {d d' : Decimal} (h : read text = .ok d) (h' : read text' = .ok d')
    (hvalue : d.value = d'.value) (hne : d.value ≠ 0) : text = text' := by
  obtain ⟨sign, digits, hsign, hown, rfl⟩ := hplain
  obtain ⟨sign', digits', hsign', hown', rfl⟩ := hplain'
  obtain ⟨rfl, hd⟩ | ⟨rfl, hd⟩ := value_of_read hsign hown h <;>
    obtain ⟨rfl, hd'⟩ | ⟨rfl, hd'⟩ := value_of_read hsign' hown' h' <;>
    rw [hd] at hvalue hne <;> rw [hd'] at hvalue
  · rw [hown.unique hown' (by exact_mod_cast hvalue)]
  · norm_cast at hvalue hne
    omega
  · norm_cast at hvalue hne
    omega
  · rw [hown.unique hown' (by exact_mod_cast neg_injective hvalue)]

end BrokerWire.Decimal
