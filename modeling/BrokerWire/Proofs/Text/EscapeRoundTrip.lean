import BrokerWire.Proofs.Text.EscapeGrammar

namespace BrokerWire.Escape

/-- The hexadecimal digit of a value, as a small letter or as a capital one. -/
def digitChar (capital : Bool) (d : Nat) : Char :=
  ((if capital then capitalDigits else smallDigits)[d]?).getD '0'

/-- How a character is escaped. What has a letter of its own gets it; other characters outside of
ASCII get their code as far as four digits are enough, and all that remains is copied. -/
def escapeChar (capital : Bool) (c : Char) : List Char :=
  match letters.find? (·.2 = c) with
  | some entry => ['\\', entry.1]
  | none =>
    let n := c.toNat
    if n < 0x80 then [c]
    else if n < 0x100 then '\\' :: 'x' :: [n / 16, n % 16].map (digitChar capital)
    else if n ≤ 0xFFFF then
      '\\' :: 'u' :: [n / 4096, n / 256 % 16, n / 16 % 16, n % 16].map (digitChar capital)
    else [c]

/-- How a text is escaped. -/
def escape (capital : Bool) (text : List Char) : List Char :=
  text.flatMap (escapeChar capital)

theorem isDigit_digitChar (capital : Bool) {d : Nat} (h : d < 16) :
    IsDigit (digitChar capital d) d := by
  cases capital
  · exact .inl (by interval_cases d <;> rfl)
  · exact .inr (by interval_cases d <;> rfl)

theorem isHex_digitChar (capital : Bool) {digits : List Nat} (h : ∀ d ∈ digits, d < 16) :
    IsHex (digits.map (digitChar capital)) (Nat.ofDigits 16 digits.reverse) := by
  refine ⟨digits, ?_, rfl⟩
  induction digits with
  | nil => exact .nil
  | cons d digits ih =>
    obtain ⟨hd, hrest⟩ := List.forall_mem_cons.mp h
    exact .cons (isDigit_digitChar capital hd) (ih hrest)

/-- An escaped character is one piece, whatever stands behind it. -/
theorem piece_escapeChar (capital : Bool) (c : Char) (rest : List Char) :
    Piece IsSignedHex (escapeChar capital c ++ rest) [c] rest := by
  unfold escapeChar
  cases hfind : letters.find? (·.2 = c) with
  | some entry =>
    obtain ⟨k, d⟩ := entry
    have hd := List.find?_some hfind
    rw [decide_eq_true_eq] at hd
    subst hd
    exact .letter (List.mem_of_find?_eq_some hfind)
  | none =>
    have hplain : c ≠ '\\' := by
      rintro rfl
      revert hfind
      decide
    have hn := Utf8.toNat_cases c
    dsimp only
    split
    · exact .copied hplain
    split
    · have hhex := isHex_digitChar capital
        (show ∀ d ∈ [c.toNat / 16, c.toNat % 16], d < 16 by simp; omega)
      refine .code ⟨_, by simp [widths], rfl, .inl ?_⟩
      convert hhex using 1
      simp [Nat.ofDigits]
      omega
    split
    · have hhex := isHex_digitChar capital
        (show ∀ d ∈ [c.toNat / 4096, c.toNat / 256 % 16, c.toNat / 16 % 16, c.toNat % 16], d < 16 by
          simp
          omega)
      refine .code ⟨_, by simp [widths], rfl, .inl ?_⟩
      convert hhex using 1
      simp [Nat.ofDigits]
      omega
    · exact .copied hplain

theorem unescape_escape_append (capital : Bool) (text rest : List Char) :
    unescape (escape capital text ++ rest) = text ++ unescape rest := by
  induction text with
  | nil => rfl
  | cons c text ih =>
    rw [escape, List.flatMap_cons, List.append_assoc,
      unescape_piece (piece_escapeChar capital c _)]
    exact congrArg (c :: ·) ih

@[simp] theorem encode_nil : Utf8.encode [] = [] := rfl

@[simp] theorem length_encode_cons (c : Char) (text : List Char) :
    (Utf8.encode (c :: text)).length = c.utf8Size + (Utf8.encode text).length := by
  rw [Utf8.encode, List.flatMap_cons, List.length_append, Utf8.length_encodeChar]
  rfl

theorem length_encode_append (front rest : List Char) :
    (Utf8.encode (front ++ rest)).length =
      (Utf8.encode front).length + (Utf8.encode rest).length := by
  rw [Utf8.encode, List.flatMap_append, List.length_append]
  rfl

theorem length_le_length_encode (text : List Char) : text.length ≤ (Utf8.encode text).length := by
  induction text with
  | nil => exact Nat.le_refl 0
  | cons c text ih =>
    have hpos := c.utf8Size_pos
    rw [length_encode_cons, List.length_cons]
    omega

/-- No piece means more octets than it takes. The code of a character takes four at least, and no
character has more. -/
theorem length_encode_piece {Group : List Char → Nat → Prop} {text meaning rest : List Char}
    (h : Piece Group text meaning rest) :
    (Utf8.encode meaning).length + (Utf8.encode rest).length ≤ (Utf8.encode text).length := by
  cases h with
  | copied hc => simp
  | @letter k c rest hletter =>
    have hc : c.utf8Size = 1 := by
      simp only [letters, List.mem_cons, Prod.mk.injEq, List.not_mem_nil, or_false] at hletter
      obtain ⟨-, rfl⟩ | ⟨-, rfl⟩ | ⟨-, rfl⟩ | ⟨-, rfl⟩ | ⟨-, rfl⟩ | ⟨-, rfl⟩ := hletter <;> rfl
    have hk := k.utf8Size_pos
    simp only [length_encode_cons, encode_nil, List.length_nil, hc]
    omega
  | @code k c behind rest hcode =>
    obtain ⟨group, hwidth, rfl, -⟩ := hcode
    have htwo : 2 ≤ group.length := by
      simp only [widths, List.mem_cons, Prod.mk.injEq, List.not_mem_nil, or_false] at hwidth
      omega
    have hgroup := length_le_length_encode group
    have hc := c.utf8Size_le_four
    have hk := k.utf8Size_pos
    have hslash := Char.utf8Size_pos '\\'
    simp only [length_encode_cons, length_encode_append, encode_nil, List.length_nil]
    omega
  | kept => simp [Nat.add_assoc]
  | last => simp

theorem length_encode_reads {Group : List Char → Nat → Prop} {text meaning : List Char}
    (h : Reads Group text meaning) :
    (Utf8.encode meaning).length ≤ (Utf8.encode text).length := by
  induction h with
  | done => exact Nat.le_refl _
  | piece hpiece _ ih =>
    have hfirst := length_encode_piece hpiece
    rw [length_encode_append]
    omega

/-- What was escaped is given back, a text without a backslash stays as it is, and unescaping makes
no text longer in octets. -/
theorem unescape_escape (capital : Bool) :
    (∀ text, unescape (escape capital text) = text) ∧
      (∀ text, '\\' ∉ text → unescape text = text) ∧
      ∀ text, (Utf8.encode (unescape text)).length ≤ (Utf8.encode text).length := by
  refine ⟨fun text => ?_, fun text h => ?_, fun text => ?_⟩
  · have hback := unescape_escape_append capital text []
    rwa [List.append_nil, unescape, List.append_nil] at hback
  · have hplain : ∀ c ∈ text, c ≠ '\\' := fun c hc he => h (he ▸ hc)
    have hstays := unescape_plain hplain []
    rwa [List.append_nil, unescape, List.append_nil] at hstays
  · exact length_encode_reads (reads_iff.mpr rfl)

/-- A quote, a digit behind a code of two digits, and a code of four; the text has no backslash. -/
theorem unescape_escape_omega :
    escape true "\"\u00e94\u03a9".toList = "\\\"\\xE94\\u03A9".toList ∧
      unescape "\\\"\\xE94\\u03A9".toList = "\"\u00e94\u03a9".toList ∧
      '\\' ∉ "\"\u00e94\u03a9".toList ∧
      unescape "\"\u00e94\u03a9".toList = "\"\u00e94\u03a9".toList ∧
      (Utf8.encode (unescape "\\\"\\xE94\\u03A9".toList)).length ≤
        (Utf8.encode "\\\"\\xE94\\u03A9".toList).length := by
  obtain ⟨hback, hplain, hlength⟩ := unescape_escape true
  have hescape : escape true "\"\u00e94\u03a9".toList = "\\\"\\xE94\\u03A9".toList := by decide
  have hslash : '\\' ∉ "\"\u00e94\u03a9".toList := by decide
  refine ⟨hescape, ?_, hslash, hplain _ hslash, hlength _⟩
  rw [← hescape]
  exact hback _

end BrokerWire.Escape
