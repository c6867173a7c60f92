import BrokerWire.Text.Utf8

namespace BrokerWire.Utf8

theorem toNat_octet {n : Nat} (h : n < 256) : (UInt8.ofNat n).toNat = n := by
  rw [UInt8.toNat_ofNat']
  omega

/-- The values of characters leave out the surrogates. -/
theorem toNat_cases (c : Char) :
    c.toNat < 0xD800 ∨ 0xDFFF < c.toNat ∧ c.toNat < 0x110000 :=
  c.valid

theorem start?_one {n : Nat} (h : n < 0x80) :
    start? (UInt8.ofNat n) = some (.inl (Char.ofNat n)) := by
  have hn : (UInt8.ofNat n).toNat = n := toNat_octet (by omega)
  simp [start?, hn, h]

theorem start?_two {n : Nat} (hlow : 0x80 ≤ n) (hhigh : n < 0x800) :
    start? (UInt8.ofNat (0xC0 + n / 64)) = some (.inr ⟨n / 64, 1, 1, 0x80, 0xBF⟩) := by
  have hn : (UInt8.ofNat (0xC0 + n / 64)).toNat = 0xC0 + n / 64 := toNat_octet (by omega)
  simp only [start?, hn]
  rw [if_neg (by omega), if_neg (by omega), if_pos (by omega), Nat.add_sub_cancel_left]

/-- The lead octet of three admits the octet that follows it in the encoding of a character. -/
theorem start?_three {n : Nat} (hlow : 0x800 ≤ n) (hhigh : n < 0x10000)
    (hvalid : n < 0xD800 ∨ 0xDFFF < n) :
    ∃ least greatest,
      start? (UInt8.ofNat (0xE0 + n / 4096)) = some (.inr ⟨n / 4096, 2, 1, least, greatest⟩) ∧
      least ≤ 0x80 + n / 64 % 64 ∧ 0x80 + n / 64 % 64 ≤ greatest := by
  have hn : (UInt8.ofNat (0xE0 + n / 4096)).toNat = 0xE0 + n / 4096 := toNat_octet (by omega)
  simp only [start?, hn]
  rw [if_neg (by omega), if_neg (by omega), if_neg (by omega)]
  by_cases hfirst : 0xE0 + n / 4096 = 0xE0
  · have hbits : n / 4096 = 0 := by omega
    rw [if_pos hfirst, hbits]
    exact ⟨_, _, rfl, by omega, by omega⟩
  rw [if_neg hfirst]
  by_cases hsurrogate : 0xE0 + n / 4096 = 0xED
  · have hbits : n / 4096 = 13 := by omega
    rw [if_pos hsurrogate, hbits]
    exact ⟨_, _, rfl, by omega, by omega⟩
  rw [if_neg hsurrogate, if_pos (by omega), Nat.add_sub_cancel_left]
  exact ⟨_, _, rfl, by omega, by omega⟩

/-- The lead octet of four admits the octet that follows it in the encoding of a character. -/
theorem start?_four {n : Nat} (hlow : 0x10000 ≤ n) (hhigh : n < 0x110000) :
    ∃ least greatest,
      start? (UInt8.ofNat (0xF0 + n / 262144)) =
        some (.inr ⟨n / 262144, 3, 1, least, greatest⟩) ∧
      least ≤ 0x80 + n / 4096 % 64 ∧ 0x80 + n / 4096 % 64 ≤ greatest := by
  have hn : (UInt8.ofNat (0xF0 + n / 262144)).toNat = 0xF0 + n / 262144 :=
    toNat_octet (by omega)
  simp only [start?, hn]
  rw [if_neg (by omega), if_neg (by omega), if_neg (by omega), if_neg (by omega),
    if_neg (by omega), if_neg (by omega)]
  by_cases hfirst : 0xF0 + n / 262144 = 0xF0
  · have hbits : n / 262144 = 0 := by omega
    rw [if_pos hfirst, hbits]
    exact ⟨_, _, rfl, by omega, by omega⟩
  rw [if_neg hfirst]
  by_cases hlast : 0xF0 + n / 262144 < 0xF4
  · rw [if_pos hlast, Nat.add_sub_cancel_left]
    exact ⟨_, _, rfl, by omega, by omega⟩
  have hbits : n / 262144 = 4 := by omega
  rw [if_neg hlast, if_pos (by omega), hbits]
  exact ⟨_, _, rfl, by omega, by omega⟩

/-- An octet in range goes on with the character that is pending. -/
theorem decodeFrom_middle (before : List Char) (index : Nat) {p : Pending} {m : Nat}
    (rest : Bytes) (hm : m < 64) (hmissing : p.missing ≠ 1) (hleast : p.least ≤ 0x80 + m)
    (hgreatest : 0x80 + m ≤ p.greatest) :
    decodeFrom before index (some p) (UInt8.ofNat (0x80 + m) :: rest) =
      decodeFrom before index (some ⟨p.bits * 64 + m, p.missing - 1, p.seen + 1, 0x80, 0xBF⟩)
        rest := by
  have hn : (UInt8.ofNat (0x80 + m)).toNat = 0x80 + m := toNat_octet (by omega)
  rw [decodeFrom, hn, if_neg (by omega)]
  simp only [hmissing, if_false, Nat.add_sub_cancel_left]

/-- The last octet in range completes the character that is pending. -/
theorem decodeFrom_last (before : List Char) (index : Nat) {p : Pending} {m : Nat}
    (rest : Bytes) (hm : m < 64) (hmissing : p.missing = 1) (hleast : p.least ≤ 0x80 + m)
    (hgreatest : 0x80 + m ≤ p.greatest) :
    decodeFrom before index (some p) (UInt8.ofNat (0x80 + m) :: rest) =
      decodeFrom (Char.ofNat (p.bits * 64 + m) :: before) (index + p.seen + 1) none rest := by
  have hn : (UInt8.ofNat (0x80 + m)).toNat = 0x80 + m := toNat_octet (by omega)
  rw [decodeFrom, hn, if_neg (by omega)]
  simp only [hmissing, if_true, Nat.add_sub_cancel_left]

/-- The encoding of a character is decoded as that character, whatever follows. -/
theorem decodeFrom_encodeChar (before : List Char) (index : Nat) (c : Char) (rest : Bytes) :
    ∃ index', decodeFrom before index none (encodeChar c ++ rest) =
      decodeFrom (c :: before) index' none rest := by
  have hc : Char.ofNat c.toNat = c := Char.ofNat_toNat c
  have hvalid := toNat_cases c
  unfold encodeChar
  generalize c.toNat = n at hc hvalid
  dsimp only
  by_cases h1 : n < 0x80
  · rw [if_pos h1, List.cons_append, List.nil_append, decodeFrom, start?_one h1]
    exact ⟨index + 1, by rw [hc]⟩
  rw [if_neg h1]
  by_cases h2 : n < 0x800
  · rw [if_pos h2, List.cons_append, List.cons_append, List.nil_append, decodeFrom,
      start?_two (by omega) h2]
    dsimp only
    rw [decodeFrom_last _ _ _ (by omega) rfl (Nat.le_add_right _ _) (by dsimp only; omega)]
    have hbits : n / 64 * 64 + n % 64 = n := by omega
    exact ⟨index + 1 + 1, by rw [hbits, hc]⟩
  rw [if_neg h2]
  by_cases h3 : n < 0x10000
  · obtain ⟨least, greatest, hs, hl, hg⟩ := start?_three (by omega) h3 (by omega)
    rw [if_pos h3, List.cons_append, List.cons_append, List.cons_append, List.nil_append,
      decodeFrom, hs]
    dsimp only
    rw [decodeFrom_middle _ _ _ (by omega) (show (2 : Nat) ≠ 1 by decide) hl hg,
      decodeFrom_last _ _ _ (by omega) rfl (Nat.le_add_right _ _) (by dsimp only; omega)]
    have hbits : (n / 4096 * 64 + n / 64 % 64) * 64 + n % 64 = n := by omega
    exact ⟨index + 2 + 1, by rw [hbits, hc]⟩
  · obtain ⟨least, greatest, hs, hl, hg⟩ := start?_four (by omega) (by omega : n < 0x110000)
    rw [if_neg h3, List.cons_append, List.cons_append, List.cons_append, List.cons_append,
      List.nil_append, decodeFrom, hs]
    dsimp only
    rw [decodeFrom_middle _ _ _ (by omega) (show (3 : Nat) ≠ 1 by decide) hl hg,
      decodeFrom_middle _ _ _ (by omega) (show (2 : Nat) ≠ 1 by decide) (Nat.le_add_right _ _)
        (by dsimp only; omega),
      decodeFrom_last _ _ _ (by omega) rfl (Nat.le_add_right _ _) (by dsimp only; omega)]
    have hbits : ((n / 262144 * 64 + n / 4096 % 64) * 64 + n / 64 % 64) * 64 + n % 64 = n := by
      omega
    exact ⟨index + 3 + 1, by rw [hbits, hc]⟩

theorem decodeFrom_encode (before : List Char) (index : Nat) (text : List Char) :
    decodeFrom before index none (encode text) = .ok (before.reverse ++ text) := by
  induction text generalizing before index with
  | nil => simp [encode, decodeFrom]
  | cons c text ih =>
    obtain ⟨index', h⟩ := decodeFrom_encodeChar before index c (encode text)
    have hcons : encode (c :: text) = encodeChar c ++ encode text := List.flatMap_cons
    rw [hcons, h, ih, List.reverse_cons, List.append_assoc, List.singleton_append]

theorem decode_encode (text : List Char) : decode (encode text) = .ok text :=
  decodeFrom_encode [] 0 text

theorem zero_not_mem_encodeChar {c : Char} (h : c.toNat ≠ 0) : (0 : UInt8) ∉ encodeChar c := by
  have hvalid := toNat_cases c
  have nonzero {k : Nat} (hk : k ≠ 0) (hlt : k < 256) : (0 : UInt8) ≠ UInt8.ofNat k := by
    intro he
    have hz := congrArg UInt8.toNat he
    rw [toNat_octet hlt] at hz
    exact hk hz.symm
  intro hm
  unfold encodeChar at hm
  dsimp only at hm
  split at hm
  · obtain hm := List.mem_singleton.mp hm
    exact nonzero h (by omega) hm
  split at hm
  · simp only [List.mem_cons, List.not_mem_nil, or_false] at hm
    obtain hm | hm := hm <;> exact nonzero (by omega) (by omega) hm
  split at hm
  · simp only [List.mem_cons, List.not_mem_nil, or_false] at hm
    obtain hm | hm | hm := hm <;> exact nonzero (by omega) (by omega) hm
  · simp only [List.mem_cons, List.not_mem_nil, or_false] at hm
    obtain hm | hm | hm | hm := hm <;> exact nonzero (by omega) (by omega) hm

/-- Whether a text has no zero character, so that a zero octet can end it. -/
def IsTerminable (text : String) : Prop :=
  ∀ c ∈ text.toList, c.toNat ≠ 0

instance (text : String) : Decidable (IsTerminable text) :=
  List.decidableBAll _ text.toList

theorem zero_not_mem_encode {text : String} (h : IsTerminable text) :
    (0 : UInt8) ∉ encode text.toList := by
  intro hm
  obtain ⟨c, hc, hz⟩ := List.mem_flatMap.mp hm
  exact zero_not_mem_encodeChar (h c hc) hz

/-- The first octet says how many there are, and which octets may come second. -/
theorem start?_cases {lead : UInt8} {s : Char ⊕ Pending} (h : start? lead = some s) :
    (lead.toNat < 0x80 ∧ s = .inl (Char.ofNat lead.toNat)) ∨
    (0xC2 ≤ lead.toNat ∧ lead.toNat < 0xE0 ∧ s = .inr ⟨lead.toNat - 0xC0, 1, 1, 0x80, 0xBF⟩) ∨
    (∃ least greatest, 0xE0 ≤ lead.toNat ∧ lead.toNat < 0xF0 ∧
      s = .inr ⟨lead.toNat - 0xE0, 2, 1, least, greatest⟩ ∧ 0x80 ≤ least ∧ greatest ≤ 0xBF ∧
      (lead.toNat = 0xE0 → 0xA0 ≤ least) ∧ (lead.toNat = 0xED → greatest ≤ 0x9F)) ∨
    (∃ least greatest, 0xF0 ≤ lead.toNat ∧ lead.toNat ≤ 0xF4 ∧
      s = .inr ⟨lead.toNat - 0xF0, 3, 1, least, greatest⟩ ∧ 0x80 ≤ least ∧ greatest ≤ 0xBF ∧
      (lead.toNat = 0xF0 → 0x90 ≤ least) ∧ (lead.toNat = 0xF4 → greatest ≤ 0x8F)) := by
  unfold start? at h
  dsimp only at h
  generalize lead.toNat = n at h ⊢
  split at h
  · next h1 =>
    cases h
    exact .inl ⟨h1, rfl⟩
  next h1 =>
  split at h
  · cases h
  next h2 =>
  split at h
  · next h3 =>
    cases h
    exact .inr (.inl ⟨by omega, h3, rfl⟩)
  next h3 =>
  -- Behind the sequences of two octets, the first and the last octet of each length stand alone.
  split at h
  · next h4 =>
    cases h
    exact .inr (.inr (.inl ⟨_, _, by omega, by omega, by rw [h4], by omega, by omega, by omega,
      by omega⟩))
  next h4 =>
  split at h
  · next h5 =>
    cases h
    exact .inr (.inr (.inl ⟨_, _, by omega, by omega, by rw [h5], by omega, by omega, by omega,
      by omega⟩))
  next h5 =>
  split at h
  · next h6 =>
    cases h
    exact .inr (.inr (.inl ⟨_, _, by omega, h6, rfl, by omega, by omega, by omega, by omega⟩))
  next h6 =>
  split at h
  · next h7 =>
    cases h
    exact .inr (.inr (.inr ⟨_, _, by omega, by omega, by rw [h7], by omega, by omega, by omega,
      by omega⟩))
  next h7 =>
  split at h
  · next h8 =>
    cases h
    exact .inr (.inr (.inr ⟨_, _, by omega, by omega, rfl, by omega, by omega, by omega, by omega⟩))
  next h8 =>
  split at h
  · next h9 =>
    cases h
    exact .inr (.inr (.inr ⟨_, _, by omega, by omega, by rw [h9], by omega, by omega, by omega,
      by omega⟩))
  · cases h

section Inverse

variable {before text : List Char} {index : Nat} {octets : Bytes}

/-- A character that is pending takes an octet in its range. -/
theorem decodeFrom_pending {p : Pending} (h : decodeFrom before index (some p) octets = .ok text) :
    ∃ octet rest, octets = octet :: rest ∧ p.least ≤ octet.toNat ∧ octet.toNat ≤ p.greatest ∧
      if p.missing = 1 then
        ∃ index', decodeFrom (Char.ofNat (p.bits * 64 + (octet.toNat - 0x80)) :: before) index' none
          rest = .ok text
      else
        decodeFrom before index (some ⟨p.bits * 64 + (octet.toNat - 0x80), p.missing - 1,
          p.seen + 1, 0x80, 0xBF⟩) rest = .ok text := by
  cases octets with
  | nil => cases h
  | cons octet rest =>
    rw [decodeFrom] at h
    split at h
    · cases h
    · next hrange =>
      refine ⟨octet, rest, rfl, by omega, by omega, ?_⟩
      dsimp only at h
      split at h
      · next hlast =>
        rw [if_pos hlast]
        exact ⟨_, h⟩
      · next hmore =>
        rw [if_neg hmore]
        exact h

theorem toNat_ofNat_of_valid {n : Nat} (h : n < 0xD800 ∨ 0xDFFF < n ∧ n < 0x110000) :
    (Char.ofNat n).toNat = n := by
  have hvalid : n.isValidChar := h
  rw [Char.ofNat, dif_pos hvalid]
  rfl

theorem ofNat_toNat_eq {n : Nat} (octet : UInt8) (h : n = octet.toNat) : UInt8.ofNat n = octet := by
  rw [h, UInt8.ofNat_toNat]

/-- A decoder that is between two characters takes the encoding of one character, or it is done. -/
theorem decodeFrom_cases (h : decodeFrom before index none octets = .ok text) :
    (octets = [] ∧ text = before.reverse) ∨
    ∃ c rest index', octets = encodeChar c ++ rest ∧
      decodeFrom (c :: before) index' none rest = .ok text := by
  cases octets with
  | nil =>
    cases h
    exact .inl ⟨rfl, rfl⟩
  | cons lead rest =>
    refine .inr ?_
    have hlead := lead.toNat_lt
    rw [decodeFrom] at h
    split at h
    · cases h
    · next c hstart =>
      have hone : lead.toNat < 0x80 ∧ c = Char.ofNat lead.toNat := by
        obtain ⟨hsmall, hs⟩ | ⟨-, -, hs⟩ | ⟨_, _, -, -, hs, -⟩ | ⟨_, _, -, -, hs, -⟩ :=
          start?_cases hstart
        · exact ⟨hsmall, Sum.inl.inj hs⟩
        all_goals cases hs
      obtain ⟨hsmall, rfl⟩ := hone
      have hvalue := toNat_ofNat_of_valid (n := lead.toNat) (by omega)
      refine ⟨_, rest, _, ?_, h⟩
      rw [encodeChar, hvalue, if_pos hsmall, UInt8.ofNat_toNat]
      rfl
    · next p hstart =>
      obtain ⟨-, hs⟩ | ⟨hlow, hhigh, hs⟩ | ⟨least, greatest, hlow, hhigh, hs, hleast, hgreatest,
        hfirst, hsurrogate⟩ | ⟨least, greatest, hlow, hhigh, hs, hleast, hgreatest, hfirst, hlast⟩ :=
          start?_cases hstart
      · exact absurd hs Sum.inr_ne_inl
      all_goals obtain rfl := Sum.inr.inj hs
      · obtain ⟨second, rest, rfl, hs, hs', index', h⟩ := decodeFrom_pending h
        dsimp only at hs hs' h
        refine ⟨_, rest, index', ?_, h⟩
        rw [encodeChar, toNat_ofNat_of_valid (by omega), if_neg (by omega), if_pos (by omega),
          ofNat_toNat_eq lead (by omega), ofNat_toNat_eq second (by omega)]
        rfl
      · obtain ⟨second, rest, rfl, hs, hs', h⟩ := decodeFrom_pending h
        obtain ⟨third, rest, rfl, ht, ht', index', h⟩ := decodeFrom_pending h
        dsimp only at hs hs' ht ht' h
        refine ⟨_, rest, index', ?_, h⟩
        rw [encodeChar, toNat_ofNat_of_valid (by omega), if_neg (by omega), if_neg (by omega),
          if_pos (by omega), ofNat_toNat_eq lead (by omega),
          ofNat_toNat_eq second (by omega), ofNat_toNat_eq third (by omega)]
        rfl
      · obtain ⟨second, rest, rfl, hs, hs', h⟩ := decodeFrom_pending h
        obtain ⟨third, rest, rfl, ht, ht', h⟩ := decodeFrom_pending h
        obtain ⟨fourth, rest, rfl, hf, hf', index', h⟩ := decodeFrom_pending h
        dsimp only at hs hs' ht ht' hf hf' h
        refine ⟨_, rest, index', ?_, h⟩
        rw [encodeChar, toNat_ofNat_of_valid (by omega), if_neg (by omega), if_neg (by omega),
          if_neg (by omega), ofNat_toNat_eq lead (by omega),
          ofNat_toNat_eq second (by omega), ofNat_toNat_eq third (by omega),
          ofNat_toNat_eq fourth (by omega)]
        rfl

theorem encode_decodeFrom (h : decodeFrom before index none octets = .ok text) :
    ∃ added, text = before.reverse ++ added ∧ encode added = octets := by
  induction hlength : octets.length using Nat.strongRecOn generalizing before index octets
    with
  | ind n ih =>
    obtain ⟨rfl, rfl⟩ | ⟨c, rest, index', rfl, hrest⟩ := decodeFrom_cases h
    · exact ⟨[], by simp, rfl⟩
    · have hshorter : rest.length < n := by
        have hsome := c.utf8Size_pos
        rw [List.length_append, length_encodeChar] at hlength
        omega
      obtain ⟨added, rfl, rfl⟩ := ih rest.length hshorter hrest rfl
      refine ⟨c :: added, ?_, rfl⟩
      rw [List.reverse_cons, List.append_assoc, List.singleton_append]

/-- Octets that are decoded are the encoding of their text and of no other. -/
theorem encode_decode (h : decode octets = .ok text) : encode text = octets := by
  obtain ⟨added, rfl, hadded⟩ := encode_decodeFrom h
  exact hadded

end Inverse

/-- A text that is decoded without a zero octet can be ended by one. -/
theorem isTerminable_of_decode {octets : Bytes} {text : List Char} (h : decode octets = .ok text)
    (hzero : (0 : UInt8) ∉ octets) : IsTerminable (String.ofList text) := by
  rw [IsTerminable, String.toList_ofList]
  intro c hc hnull
  apply hzero
  have hchar : encodeChar c = [0] := by
    rw [encodeChar, hnull]
    rfl
  rw [← encode_decode h, encode]
  exact List.mem_flatMap.mpr ⟨c, hc, by rw [hchar]; exact List.mem_singleton_self 0⟩

end BrokerWire.Utf8
