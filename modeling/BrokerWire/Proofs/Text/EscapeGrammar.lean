import BrokerWire.Proofs.Wire.Cursor
import BrokerWire.Wire.Value
import Mathlib.Data.Nat.Digits.Lemmas
import Mathlib.Tactic.IntervalCases

namespace BrokerWire.Escape

/-- The hexadecimal digits in the order of their values, in small letters. -/
def smallDigits : List Char :=
  ['0', '1', '2', '3', '4', '5', '6', '7', '8', '9', 'a', 'b', 'c', 'd', 'e', 'f']

/-- The hexadecimal digits in the order of their values, in capital letters. -/
def capitalDigits : List Char :=
  ['0', '1', '2', '3', '4', '5', '6', '7', '8', '9', 'A', 'B', 'C', 'D', 'E', 'F']

/-- Whether a character is the hexadecimal digit of a value. -/
def IsDigit (c : Char) (d : Nat) : Prop :=
  smallDigits[d]? = some c ∨ capitalDigits[d]? = some c

/-- Whether a group of hexadecimal digits spells a number. -/
def IsHex (group : List Char) (n : Nat) : Prop :=
  ∃ digits, List.Forall₂ IsDigit group digits ∧ n = Nat.ofDigits 16 digits.reverse

/-- Whether a group spells a number, with a plus sign in place of its first digit or without. -/
def IsSignedHex (group : List Char) (n : Nat) : Prop :=
  IsHex group n ∨ ∃ digits, group = '+' :: digits ∧ IsHex digits n

/-- The escapes of one letter, with the characters that they stand for. -/
def letters : List (Char × Char) :=
  [('n', '\n'), ('t', '\t'), ('r', '\r'), ('\\', '\\'), ('\x27', '\x27'), ('\x22', '\x22')]

/-- The letters in front of a character's code, with the number of its digits. -/
def widths : List (Char × Nat) :=
  [('x', 2), ('u', 4)]

section Grammar

variable (Group : List Char → Nat → Prop)

/-- Whether a letter and what stands behind it are the code of a character. A surrogate is the code
of none. -/
def Codes (letter : Char) (behind : List Char) (c : Char) (rest : List Char) : Prop :=
  ∃ group, (letter, group.length) ∈ widths ∧ behind = group ++ rest ∧ Group group c.toNat

/-- The first piece of a text, what it means, and the rest behind it. -/
inductive Piece : (text meaning rest : List Char) → Prop
  | copied {c : Char} {rest : List Char} (h : c ≠ '\\') : Piece (c :: rest) [c] rest
  | letter {k c : Char} {rest : List Char} (h : (k, c) ∈ letters) :
    Piece ('\\' :: k :: rest) [c] rest
  | code {k c : Char} {behind rest : List Char} (h : Codes Group k behind c rest) :
    Piece ('\\' :: k :: behind) [c] rest
  | kept {k : Char} {rest : List Char} (hletter : ∀ c, (k, c) ∉ letters)
    (hcode : ∀ c behind, ¬ Codes Group k rest c behind) :
    Piece ('\\' :: k :: rest) ['\\', k] rest
  | last : Piece ['\\'] ['\\'] []

/-- What a text means: its pieces, one after the other. -/
inductive Reads : (text meaning : List Char) → Prop
  | done : Reads [] []
  | piece {text meaning rest more : List Char} (h : Piece Group text meaning rest)
    (hrest : Reads rest more) : Reads text (meaning ++ more)

end Grammar

/-- Whether a text begins with a group of digits that has a sign, behind the letter that announces
it. -/
def IsSigned (text : List Char) : Prop :=
  ∃ k digits n rest, (k, digits.length + 1) ∈ widths ∧ IsHex digits n ∧
    text = '\\' :: k :: '+' :: (digits ++ rest)

/-- Whether a group of digits that has a sign comes up when a text is read. -/
inductive MeetsSign : List Char → Prop
  | here {text : List Char} (h : IsSigned text) : MeetsSign text
  | behind {text meaning rest : List Char} (h : Piece IsHex text meaning rest)
    (hrest : MeetsSign rest) : MeetsSign text

theorem IsDigit.lt {c : Char} {d : Nat} (h : IsDigit c d) : d < 16 := by
  obtain h | h := h <;> exact (List.getElem?_eq_some_iff.mp h).1

theorem hexDigit?_eq_some {c : Char} {d : Nat} : hexDigit? c = some d ↔ IsDigit c d := by
  constructor
  · intro h
    have hc := Char.ofNat_toNat c
    have hle (a b : Char) : a ≤ b ↔ a.toNat ≤ b.toNat := by
      rw [Char.le_def, UInt32.le_iff_toNat_le]
      rfl
    simp only [hexDigit?, hle] at h
    generalize c.toNat = n at hc h
    subst hc
    split at h
    · next hdecimal =>
      cases h
      obtain ⟨hlow, hhigh⟩ : 48 ≤ n ∧ n ≤ 57 := hdecimal
      interval_cases n <;> exact .inl rfl
    split at h
    · next hsmall =>
      cases h
      obtain ⟨hlow, hhigh⟩ : 97 ≤ n ∧ n ≤ 102 := hsmall
      interval_cases n <;> exact .inl rfl
    split at h
    · next hcapital =>
      cases h
      obtain ⟨hlow, hhigh⟩ : 65 ≤ n ∧ n ≤ 70 := hcapital
      interval_cases n <;> exact .inr rfl
    · cases h
  · intro h
    have hd : d < 16 := h.lt
    interval_cases d <;> obtain h | h := h <;> cases h <;> rfl

theorem hexDigits?_eq_some {value n : Nat} {group : List Char} :
    hexDigits? value group = some n ↔
      ∃ digits, List.Forall₂ IsDigit group digits ∧
        n = 16 ^ group.length * value + Nat.ofDigits 16 digits.reverse := by
  induction group generalizing value with
  | nil => simp [hexDigits?, eq_comm]
  | cons c rest ih =>
    rw [hexDigits?]
    cases hc : hexDigit? c with
    | none =>
      refine ⟨nofun, ?_⟩
      rintro ⟨digits, hdigits, -⟩
      obtain ⟨d, more, hd, -, rfl⟩ := List.forall₂_cons_left_iff.mp hdigits
      rw [hexDigit?_eq_some.mpr hd] at hc
      cases hc
    | some d =>
      have hvalue (more : List Nat) (hlength : rest.length = more.length) :
          16 ^ rest.length * (16 * value + d) + Nat.ofDigits 16 more.reverse =
            16 ^ (c :: rest).length * value + Nat.ofDigits 16 (d :: more).reverse := by
        rw [List.reverse_cons, Nat.ofDigits_append, Nat.ofDigits_singleton, List.length_reverse,
          List.length_cons, hlength]
        ring
      dsimp only
      rw [ih]
      constructor
      · rintro ⟨more, hmore, rfl⟩
        exact ⟨d :: more, .cons (hexDigit?_eq_some.mp hc) hmore, hvalue more hmore.length_eq⟩
      · rintro ⟨digits, hdigits, rfl⟩
        obtain ⟨e, more, he, hmore, rfl⟩ := List.forall₂_cons_left_iff.mp hdigits
        rw [hexDigit?_eq_some.mpr he] at hc
        cases hc
        exact ⟨more, hmore, (hvalue more hmore.length_eq).symm⟩

theorem isHex_iff {group : List Char} {n : Nat} :
    IsHex group n ↔ hexDigits? 0 group = some n := by
  rw [hexDigits?_eq_some, IsHex]
  simp only [Nat.mul_zero, Nat.zero_add]

theorem not_isHex_plus {digits : List Char} {n : Nat} : ¬ IsHex ('+' :: digits) n := by
  rw [isHex_iff]
  exact nofun

theorem isSignedHex_iff {group : List Char} {n : Nat} :
    IsSignedHex group n ↔ hex? group = some n := by
  unfold hex? IsSignedHex
  split
  · next digits =>
    rw [← isHex_iff]
    constructor
    · rintro (h | ⟨other, he, h⟩)
      · exact absurd h not_isHex_plus
      · cases he
        exact h
    · exact fun h => .inr ⟨digits, rfl, h⟩
  · next hplus =>
    rw [← isHex_iff]
    constructor
    · rintro (h | ⟨digits, rfl, -⟩)
      · exact h
      · exact absurd rfl (hplus digits)
    · exact .inl

/-- Whether a group spells at most one number. -/
def IsSingle (Group : List Char → Nat → Prop) : Prop :=
  ∀ group n m, Group group n → Group group m → n = m

theorem isSingle_isHex : IsSingle IsHex := by
  intro group n m hn hm
  rw [isHex_iff] at hn hm
  exact Option.some.inj (hn.symm.trans hm)

/-- A group of digits spells a number with as many digits. -/
theorem IsHex.lt {group : List Char} {n : Nat} (h : IsHex group n) : n < 16 ^ group.length := by
  obtain ⟨digits, hdigits, rfl⟩ := h
  have hlt : ∀ d ∈ digits, d < 16 := by
    induction hdigits with
    | nil => exact nofun
    | cons hd _ ih => exact List.forall_mem_cons.mpr ⟨hd.lt, ih⟩
  rw [hdigits.length_eq, ← List.length_reverse]
  exact Nat.ofDigits_lt_base_pow_length (by decide) fun d hd => hlt d (List.mem_reverse.mp hd)

theorem IsSignedHex.lt {group : List Char} {n : Nat} (h : IsSignedHex group n) :
    n < 16 ^ group.length := by
  obtain h | ⟨digits, rfl, h⟩ := h
  · exact h.lt
  · exact h.lt.trans_le (Nat.pow_le_pow_right (by decide) (Nat.le_succ _))

/-- A group of at most four digits is the code of a character unless its number is that of a
surrogate. -/
theorem scalar?_eq_some {group : List Char} (hlength : group.length ≤ 4) {c : Char} :
    scalar? group = some c ↔ IsSignedHex group c.toNat := by
  unfold scalar?
  constructor
  · intro h
    cases hread : hex? group with
    | none =>
      rw [hread] at h
      cases h
    | some n =>
      rw [hread] at h
      dsimp only at h
      have hhex := isSignedHex_iff.mpr hread
      have hn : n < 16 ^ 4 := hhex.lt.trans_le (Nat.pow_le_pow_right (by decide) hlength)
      split at h
      · cases h
      · next hsurrogate =>
        cases h
        rwa [Utf8.toNat_ofNat_of_valid (by omega)]
  · intro h
    rw [isSignedHex_iff.mp h]
    have hvalid := Utf8.toNat_cases c
    dsimp only
    rw [if_neg (by omega), Char.ofNat_toNat]

theorem letter?_eq_some {k c : Char} : letter? k = some c ↔ (k, c) ∈ letters := by
  unfold letter? letters
  constructor
  · intro h
    split at h
    · next hk => cases h; subst hk; decide
    split at h
    · next hk => cases h; subst hk; decide
    split at h
    · next hk => cases h; subst hk; decide
    split at h
    · next hk => cases h; obtain rfl | rfl | rfl := hk <;> decide
    · cases h
  · intro h
    simp only [List.mem_cons, Prod.mk.injEq, List.not_mem_nil, or_false] at h
    obtain ⟨rfl, rfl⟩ | ⟨rfl, rfl⟩ | ⟨rfl, rfl⟩ | ⟨rfl, rfl⟩ | ⟨rfl, rfl⟩ | ⟨rfl, rfl⟩ := h <;> rfl

section Pieces

variable {Group : List Char → Nat → Prop}

/-- A code takes as many characters as its letter says. -/
theorem Codes.unique (hgroup : IsSingle Group) {k c d : Char}
    {behind rest rest' : List Char} (h : Codes Group k behind c rest)
    (h' : Codes Group k behind d rest') : c = d ∧ rest = rest' := by
  obtain ⟨group, hwidth, rfl, hc⟩ := h
  obtain ⟨group', hwidth', he, hd⟩ := h'
  have hlength : group.length = group'.length := by
    simp only [widths, List.mem_cons, Prod.mk.injEq, List.not_mem_nil, or_false] at hwidth hwidth'
    obtain ⟨rfl, hw⟩ | ⟨rfl, hw⟩ := hwidth <;> obtain ⟨hk, hw'⟩ | ⟨hk, hw'⟩ := hwidth' <;>
      first | exact hw.trans hw'.symm | exact absurd hk (by decide)
  obtain ⟨rfl, rfl⟩ := List.append_inj he hlength
  exact ⟨Char.toNat_inj.mp (hgroup _ _ _ hc hd), rfl⟩

theorem letters_unique {k c d : Char} (h : (k, c) ∈ letters) (h' : (k, d) ∈ letters) : c = d := by
  rw [← letter?_eq_some] at h h'
  exact Option.some.inj (h.symm.trans h')

/-- No letter both stands for a character and announces a code. -/
theorem not_mem_letters_of_width {k : Char} {width : Nat} (h : (k, width) ∈ widths) (c : Char) :
    (k, c) ∉ letters := by
  simp only [widths, letters, List.mem_cons, Prod.mk.injEq, List.not_mem_nil, or_false] at h ⊢
  obtain ⟨rfl, -⟩ | ⟨rfl, -⟩ := h <;> simp

theorem Codes.not_mem_letters {k c : Char} {behind rest : List Char}
    (h : Codes Group k behind c rest) (d : Char) : (k, d) ∉ letters := by
  obtain ⟨group, hwidth, -, -⟩ := h
  exact not_mem_letters_of_width hwidth d

theorem width_bounds {k : Char} {width : Nat} (h : (k, width) ∈ widths) :
    0 < width ∧ width ≤ 4 := by
  simp only [widths, List.mem_cons, Prod.mk.injEq, List.not_mem_nil, or_false] at h
  omega

theorem Piece.unique (hgroup : IsSingle Group)
    {text meaning meaning' rest rest' : List Char} (h : Piece Group text meaning rest)
    (h' : Piece Group text meaning' rest') : meaning = meaning' ∧ rest = rest' := by
  cases h with
  | copied hc =>
    cases h' with
    | copied => exact ⟨rfl, rfl⟩
    | letter | code | kept | last => exact absurd rfl hc
  | letter hletter =>
    cases h' with
    | copied hc => exact absurd rfl hc
    | letter hletter' => exact ⟨by rw [letters_unique hletter hletter'], rfl⟩
    | code hcode => exact absurd hletter (hcode.not_mem_letters _)
    | kept hnone => exact absurd hletter (hnone _)
  | code hcode =>
    cases h' with
    | copied hc => exact absurd rfl hc
    | letter hletter => exact absurd hletter (hcode.not_mem_letters _)
    | code hcode' =>
      obtain ⟨rfl, hrest⟩ := hcode.unique hgroup hcode'
      exact ⟨rfl, hrest⟩
    | kept _ hnone => exact absurd hcode (hnone _ _)
  | kept hnoLetter hnoCode =>
    cases h' with
    | copied hc => exact absurd rfl hc
    | letter hletter => exact absurd hletter (hnoLetter _)
    | code hcode => exact absurd hcode (hnoCode _ _)
    | kept => exact ⟨rfl, rfl⟩
  | last =>
    cases h' with
    | copied hc => exact absurd rfl hc
    | last => exact ⟨rfl, rfl⟩

theorem Reads.unique (hgroup : IsSingle Group)
    {text meaning meaning' : List Char} (h : Reads Group text meaning)
    (h' : Reads Group text meaning') : meaning = meaning' := by
  induction h generalizing meaning' with
  | done =>
    cases h' with
    | done => rfl
    | piece hpiece => cases hpiece
  | piece hpiece hrest ih =>
    cases h' with
    | done => cases hpiece
    | piece hpiece' hrest' =>
      obtain ⟨rfl, rfl⟩ := hpiece.unique hgroup hpiece'
      rw [ih hrest']

theorem Piece.length_lt {text meaning rest : List Char} (h : Piece Group text meaning rest) :
    rest.length < text.length := by
  cases h with
  | copied | letter | kept => simp
  | code hcode =>
    obtain ⟨group, -, rfl, -⟩ := hcode
    simp only [List.length_cons, List.length_append]
    omega
  | last => simp

/-- Every text has a first piece, unless it is empty. -/
theorem exists_piece (Group : List Char → Nat → Prop) {text : List Char} (h : text ≠ []) :
    ∃ meaning rest, Piece Group text meaning rest := by
  obtain ⟨c, rest, rfl⟩ := List.exists_cons_of_ne_nil h
  by_cases hc : c = '\\'
  · subst hc
    cases rest with
    | nil => exact ⟨_, _, .last⟩
    | cons k rest =>
      by_cases hletter : ∃ c, (k, c) ∈ letters
      · obtain ⟨c, hletter⟩ := hletter
        exact ⟨_, _, .letter hletter⟩
      by_cases hcode : ∃ c behind, Codes Group k rest c behind
      · obtain ⟨c, behind, hcode⟩ := hcode
        exact ⟨_, _, .code hcode⟩
      exact ⟨_, _, .kept (fun c hm => hletter ⟨c, hm⟩) fun c behind hm => hcode ⟨c, behind, hm⟩⟩
  · exact ⟨_, _, .copied hc⟩

theorem exists_reads (Group : List Char → Nat → Prop) (text : List Char) :
    ∃ meaning, Reads Group text meaning := by
  by_cases h : text = []
  · subst h
    exact ⟨_, .done⟩
  · obtain ⟨meaning, rest, hpiece⟩ := exists_piece Group h
    obtain ⟨more, hrest⟩ := exists_reads Group rest
    exact ⟨_, .piece hpiece hrest⟩
termination_by text.length
decreasing_by exact hpiece.length_lt

end Pieces

theorem unescape_copied {c : Char} (h : c ≠ '\\') (rest : List Char) :
    unescape (c :: rest) = c :: unescape rest := by
  rw [unescape] <;> intros <;> contradiction

theorem unescape_letter {k c : Char} (h : (k, c) ∈ letters) (rest : List Char) :
    unescape ('\\' :: k :: rest) = c :: unescape rest := by
  have hx : k ≠ 'x' := by
    rintro rfl
    revert h
    simp [letters]
  have hu : k ≠ 'u' := by
    rintro rfl
    revert h
    simp [letters]
  rw [unescape, letter?_eq_some.mpr h] <;> intros <;> contradiction

/-- A code is taken as far as its letter says. -/
theorem unescape_code {k c : Char} {behind rest : List Char}
    (h : Codes IsSignedHex k behind c rest) :
    unescape ('\\' :: k :: behind) = c :: unescape rest := by
  obtain ⟨group, hwidth, rfl, hcode⟩ := h
  have hscalar : scalar? group = some c := (scalar?_eq_some (width_bounds hwidth).2).mpr hcode
  simp only [widths, List.mem_cons, Prod.mk.injEq, List.not_mem_nil, or_false] at hwidth
  obtain ⟨rfl, hlength⟩ | ⟨rfl, hlength⟩ := hwidth
  · obtain ⟨a, b, rfl⟩ := List.length_eq_two.mp hlength
    simp only [List.cons_append, List.nil_append, unescape, hscalar]
  · obtain ⟨a, b, d, e, rfl⟩ := List.length_eq_four.mp hlength
    simp only [List.cons_append, List.nil_append, unescape, hscalar]

theorem unescape_kept {k : Char} {rest : List Char} (hletter : ∀ c, (k, c) ∉ letters)
    (hcode : ∀ c behind, ¬ Codes IsSignedHex k rest c behind) :
    unescape ('\\' :: k :: rest) = '\\' :: k :: unescape rest := by
  have hscalar (group behind : List Char) (hwidth : (k, group.length) ∈ widths)
      (hrest : rest = group ++ behind) : scalar? group = none := by
    have hle := (width_bounds hwidth).2
    rw [Option.eq_none_iff_forall_ne_some]
    intro c hc
    exact hcode c behind ⟨group, hwidth, hrest, (scalar?_eq_some hle).mp hc⟩
  have hnone : letter? k = none := by
    rw [Option.eq_none_iff_forall_ne_some]
    exact fun c hc => hletter c (letter?_eq_some.mp hc)
  by_cases hx : ∃ a b behind, k = 'x' ∧ rest = a :: b :: behind
  · obtain ⟨a, b, behind, rfl, rfl⟩ := hx
    rw [unescape, hscalar [a, b] behind (by simp [widths]) rfl]
  by_cases hu : ∃ a b c d behind, k = 'u' ∧ rest = a :: b :: c :: d :: behind
  · obtain ⟨a, b, c, d, behind, rfl, rfl⟩ := hu
    rw [unescape, hscalar [a, b, c, d] behind (by simp [widths]) rfl]
  rw [unescape, hnone]
  · exact fun a b behind hk hr => hx ⟨a, b, behind, hk, hr⟩
  · exact fun a b c d behind hk hr => hu ⟨a, b, c, d, behind, hk, hr⟩

/-- Unescaping goes piece by piece. -/
theorem unescape_piece {text meaning rest : List Char} (h : Piece IsSignedHex text meaning rest) :
    unescape text = meaning ++ unescape rest := by
  cases h with
  | copied hc => exact unescape_copied hc rest
  | letter hletter => exact unescape_letter hletter rest
  | code hcode => exact unescape_code hcode
  | kept hletter hcode => exact unescape_kept hletter hcode
  | last => rfl

theorem unescape_reads {text meaning : List Char} (h : Reads IsSignedHex text meaning) :
    unescape text = meaning := by
  induction h with
  | done => rfl
  | piece hpiece _ ih => rw [unescape_piece hpiece, ih]

/-- A text means what unescaping makes of it, if groups of digits may have a sign. -/
theorem reads_iff {text meaning : List Char} :
    Reads IsSignedHex text meaning ↔ unescape text = meaning := by
  constructor
  · exact unescape_reads
  · rintro rfl
    obtain ⟨meaning, h⟩ := exists_reads IsSignedHex text
    rwa [unescape_reads h]

/-- Where no group has a sign, both grammars take the same piece. -/
theorem Piece.signed {text meaning rest : List Char} (h : Piece IsHex text meaning rest)
    (hsigned : ¬ IsSigned text) : Piece IsSignedHex text meaning rest := by
  cases h with
  | copied hc => exact .copied hc
  | letter hletter => exact .letter hletter
  | code hcode =>
    obtain ⟨group, hwidth, rfl, hhex⟩ := hcode
    exact .code ⟨group, hwidth, rfl, .inl hhex⟩
  | kept hletter hcode =>
    refine .kept hletter fun c behind hmore => ?_
    obtain ⟨group, hwidth, rfl, hhex | ⟨digits, rfl, hhex⟩⟩ := hmore
    · exact hcode c behind ⟨group, hwidth, rfl, hhex⟩
    · exact hsigned ⟨_, digits, _, behind, hwidth, hhex, rfl⟩
  | last => exact .last

theorem isHex_ne_backslash {digits : List Char} {n : Nat} (h : IsHex digits n) :
    ∀ c ∈ digits, c ≠ '\\' := by
  obtain ⟨values, hvalues, -⟩ := h
  induction hvalues with
  | nil => exact nofun
  | cons hc _ ih =>
    refine List.forall_mem_cons.mpr ⟨?_, ih⟩
    rintro rfl
    have hread := hexDigit?_eq_some.mpr hc
    cases hread

theorem unescape_plain {front : List Char} (h : ∀ c ∈ front, c ≠ '\\') (rest : List Char) :
    unescape (front ++ rest) = front ++ unescape rest := by
  induction front with
  | nil => rfl
  | cons c front ih =>
    rw [List.cons_append, unescape_copied (h c List.mem_cons_self),
      ih fun d hd => h d (List.mem_cons_of_mem c hd), List.cons_append]

/-- With plain digits, the letter in front of a sign is kept. -/
theorem piece_signed {k : Char} {digits rest : List Char}
    (hwidth : (k, digits.length + 1) ∈ widths) :
    Piece IsHex ('\\' :: k :: '+' :: (digits ++ rest)) ['\\', k] ('+' :: (digits ++ rest)) := by
  refine .kept (not_mem_letters_of_width hwidth) ?_
  rintro c other ⟨group, hwidth', he, hcode⟩
  obtain ⟨sign, more, rfl⟩ := List.exists_cons_of_length_pos (width_bounds hwidth').1
  rw [List.cons_append, List.cons.injEq] at he
  obtain ⟨rfl, -⟩ := he
  exact not_isHex_plus hcode

/-- Otherwise the letter, the sign and the digits become one character. -/
theorem unescape_signed {k : Char} {digits rest : List Char} {n : Nat}
    (hwidth : (k, digits.length + 1) ∈ widths) (hhex : IsHex digits n) :
    unescape ('\\' :: k :: '+' :: (digits ++ rest)) = Char.ofNat n :: unescape rest := by
  have hn : n < 16 ^ 3 := by
    have hle := (width_bounds hwidth).2
    exact hhex.lt.trans_le (Nat.pow_le_pow_right (by decide) (by omega))
  have hvalue := Utf8.toNat_ofNat_of_valid (n := n) (by omega)
  refine unescape_code ⟨'+' :: digits, hwidth, rfl, .inr ⟨digits, rfl, ?_⟩⟩
  rwa [hvalue]

/-- The two grammars part at the first group with a sign, and there unescaping loses characters
that it never makes up for: it makes no text longer than plain digits do. -/
theorem unescape_cases {text meaning : List Char} (h : Reads IsHex text meaning) :
    MeetsSign text ∧ (unescape text).length < meaning.length ∨
      ¬ MeetsSign text ∧ unescape text = meaning := by
  induction h with
  | done =>
    refine .inr ⟨?_, rfl⟩
    rintro (⟨⟨_, _, _, _, _, _, he⟩⟩ | hpiece)
    · cases he
    · cases hpiece
  | @piece text meaning rest more hpiece _ ih =>
    by_cases hsigned : IsSigned text
    · refine .inl ⟨.here hsigned, ?_⟩
      obtain ⟨k, digits, n, behind, hwidth, hhex, rfl⟩ := hsigned
      obtain ⟨rfl, rfl⟩ := hpiece.unique isSingle_isHex (piece_signed hwidth)
      have hplain : ∀ c ∈ '+' :: digits, c ≠ '\\' :=
        List.forall_mem_cons.mpr ⟨by decide, isHex_ne_backslash hhex⟩
      have hle : (unescape ('+' :: (digits ++ behind))).length ≤ more.length := by
        obtain ⟨-, hlt⟩ | ⟨-, he⟩ := ih
        · exact hlt.le
        · rw [he]
      rw [← List.cons_append, unescape_plain hplain] at hle
      rw [unescape_signed hwidth hhex]
      simp only [List.length_append, List.length_cons, List.length_nil] at hle ⊢
      omega
    · have hbehind : MeetsSign text ↔ MeetsSign rest := by
        constructor
        · rintro (hhere | ⟨hpiece', hrest⟩)
          · exact absurd hhere hsigned
          · obtain ⟨-, rfl⟩ := hpiece.unique isSingle_isHex hpiece'
            exact hrest
        · exact .behind hpiece
      rw [hbehind, unescape_piece (hpiece.signed hsigned), List.length_append, List.length_append]
      obtain ⟨hmeets, hlt⟩ | ⟨hmeets, rfl⟩ := ih
      · exact .inl ⟨hmeets, by omega⟩
      · exact .inr ⟨hmeets, rfl⟩

open FieldReader (unescaped)
open Message (fieldOctets)

/-- A field is read by the grammar whose groups of digits may have a sign, to the one meaning that
it gives to the field's text. With plain digits every text has one meaning as well, and the two are
the same just if no group with a sign comes up. -/
theorem unescaped_meaning (text : String) (rest : Bytes) (h : Utf8.IsTerminable text) :
    ∃ reference, (∀ other, Reads IsHex text.toList other ↔ other = reference) ∧
      ∃ value, unescaped.run (fieldOctets text ++ rest) = (.ok (String.ofList value), rest) ∧
        (∀ other, Reads IsSignedHex text.toList other ↔ other = value) ∧
        (value = reference ↔ ¬ MeetsSign text.toList) := by
  obtain ⟨reference, href⟩ := exists_reads IsHex text.toList
  refine ⟨reference, ?_, unescape text.toList, ?_, ?_, ?_⟩
  · intro other
    exact ⟨fun hother => hother.unique isSingle_isHex href, fun he => he ▸ href⟩
  · exact FieldReader.run_field h _ rest
  · intro other
    rw [reads_iff, eq_comm]
  · obtain ⟨hmeets, hlt⟩ | ⟨hmeets, he⟩ := unescape_cases href
    · refine ⟨fun he => ?_, fun hnot => absurd hmeets hnot⟩
      rw [he] at hlt
      exact absurd hlt (Nat.lt_irrefl _)
    · exact ⟨fun _ => hmeets, fun _ => he⟩

/-- Four digits, and then a group that is too short. -/
theorem unescaped_meaning_accent :
    Utf8.IsTerminable "\\u00e9\\x4" ∧
      unescaped.run (fieldOctets "\\u00e9\\x4" ++ [7]) = (.ok "\u00e9\\x4", [7]) ∧
      Reads IsHex "\\u00e9\\x4".toList "\u00e9\\x4".toList ∧
      ¬ MeetsSign "\\u00e9\\x4".toList := by
  have hterminable : Utf8.IsTerminable "\\u00e9\\x4" := by decide
  have hcode : Codes IsHex 'u' ['0', '0', 'e', '9', '\\', 'x', '4'] '\u00e9' ['\\', 'x', '4'] :=
    ⟨['0', '0', 'e', '9'], by decide, rfl, isHex_iff.mpr rfl⟩
  have hwidth : ('x', 2) ∈ widths := by decide
  have hshort (c : Char) (behind : List Char) : ¬ Codes IsHex 'x' ['4'] c behind := by
    rintro ⟨group, hwidth, he, -⟩
    have hlength := congrArg List.length he
    simp [widths] at hwidth hlength
    omega
  have hreads : Reads IsHex "\\u00e9\\x4".toList "\u00e9\\x4".toList :=
    .piece (.code hcode) <| .piece (.kept (not_mem_letters_of_width hwidth) hshort) <|
      .piece (.copied (by decide)) .done
  have hrun : unescaped.run (fieldOctets "\\u00e9\\x4" ++ [7]) = (.ok "\u00e9\\x4", [7]) := by rfl
  obtain ⟨reference, href, value, hvalue, -, hiff⟩ :=
    unescaped_meaning "\\u00e9\\x4" [7] hterminable
  rw [hrun, Prod.mk.injEq, Except.ok.injEq] at hvalue
  have he : value = reference := by
    rw [← (href _).mp hreads, hvalue.1, String.toList_ofList]
  exact ⟨hterminable, hrun, hreads, hiff.mp he⟩

/-- A sign and one digit behind the letter of two digits: the grammar with plain digits keeps all
four characters, and one character comes out. -/
theorem unescaped_takes_sign :
    Reads IsHex "\\x+5".toList "\\x+5".toList ∧
      unescaped.run (fieldOctets "\\x+5") = (.ok "\x05", []) ∧
      ¬ Reads IsHex "\\x+5".toList "\x05".toList := by
  have hreads : Reads IsHex "\\x+5".toList "\\x+5".toList :=
    .piece (piece_signed (show ('x', ['5'].length + 1) ∈ widths by decide)) <|
      .piece (.copied (by decide)) <| .piece (.copied (by decide)) .done
  refine ⟨hreads, by rfl, fun hother => ?_⟩
  have he := hother.unique isSingle_isHex hreads
  revert he
  decide

end BrokerWire.Escape
