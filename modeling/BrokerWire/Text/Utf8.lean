namespace BrokerWire

abbrev Bytes := List UInt8

namespace Utf8

/-- How octets fail to be UTF-8: a sequence that is cut off by the end, or `length` octets that no
character starts with. The index counts octets before the bad sequence. -/
inductive Fault where
  | incomplete (index : Nat)
  | invalid (length : Nat) (index : Nat)
  deriving DecidableEq

def Fault.message : Fault → String
  | .incomplete index => "incomplete utf-8 byte sequence from index " ++ toString index
  | .invalid length index =>
    "invalid utf-8 sequence of " ++ toString length ++ " bytes from index " ++ toString index

/-- The octets of one character. -/
def encodeChar (c : Char) : Bytes :=
  let n := c.toNat
  if n < 0x80 then [UInt8.ofNat n]
  else if n < 0x800 then [UInt8.ofNat (0xC0 + n / 64), UInt8.ofNat (0x80 + n % 64)]
  else if n < 0x10000 then
    [UInt8.ofNat (0xE0 + n / 4096), UInt8.ofNat (0x80 + n / 64 % 64), UInt8.ofNat (0x80 + n % 64)]
  else
    [UInt8.ofNat (0xF0 + n / 262144), UInt8.ofNat (0x80 + n / 4096 % 64),
      UInt8.ofNat (0x80 + n / 64 % 64), UInt8.ofNat (0x80 + n % 64)]

def encode (text : List Char) : Bytes :=
  text.flatMap encodeChar

theorem utf8Size_eq (c : Char) : c.utf8Size =
    if c.toNat < 128 then 1 else if c.toNat < 2048 then 2 else if c.toNat < 65536 then 3
    else 4 := by
  have h (n m : UInt32) (e : m.toNat + 1 = n.toNat) : (c.val ≤ m) = (c.toNat < n.toNat) := by
    rw [UInt32.le_iff_toNat_le, ← e]
    exact propext Nat.lt_succ_iff.symm
  have h1 := h 128 (UInt32.ofNatLT 127 (by decide)) (by decide)
  have h2 := h 2048 (UInt32.ofNatLT 2047 (by decide)) (by decide)
  have h3 := h 65536 (UInt32.ofNatLT 65535 (by decide)) (by decide)
  unfold Char.utf8Size
  simp only [h1, h2, h3]
  rfl

theorem length_encodeChar (c : Char) : (encodeChar c).length = c.utf8Size := by
  rw [utf8Size_eq]
  unfold encodeChar
  simp only [apply_ite List.length, List.length_cons, List.length_nil]

theorem length_encode (text : List Char) :
    (encode text).length = (String.ofList text).utf8ByteSize := by
  have h : (String.ofList text).toByteArray = text.utf8Encode := rfl
  rw [← String.size_toByteArray, h, List.utf8Encode, List.size_toByteArray]
  unfold encode
  rw [List.length_flatMap, List.length_flatMap]
  simp [length_encodeChar]

/-- A character begun by its lead octet: the bits so far, how many octets are missing and how many
have been seen, and the range of the next one. -/
structure Pending where
  bits : Nat
  missing : Nat
  seen : Nat
  least : Nat
  greatest : Nat

/-- What a lead octet starts: a character of its own, a longer sequence, or nothing. The range of
the second octet rules out overlong forms, surrogates and values past the last character. -/
def start? (lead : UInt8) : Option (Char ⊕ Pending) :=
  let n := lead.toNat
  if n < 0x80 then some (.inl (Char.ofNat n))
  else if n < 0xC2 then none
  else if n < 0xE0 then some (.inr ⟨n - 0xC0, 1, 1, 0x80, 0xBF⟩)
  else if n = 0xE0 then some (.inr ⟨0, 2, 1, 0xA0, 0xBF⟩)
  else if n = 0xED then some (.inr ⟨13, 2, 1, 0x80, 0x9F⟩)
  else if n < 0xF0 then some (.inr ⟨n - 0xE0, 2, 1, 0x80, 0xBF⟩)
  else if n = 0xF0 then some (.inr ⟨0, 3, 1, 0x90, 0xBF⟩)
  else if n < 0xF4 then some (.inr ⟨n - 0xF0, 3, 1, 0x80, 0xBF⟩)
  else if n = 0xF4 then some (.inr ⟨4, 3, 1, 0x80, 0x8F⟩)
  else none

/-- Decodes octets onto the characters before them, which are held last first. The index is that of
the next character, or of the one that is pending. -/
def decodeFrom (before : List Char) (index : Nat) :
    Option Pending → Bytes → Except Fault (List Char)
  | none, [] => .ok before.reverse
  | some _, [] => .error (.incomplete index)
  | none, lead :: rest =>
    match start? lead with
    | none => .error (.invalid 1 index)
    | some (.inl c) => decodeFrom (c :: before) (index + 1) none rest
    | some (.inr pending) => decodeFrom before index (some pending) rest
  | some pending, octet :: rest =>
    if octet.toNat < pending.least ∨ pending.greatest < octet.toNat then
      .error (.invalid pending.seen index)
    else
      let bits := pending.bits * 64 + (octet.toNat - 0x80)
      if pending.missing = 1 then
        decodeFrom (Char.ofNat bits :: before) (index + pending.seen + 1) none rest
      else
        decodeFrom before index
          (some ⟨bits, pending.missing - 1, pending.seen + 1, 0x80, 0xBF⟩) rest

def decode (octets : Bytes) : Except Fault (List Char) :=
  decodeFrom [] 0 none octets

end Utf8

end BrokerWire
