namespace BrokerWire.Escape

def hexDigit? (c : Char) : Option Nat :=
  if '0' ≤ c ∧ c ≤ '9' then some (c.toNat - 48)
  else if 'a' ≤ c ∧ c ≤ 'f' then some (c.toNat - 87)
  else if 'A' ≤ c ∧ c ≤ 'F' then some (c.toNat - 55)
  else none

def hexDigits? : (value : Nat) → List Char → Option Nat
  | value, [] => some value
  | value, c :: rest =>
    match hexDigit? c with
    | some d => hexDigits? (16 * value + d) rest
    | none => none

/-- Reads a hexadecimal number; a plus sign may take the place of its first digit. -/
def hex? : List Char → Option Nat
  | '+' :: digits => hexDigits? 0 digits
  | digits => hexDigits? 0 digits

/-- The character with a code given in hexadecimal, unless the code is that of a surrogate. -/
def scalar? (digits : List Char) : Option Char :=
  match hex? digits with
  | some n => if 0xD800 ≤ n ∧ n ≤ 0xDFFF then none else some (Char.ofNat n)
  | none => none

def letter? (c : Char) : Option Char :=
  if c = 'n' then some '\n'
  else if c = 't' then some '\t'
  else if c = 'r' then some '\r'
  else if c = '\\' ∨ c = '\x27' ∨ c = '\x22' then some c
  else none

/-- Replaces escapes by what they stand for; the gateway sends text outside of ASCII as `\xHH` and
`\uHHHH`. A backslash that begins none stays, with the character behind it. -/
def unescape : List Char → List Char
  | '\\' :: 'x' :: a :: b :: rest =>
    match scalar? [a, b] with
    | some c => c :: unescape rest
    | none => '\\' :: 'x' :: unescape (a :: b :: rest)
  | '\\' :: 'u' :: a :: b :: c :: d :: rest =>
    match scalar? [a, b, c, d] with
    | some e => e :: unescape rest
    | none => '\\' :: 'u' :: unescape (a :: b :: c :: d :: rest)
  | '\\' :: kind :: rest =>
    match letter? kind with
    | some c => c :: unescape rest
    | none => '\\' :: kind :: unescape rest
  | c :: rest => c :: unescape rest
  | [] => []

end BrokerWire.Escape
