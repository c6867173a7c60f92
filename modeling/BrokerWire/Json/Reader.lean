import BrokerWire.Json.Basic
import BrokerWire.Number.Integer
import BrokerWire.Number.Double.Reader
import BrokerWire.Number.Double.Stepwise

namespace BrokerWire.Json

def skipBlanks (text : List Char) : List Char :=
  text.dropWhile fun c => c = ' ' || c = '\n' || c = '\r' || c = '\t'

def hexValue? (c : Char) : Option Nat :=
  if '0' ≤ c ∧ c ≤ '9' then some (c.toNat - 48)
  else if 'a' ≤ c ∧ c ≤ 'f' then some (c.toNat - 87)
  else if 'A' ≤ c ∧ c ≤ 'F' then some (c.toNat - 55)
  else none

def hex4? (a b c d : Char) : Option Nat := do
  return (((← hexValue? a) * 16 + (← hexValue? b)) * 16 + (← hexValue? c)) * 16 + (← hexValue? d)

/-- The character that a letter behind a backslash stands for. -/
def escaped? (c : Char) : Option Char :=
  if c = 'b' then some (Char.ofNat 8)
  else if c = 'f' then some (Char.ofNat 12)
  else if c = 'n' then some '\n'
  else if c = 'r' then some '\r'
  else if c = 't' then some '\t'
  else if c = '\\' ∨ c = '/' ∨ c.toNat = 0x22 then some c
  else none

/-- Reads what follows an opening quote, onto the characters before it, which are held last first.
Characters past the first plane are written as two units. -/
def readQuoted : (before : List Char) → List Char → Option (String × List Char)
  | _, [] => none
  | before, '\\' :: 'u' :: a :: b :: c :: d :: rest =>
    match hex4? a b c d with
    | none => none
    | some unit =>
      if 0xD800 ≤ unit ∧ unit < 0xDC00 then
        match rest with
        | '\\' :: 'u' :: e :: f :: g :: h :: rest =>
          match hex4? e f g h with
          | none => none
          | some low =>
            if 0xDC00 ≤ low ∧ low < 0xE000 then
              let n := 0x10000 + (unit - 0xD800) * 0x400 + (low - 0xDC00)
              readQuoted (Char.ofNat n :: before) rest
            else none
        | _ => none
      else if 0xDC00 ≤ unit ∧ unit < 0xE000 then none
      else readQuoted (Char.ofNat unit :: before) rest
  | before, '\\' :: c :: rest =>
    match escaped? c with
    | none => none
    | some c => readQuoted (c :: before) rest
  | before, c :: rest =>
    if c.toNat = 0x22 then some (String.ofList before.reverse, rest)
    else if c.toNat < 0x20 then none
    else readQuoted (c :: before) rest

def isNumeric (c : Char) : Bool :=
  c.isDigit || c = '-' || c = '+' || c = '.' || c = 'e' || c = 'E'

/-- Whether a text is the whole part of a number: no zero leads further digits. -/
def isWhole : List Char → Bool
  | [] => false
  | '0' :: rest => rest.isEmpty
  | digits => digits.all Char.isDigit

/-- Whether a text is a fraction and an exponent, either of which may be missing. -/
def isTail (text : List Char) : Bool :=
  let (fractionFits, rest) :=
    match text with
    | '.' :: rest => ((rest.head?.map Char.isDigit).getD false, rest.dropWhile Char.isDigit)
    | rest => (true, rest)
  fractionFits &&
    match rest with
    | [] => true
    | mark :: rest =>
      let digits :=
        match rest with
        | '+' :: digits => digits
        | '-' :: digits => digits
        | digits => digits
      (mark = 'e' || mark = 'E') && !digits.isEmpty && digits.all Char.isDigit

def isUnsigned (text : List Char) : Bool :=
  isWhole (text.takeWhile Char.isDigit) && isTail (text.dropWhile Char.isDigit)

/-- Takes leading digits onto `value`, up to the first one that does not fit into 64 bits, and
counts them. -/
def takeFitting : (value count : Nat) → List Char → Nat × Nat
  | value, count, [] => (value, count)
  | value, count, c :: rest =>
    match Number.digit? c with
    | some d =>
      if 10 * value + d < Nat.pow 2 64 then takeFitting (10 * value + d) (count + 1) rest
      else (value, count)
    | none => (value, count)

/-- The digits of an unsigned number that count, and the power of ten that scales them. A whole
digit that is left out raises the power, a fractional one that is taken lowers it. -/
def scaledDigits? (text : List Char) : Option (Nat × Int) :=
  let whole := text.takeWhile Char.isDigit
  let (fraction, tail) :=
    match text.dropWhile Char.isDigit with
    | '.' :: rest => (rest.takeWhile Char.isDigit, rest.dropWhile Char.isDigit)
    | rest => ([], rest)
  let (digits, wholeCount) := takeFitting 0 0 whole
  let (digits, fractionCount) := takeFitting digits 0 fraction
  (Double.exponent? tail).map fun exponent =>
    (digits, exponent + whole.length - wholeCount - fractionCount)

def readFloating (negative : Bool) (text : List Char) : Option Json :=
  (scaledDigits? text).bind fun (digits, exponent) =>
    (Double.stepwise? negative digits exponent).map .double

/-- Reads a number. One without fraction and exponent is whole if it fits into 64 bits, signed or
not; every other number is floating point, and so is negative zero. -/
def readNumber (text : List Char) : Option Json :=
  let unsigned :=
    match text with
    | '-' :: rest => rest
    | text => text
  let negative := decide (text ≠ unsigned)
  if !isUnsigned unsigned then none
  else
    match Number.readInteger (Number.negatives 64) (Nat.pow 2 64 - 1) text with
    | .ok n => if negative ∧ n = 0 then readFloating negative unsigned else some (.integer n)
    | .error _ => readFloating negative unsigned

mutual

/-- Reads a value and answers what is left behind it. The fuel is a bound on the text's length. -/
def readValue : (fuel : Nat) → List Char → Option (Json × List Char)
  | 0, _ => none
  | fuel + 1, text =>
    match skipBlanks text with
    | 'n' :: 'u' :: 'l' :: 'l' :: rest => some (.null, rest)
    | 't' :: 'r' :: 'u' :: 'e' :: rest => some (.bool true, rest)
    | 'f' :: 'a' :: 'l' :: 's' :: 'e' :: rest => some (.bool false, rest)
    | '[' :: rest =>
      match skipBlanks rest with
      | ']' :: rest => some (.array [], rest)
      | rest => readItems fuel [] rest
    | c :: rest =>
      if c.toNat = 0x22 then (readQuoted [] rest).map fun (s, rest) => (.string s, rest)
      else if c.toNat = 0x7B then
        match skipBlanks rest with
        | [] => none
        | d :: after =>
          if d.toNat = 0x7D then some (.object [], after) else readMembers fuel [] (d :: after)
      else
        let number := (c :: rest).takeWhile isNumeric
        (readNumber number).map fun json => (json, (c :: rest).dropWhile isNumeric)
    | [] => none

def readItems : (fuel : Nat) → (before : List Json) → List Char → Option (Json × List Char)
  | 0, _, _ => none
  | fuel + 1, before, text =>
    match readValue fuel text with
    | none => none
    | some (json, rest) =>
      match skipBlanks rest with
      | ',' :: rest => readItems fuel (json :: before) rest
      | ']' :: rest => some (.array (json :: before).reverse, rest)
      | _ => none

def readMembers : (fuel : Nat) → (before : List (String × Json)) → List Char →
    Option (Json × List Char)
  | 0, _, _ => none
  | fuel + 1, before, text =>
    match skipBlanks text with
    | [] => none
    | c :: rest =>
      if c.toNat ≠ 0x22 then none
      else
        match readQuoted [] rest with
        | none => none
        | some (name, rest) =>
          match skipBlanks rest with
          | ':' :: rest =>
            match readValue fuel rest with
            | none => none
            | some (json, rest) =>
              let members := insert before name json
              match skipBlanks rest with
              | ',' :: rest => readMembers fuel members rest
              | d :: rest => if d.toNat = 0x7D then some (.object members, rest) else none
              | [] => none
          | _ => none

end

def read (text : String) : Option Json :=
  let chars := text.toList
  match readValue (chars.length + 1) chars with
  | some (json, rest) => if (skipBlanks rest).isEmpty then some json else none
  | none => none

end BrokerWire.Json
