import BrokerWire.Number.Double.Basic
import BrokerWire.Number.Integer

namespace BrokerWire

inductive DoubleFault where
  | empty
  | malformed
  deriving DecidableEq

def DoubleFault.message : DoubleFault → String
  | .empty => "cannot parse float from empty string"
  | .malformed => "invalid float literal"

namespace Double

open Number (digit?)

/-- Reads leading digits into `value` and counts them. -/
def takeDigits : (value count : Nat) → List Char → Nat × Nat × List Char
  | value, count, [] => (value, count, [])
  | value, count, c :: rest =>
    match digit? c with
    | some d => takeDigits (10 * value + d) (count + 1) rest
    | none => (value, count, c :: rest)

/-- Reads the digits of an exponent; past five digits they no longer change its effect and are
skipped. -/
def takeExponent : (value : Nat) → List Char → Nat × List Char
  | value, [] => (value, [])
  | value, c :: rest =>
    match digit? c with
    | some d => takeExponent (if value < 65536 then 10 * value + d else value) rest
    | none => (value, c :: rest)

def exponentDigits? : List Char → Option Nat
  | [] => none
  | text =>
    match takeExponent 0 text with
    | (value, []) => some value
    | _ => none

/-- Reads what may follow the digits: nothing, or an exponent mark and a signed exponent. -/
def exponent? : List Char → Option Int
  | [] => some 0
  | mark :: rest =>
    if mark = 'e' ∨ mark = 'E' then
      match rest with
      | '+' :: digits => (exponentDigits? digits).map Int.ofNat
      | '-' :: digits => (exponentDigits? digits).map fun n => -(n : Int)
      | digits => (exponentDigits? digits).map Int.ofNat
    else none

/-- Reads an unsigned decimal number: digits, the power of ten that scales them. -/
def decimal? (text : List Char) : Option (Nat × Int) :=
  let (whole, wholeCount, rest) := takeDigits 0 0 text
  let (digits, fractionCount, rest) :=
    match rest with
    | '.' :: fraction => takeDigits whole 0 fraction
    | rest => (whole, 0, rest)
  if wholeCount + fractionCount = 0 then none
  else (exponent? rest).map fun e => (digits, e - fractionCount)

/-- The lower case of an ASCII letter; every other character stays. -/
def lower (c : Char) : Char :=
  if 'A' ≤ c ∧ c ≤ 'Z' then Char.ofNat (c.toNat + 32) else c

def readMagnitude (negative : Bool) (text : List Char) : Option Double :=
  match decimal? text with
  | some (digits, exponent) => some (ofDecimal negative digits exponent)
  | none =>
    let name := text.map lower
    if name = ['i', 'n', 'f'] ∨ name = ['i', 'n', 'f', 'i', 'n', 'i', 't', 'y'] then
      some (.infinity negative)
    else if name = ['n', 'a', 'n'] then some .nan
    else none

/-- Reads a floating point text: an optional sign, then decimal digits with at most one point and an
optional exponent, or a name of infinity or NaN in any case. -/
def read (text : List Char) : Except DoubleFault Double :=
  let found :=
    match text with
    | '-' :: rest => readMagnitude true rest
    | '+' :: rest => readMagnitude false rest
    | text => readMagnitude false text
  match text, found with
  | [], _ => .error .empty
  | _, some value => .ok value
  | _, none => .error .malformed

end Double

end BrokerWire
