import BrokerWire.Number.Decimal.Basic

namespace BrokerWire

inductive DecimalFault where
  | empty
  | noDigits
  | unknownCharacter
  | twoPoints
  | leadingSeparator
  | tooManyDigits
  | roundingOverflow
  | exponent
  | scale (places : Nat)
  | tooLarge
  deriving DecidableEq

def DecimalFault.message : DecimalFault → String
  | .empty => "Invalid decimal: empty"
  | .noDigits => "Invalid decimal: no digits found"
  | .unknownCharacter => "Invalid decimal: unknown character"
  | .twoPoints => "Invalid decimal: two decimal points"
  | .leadingSeparator => "Invalid decimal: must start lead with a number"
  | .tooManyDigits => "Invalid decimal: overflow from too many digits"
  | .roundingOverflow => "Invalid decimal: overflow from mantissa after rounding"
  | .exponent => "Failed to parse"
  | .scale places =>
    "Scale exceeds the maximum precision allowed: " ++ toString places ++ " > 28"
  | .tooLarge => "Number exceeds maximum value that can be represented."

namespace Decimal

open Number (digit? readNatural)

def strayCharacter (c : Char) : DecimalFault :=
  if c = '.' then .twoPoints else if c = '_' then .leadingSeparator else .unknownCharacter

/-- Checks what follows the rounding digit: digits and separators, which change nothing. -/
def checkTail : List Char → Except DecimalFault Unit
  | [] => .ok ()
  | c :: rest =>
    if c = '_' ∨ (digit? c).isSome then checkTail rest else .error (strayCharacter c)

/-- Ends a fraction before its first surplus digit `d`. A coefficient that rounding carries over the
limit gives up its last fractional digit, if it has one. -/
def roundUp (coefficient scale d : Nat) : Except DecimalFault (Nat × Nat) :=
  if d < 5 then .ok (coefficient, scale)
  else if coefficient + 1 < limit then .ok (coefficient + 1, scale)
  else if scale = 0 then .error .roundingOverflow
  else .ok ((coefficient + 5) / 10, scale - 1)

/-- Rounds at the digit `d` behind the last one that fits, and then checks the rest. -/
def finish (coefficient scale d : Nat) (rest : List Char) : Except DecimalFault (Nat × Nat) := do
  let rounded ← roundUp coefficient scale d
  checkTail rest
  .ok rounded

/-- Coefficients below it take one more digit within 64 bits, with an octet to spare. -/
def shortLimit : Nat := Nat.pow 2 64 / 10 - 255

/-- Where the reading of a number stands: the digits so far, how many of them are fractional,
whether the point and a first digit have been seen. -/
structure Progress where
  coefficient : Nat
  scale : Nat
  point : Bool
  started : Bool

def Progress.isFull (p : Progress) : Bool :=
  p.point && decide (maxScale ≤ p.scale)

/-- Whether a separator behind the last fractional digit counts as a zero. It does if the digits
before the last one make a short coefficient; otherwise it is skipped like all others. -/
def Progress.endsAtSeparator (p : Progress) : Bool :=
  p.isFull && decide (p.coefficient / 10 < shortLimit)

def readDigits : Progress → List Char → Except DecimalFault (Nat × Nat)
  | p, [] => if p.started then .ok (p.coefficient, p.scale) else .error .noDigits
  | p, c :: rest =>
    match digit? c with
    | some d =>
      if !p.isFull ∧ 10 * p.coefficient + d < limit then
        readDigits
          { p with
            coefficient := 10 * p.coefficient + d
            scale := if p.point then p.scale + 1 else 0
            started := true }
          rest
      else if p.point then finish p.coefficient p.scale d rest
      else .error .tooManyDigits
    | none =>
      if c = '.' ∧ p.point = false then readDigits { p with point := true } rest
      else if c = '_' ∧ p.started then
        if p.endsAtSeparator then finish p.coefficient p.scale 0 rest else readDigits p rest
      else .error (strayCharacter c)

def Progress.start : Progress := ⟨0, 0, false, false⟩

/-- Reads a sign and a magnitude; the coefficient carries the sign. -/
def readSigned : List Char → Except DecimalFault (Int × Nat)
  | [] => .error .empty
  | '-' :: rest => (readDigits .start rest).map fun r => (-(r.1 : Int), r.2)
  | '+' :: rest => (readDigits .start rest).map fun r => ((r.1 : Int), r.2)
  | text => (readDigits .start text).map fun r => ((r.1 : Int), r.2)

def ofParts (parts : Int × Nat) : Except DecimalFault Decimal :=
  match of? parts.1 parts.2 with
  | some d => .ok d
  | none => .error .tooLarge

def readPlain (text : List Char) : Except DecimalFault Decimal := do
  ofParts (← readSigned text)

def isMark (c : Char) : Bool := c = 'e' || c = 'E'

/-- Moves the point of a number left by `n` places. -/
def scaleDown (parts : Int × Nat) (n : Nat) : Except DecimalFault Decimal :=
  if maxScale < n then .error (.scale n)
  else if maxScale < parts.2 + n then .error (.scale (parts.2 + n))
  else ofParts (parts.1, parts.2 + n)

/-- Moves the point of a number right by `n` places. A number that runs out of fractional digits
becomes whole. -/
def scaleUp (parts : Int × Nat) (n : Nat) : Except DecimalFault Decimal :=
  if n ≤ parts.2 then ofParts (parts.1, parts.2 - n)
  else if maxScale < n then .error (.scale n)
  else ofParts (parts.1 * Nat.pow 10 (n - parts.2), 0)

/-- Reads an exponent, an unsigned 32-bit number that a minus sign may lead. -/
def readExponent (text : List Char) : Except DecimalFault Nat :=
  match readNatural (Nat.pow 2 32 - 1) text with
  | .ok n => .ok n
  | .error _ => .error .exponent

def readScientific (text : List Char) : Except DecimalFault Decimal := do
  let parts ← readSigned (text.takeWhile (!isMark ·))
  match (text.dropWhile (!isMark ·)).drop 1 with
  | '-' :: digits => scaleDown parts (← readExponent digits)
  | digits => scaleUp parts (← readExponent digits)

/-- Reads a decimal, in scientific notation if it has an exponent mark. Fractional digits that no
longer fit are rounded away at the first of them, five and up away from zero. An underscore may
separate digits; where the rounding is decided, it may count as a zero. -/
def read (text : List Char) : Except DecimalFault Decimal :=
  if text.any isMark then readScientific text else readPlain text

end Decimal

end BrokerWire
