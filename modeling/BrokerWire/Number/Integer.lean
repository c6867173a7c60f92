namespace BrokerWire.Number

/-- Why a text is not an integer of the wanted range. -/
inductive IntegerFault where
  | empty
  | notADigit
  | tooLarge
  | tooSmall
  deriving DecidableEq

def IntegerFault.message : IntegerFault → String
  | .empty => "cannot parse integer from empty string"
  | .notADigit => "invalid digit found in string"
  | .tooLarge => "number too large to fit in target type"
  | .tooSmall => "number too small to fit in target type"

def digit? (c : Char) : Option Nat :=
  if c.isDigit then some (c.toNat - 48) else none

/-- Reads decimal digits into `value`. The first fault from the left is reported: a character that
is no digit, or the digit that carries the value over `limit`. -/
def readMagnitude (limit : Nat) (overflow : IntegerFault) :
    (value : Nat) → List Char → Except IntegerFault Nat
  | value, [] => .ok value
  | value, c :: rest =>
    match digit? c with
    | none => .error .notADigit
    | some d =>
      if limit < 10 * value + d then .error overflow
      else readMagnitude limit overflow (10 * value + d) rest

def readDigits (limit : Nat) (overflow : IntegerFault) : List Char → Except IntegerFault Nat
  | [] => .error .notADigit
  | digits => readMagnitude limit overflow 0 digits

/-- Reads an integer of `-below .. above`: an optional sign, then decimal digits. -/
def readInteger (below above : Nat) : List Char → Except IntegerFault Int
  | [] => .error .empty
  | '+' :: digits => (readDigits above .tooLarge digits).map Int.ofNat
  | '-' :: digits => (readDigits below .tooSmall digits).map fun n => -(n : Int)
  | digits => (readDigits above .tooLarge digits).map Int.ofNat

/-- Reads a natural number up to `above`; a plus sign may lead it. -/
def readNatural (above : Nat) : List Char → Except IntegerFault Nat
  | [] => .error .empty
  | '+' :: digits => readDigits above .tooLarge digits
  | digits => readDigits above .tooLarge digits

/-- How many negative integers a signed integer of so many bits can be. -/
def negatives (bits : Nat) : Nat :=
  Nat.pow 2 (bits - 1)

def readInt32 (text : List Char) : Except IntegerFault Int32 :=
  (readInteger (negatives 32) (negatives 32 - 1) text).map Int32.ofInt

def readInt64 (text : List Char) : Except IntegerFault Int64 :=
  (readInteger (negatives 64) (negatives 64 - 1) text).map Int64.ofInt

def digitsOf (n : Nat) : List Char :=
  Nat.toDigits 10 n

def integerText (n : Int) : List Char :=
  if n < 0 then '-' :: digitsOf n.natAbs else digitsOf n.natAbs

end BrokerWire.Number
