namespace BrokerWire

def Double.rankCount : Nat := 2047 * Nat.pow 2 52

/-- A 64-bit floating point value. A finite one is a whole multiple of `2 ^ -1074`, and its rank
counts the magnitudes from zero upward. -/
inductive Double where
  | nan
  | infinity (negative : Bool)
  | finite (negative : Bool) (rank : Fin Double.rankCount)
  deriving DecidableEq

namespace Double

def zero : Double := .finite false ⟨0, by decide⟩

def largest : Double := .finite false ⟨rankCount - 1, by decide⟩

/-- The power of two that scales the significand of a rank. -/
def shift (rank : Nat) : Nat :=
  rank / Nat.pow 2 52 - 1

/-- The significand of a rank: 52 stored bits, and a leading one from the first normal rank on. -/
def significand (rank : Nat) : Nat :=
  if rank / Nat.pow 2 52 = 0 then rank else Nat.pow 2 52 + rank % Nat.pow 2 52

/-- The magnitude of a rank in units of `2 ^ -1074`. -/
def units (rank : Nat) : Nat :=
  significand rank * Nat.pow 2 (shift rank)

/-- A quotient rounded to the nearest natural number, a half to the even one. -/
def nearestEven (numerator denominator : Nat) : Nat :=
  let floor := numerator / denominator
  let twice := 2 * (numerator % denominator)
  if denominator < twice ∨ (twice = denominator ∧ floor % 2 = 1) then floor + 1 else floor

/-- The rank nearest to a quotient of units, a half to the even significand. Ranks from
`rankCount` on stand for overflow. -/
def nearestRank (numerator denominator : Nat) : Nat :=
  let s := (numerator / denominator).log2 + 1 - 53
  nearestEven numerator (denominator * Nat.pow 2 s) + s * Nat.pow 2 52

/-- The value of a sign and a rank; a rank past the finite ones is infinite. -/
def ofRank (negative : Bool) (rank : Nat) : Double :=
  if h : rank < rankCount then .finite negative ⟨rank, h⟩ else .infinity negative

/-- The value nearest to `digits * 10 ^ exponent`, with the given sign. Decimal magnitudes that are
certain to overflow or to vanish are answered without computing the power. -/
def ofDecimal (negative : Bool) (digits : Nat) (exponent : Int) : Double :=
  if digits = 0 then ofRank negative 0
  else
    let magnitude := (Nat.toDigits 10 digits).length + exponent
    if 310 < magnitude then .infinity negative
    else if magnitude < -330 then ofRank negative 0
    else if 0 ≤ exponent then
      ofRank negative (nearestRank (digits * Nat.pow 10 exponent.toNat * Nat.pow 2 1074) 1)
    else ofRank negative (nearestRank (digits * Nat.pow 2 1074) (Nat.pow 10 (-exponent).toNat))

def ofInt (n : Int) : Double :=
  ofDecimal (n < 0) n.natAbs 0

/-- Equality of numbers: a NaN equals nothing, and the two zeros are equal. -/
def sameNumber : Double → Double → Bool
  | .infinity s, .infinity t => s == t
  | .finite s a, .finite t b => a == b && (s == t || a.val == 0)
  | _, _ => false

def isPositive : Double → Bool
  | .infinity s => !s
  | .finite s a => !s && a.val != 0
  | .nan => false

end Double

end BrokerWire
