import BrokerWire.Number.Double.Basic

namespace BrokerWire.Double

def unitsOfOne : Nat := Nat.pow 2 1074

def naturalRank (n : Nat) : Nat :=
  nearestRank (n * unitsOfOne) 1

def timesRank (a b : Nat) : Nat :=
  nearestRank (units a * units b) unitsOfOne

def overRank (a b : Nat) : Nat :=
  nearestRank (units a * unitsOfOne) (units b)

def greatestPower : Nat := 308

def powerRank (n : Nat) : Nat :=
  naturalRank (Nat.pow 10 n)

/-- Multiplies by a power of ten. There is no outcome past the finite values. -/
def timesPower? (rank n : Nat) : Option Nat :=
  if n ≤ greatestPower then
    let product := timesRank rank (powerRank n)
    if product < rankCount then some product else none
  else if rank = 0 then some 0
  else none

/-- Divides by a power of ten, step by step if the power is not finite. -/
def overPower (rank n : Nat) : Nat :=
  if n ≤ greatestPower then overRank rank (powerRank n)
  else if rank = 0 then 0
  else overPower (overRank rank (powerRank greatestPower)) (n - greatestPower)
termination_by n
decreasing_by
  simp only [greatestPower] at *
  omega

/-- The value of `digits * 10 ^ exponent` with the given sign, if no step overflows. The digits are
rounded first, and then each product or quotient with a power of ten, so the last bit may differ
from that of the nearest value. -/
def stepwise? (negative : Bool) (digits : Nat) (exponent : Int) : Option Double :=
  let rank := naturalRank digits
  let scaled :=
    if 0 ≤ exponent then timesPower? rank exponent.toNat
    else some (overPower rank (-exponent).toNat)
  scaled.map (ofRank negative)

end BrokerWire.Double
