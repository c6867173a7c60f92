import BrokerWire.Number.Double.Basic

/-!
The fewest decimal digits that read back as a given magnitude, and among those the nearest.

A magnitude owns the interval of reals that round to it; its ends belong to it when its significand
is even. On the grid of each power of ten the two neighbours of the magnitude are tried, from the
coarsest grid down, and the first grid with a neighbour in the interval decides.
-/

namespace BrokerWire.Double

/-- Which neighbour is taken when both are equally near. -/
inductive Tie where
  | up
  | even
  deriving DecidableEq

/-- The interval of a rank in quarters of a unit, and whether its ends belong to it. -/
structure Interval where
  low : Nat
  middle : Nat
  high : Nat
  closed : Bool

/-- The interval of reals that round to a rank. At the lowest rank of a binade the gap below is half
the gap above. -/
def interval (rank : Nat) : Interval :=
  let half := 2 * Nat.pow 2 (shift rank)
  let below :=
    if rank % Nat.pow 2 52 = 0 ∧ 1 < rank / Nat.pow 2 52 then half / 2 else half
  { low := 4 * units rank - below
    middle := 4 * units rank
    high := 4 * units rank + half
    closed := rank % 2 = 0 }

def Interval.holds (i : Interval) (numerator denominator : Nat) : Bool :=
  if i.closed then i.low * denominator ≤ numerator && numerator ≤ i.high * denominator
  else i.low * denominator < numerator && numerator < i.high * denominator

/-- The neighbour of the magnitude on the grid `10 ^ exponent` that reads back, if there is one. A
grid point `d` stands for `d * scale.1 / scale.2` quarter units. -/
def gridPoint? (tie : Tie) (i : Interval) (scale : Nat × Nat) : Option Nat :=
  let below := i.middle * scale.2 / scale.1
  let down := i.holds (below * scale.1) scale.2
  let up := i.holds ((below + 1) * scale.1) scale.2
  let twice := 2 * (i.middle * scale.2 % scale.1)
  let upNearer := scale.1 < twice ∨ (twice = scale.1 ∧ (tie = .up ∨ below % 2 = 1))
  if down ∧ up then some (if upNearer then below + 1 else below)
  else if down then some below
  else if up then some (below + 1)
  else none

def gridScale (exponent : Int) : Nat × Nat :=
  if 0 ≤ exponent then (Nat.pow 10 exponent.toNat * Nat.pow 2 1076, 1)
  else (Nat.pow 2 1076, Nat.pow 10 (-exponent).toNat)

/-- Tries the grids from `exponent` downward; seventeen digits always read back. -/
def searchGrids (tie : Tie) (i : Interval) : (grids : Nat) → (exponent : Int) → Nat × Int
  | 0, exponent => (0, exponent)
  | n + 1, exponent =>
    match gridPoint? tie i (gridScale exponent) with
    | some digits => (digits, exponent)
    | none => searchGrids tie i n (exponent - 1)

/-- The decimal exponent above a magnitude: the least power of ten that exceeds it, found by moving
from an estimate that is at most two too high. -/
def decimalCeiling (rank : Nat) : Int :=
  let binary : Int := (units rank).log2 - 1074
  binary * 30103 / 100000 + 2

def shortest (tie : Tie) (rank : Nat) : Nat × Int :=
  searchGrids tie (interval rank) 24 (decimalCeiling rank)

end BrokerWire.Double
