import BrokerWire.Number.Integer

namespace BrokerWire

def Decimal.limit : Nat := Nat.pow 2 96

def Decimal.maxScale : Nat := 28

/-- The number `coefficient * 10 ^ -scale`. The scale is part of its written form: `1.50` and `1.5`
are one number and two decimals. -/
structure Decimal where
  coefficient : Int
  scale : Nat
  coefficient_lt : coefficient.natAbs < Decimal.limit
  scale_le : scale ≤ Decimal.maxScale
  deriving DecidableEq

namespace Decimal

open Number (digitsOf)

def zero : Decimal := ⟨0, 0, by decide, by decide⟩

def of? (coefficient : Int) (scale : Nat) : Option Decimal :=
  if h : coefficient.natAbs < limit ∧ scale ≤ maxScale then some ⟨coefficient, scale, h.1, h.2⟩
  else none

/-- Drops trailing fractional zeros from a coefficient with `scale` fractional digits. -/
def strip (coefficient : Int) : (scale : Nat) → Int × Nat
  | 0 => (coefficient, 0)
  | scale + 1 =>
    if coefficient % 10 = 0 then strip (coefficient / 10) scale else (coefficient, scale + 1)

theorem strip_scale_le (coefficient : Int) (scale : Nat) : (strip coefficient scale).2 ≤ scale := by
  induction scale generalizing coefficient with
  | zero => simp [strip]
  | succ n ih =>
    simp only [strip]
    split
    · exact Nat.le_succ_of_le (ih _)
    · simp

theorem strip_natAbs_le (coefficient : Int) (scale : Nat) :
    (strip coefficient scale).1.natAbs ≤ coefficient.natAbs := by
  induction scale generalizing coefficient with
  | zero => simp [strip]
  | succ n ih =>
    simp only [strip]
    split
    · exact Nat.le_trans (ih _) (by omega)
    · simp

/-- The same number with the fewest fractional digits. -/
def normalize (d : Decimal) : Decimal :=
  let stripped := strip d.coefficient d.scale
  ⟨stripped.1, stripped.2,
    Nat.lt_of_le_of_lt (strip_natAbs_le d.coefficient d.scale) d.coefficient_lt,
    Nat.le_trans (strip_scale_le d.coefficient d.scale) d.scale_le⟩

/-- The whole part, toward zero. -/
def truncate (d : Decimal) : Decimal :=
  ⟨d.coefficient.tdiv (Nat.pow 10 d.scale), 0,
    Nat.lt_of_le_of_lt (by rw [Int.natAbs_tdiv]; exact Nat.div_le_self _ _) d.coefficient_lt,
    Nat.zero_le _⟩

/-- Digits with a point before the last `scale` of them; zeros lead where digits are missing. -/
def pointed (digits : List Char) (scale : Nat) : List Char :=
  if scale = 0 then digits
  else
    let padded := List.replicate (scale + 1 - digits.length) '0' ++ digits
    let whole := padded.length - scale
    padded.take whole ++ '.' :: padded.drop whole

def text (d : Decimal) : String :=
  let body := pointed (digitsOf d.coefficient.natAbs) d.scale
  String.ofList (if d.coefficient < 0 then '-' :: body else body)

end Decimal

end BrokerWire
