import BrokerWire.Number.Double.Shortest
import BrokerWire.Number.Integer

namespace BrokerWire.Double

open Number (digitsOf integerText)

/-- Decimal digits with a point after the first `point` of them; zeros fill what lies between the
point and the digits. A whole number has no point. -/
def positional (digits : List Char) (point : Int) : List Char :=
  if point ≤ 0 then '0' :: '.' :: (List.replicate (-point).toNat '0' ++ digits)
  else if digits.length ≤ point then
    digits ++ List.replicate (point.toNat - digits.length) '0'
  else digits.take point.toNat ++ '.' :: digits.drop point.toNat

def signed (negative : Bool) (text : List Char) : List Char :=
  if negative then '-' :: text else text

/-- The shortest digits of a magnitude without trailing zeros, and the place of the point behind
them. -/
def shortestDigits (tie : Tie) (rank : Nat) : List Char × Int :=
  let (digits, exponent) := shortest tie rank
  let written := digitsOf digits
  let kept := (written.reverse.dropWhile (· = '0')).reverse
  (kept, written.length + exponent)

/-- The plain text of a value: shortest digits in positional notation, never an exponent; a half
between two candidates goes up. -/
def text : Double → String
  | .nan => "NaN"
  | .infinity negative => String.ofList (signed negative ['i', 'n', 'f'])
  | .finite negative rank =>
    if rank.val = 0 then String.ofList (signed negative ['0'])
    else
      let (digits, point) := shortestDigits .up rank
      String.ofList (signed negative (positional digits point))

def scientific (digits : List Char) (point : Int) : List Char :=
  let mantissa :=
    match digits with
    | first :: second :: rest => first :: '.' :: second :: rest
    | digits => digits
  let exponent := point - 1
  mantissa ++ 'e' :: (if 0 ≤ exponent then '+' :: integerText exponent else integerText exponent)

/-- The JSON text of a value: positional with at least one decimal for decimal exponents from -5 to
15, scientific outside of them; a half between two candidates goes to the even digit. JSON has no
number for NaN and the infinities. -/
def jsonText : Double → String
  | .nan => "null"
  | .infinity _ => "null"
  | .finite negative rank =>
    if rank.val = 0 then String.ofList (signed negative ['0', '.', '0'])
    else
      let (digits, point) := shortestDigits .even rank
      let body :=
        if -5 ≤ point - 1 ∧ point - 1 ≤ 15 then
          if digits.length ≤ point then positional digits point ++ ['.', '0']
          else positional digits point
        else scientific digits point
      String.ofList (signed negative body)

end BrokerWire.Double
