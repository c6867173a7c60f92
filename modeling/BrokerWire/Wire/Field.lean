import BrokerWire.Number.Integer
import BrokerWire.Number.Double.Text
import BrokerWire.Number.Decimal.Basic
import BrokerWire.Code.Numbered
import BrokerWire.Code.Vocabulary
import BrokerWire.Record.Contract

namespace BrokerWire.Field

def int (n : Int32) : String :=
  String.ofList (Number.integerText n.toInt)

def long (n : Int64) : String :=
  String.ofList (Number.integerText n.toInt)

/-- A floating point number; infinity is spelled out. -/
def double (x : Double) : String :=
  if x = .infinity false then "Infinity" else x.text

def bool (flag : Bool) : String :=
  if flag then "1" else "0"

/-- A quantity, without trailing zeros. -/
def decimal (d : Decimal) : String :=
  d.normalize.text

def code {κ : Type} [Vocabulary κ] (c : Code κ) : String :=
  c.text

def number {κ : Type} [Numbered κ] (member : κ) : String :=
  int (Numbered.code member)

/-- A value that may be unset; an unset one is an empty field. -/
def optional {α : Type} (text : α → String) : Option α → String
  | none => ""
  | some value => text value

def count {α : Type} (items : List α) : String :=
  int (Int32.ofNat items.length)

/-- Parameters in one field. -/
def tags (params : List TagValue) : String :=
  String.join (params.map fun p => p.tag ++ "=" ++ p.value ++ ";")

/-- Parameters behind their number, two fields each. -/
def pairs (params : List TagValue) : List String :=
  count params :: params.flatMap fun p => [p.tag, p.value]

/-- The fields of a contract in most requests. -/
def contract (c : Contract) : List String :=
  [int c.conId, c.symbol, optional code c.secType, c.lastTradeDateOrContractMonth,
    optional double c.strike, optional code c.right, c.multiplier, c.exchange, c.primaryExchange,
    c.currency, c.localSymbol, c.tradingClass]

end BrokerWire.Field
