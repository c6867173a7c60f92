import BrokerWire.Wire.FieldReader
import BrokerWire.Number.Double.Text
import BrokerWire.Text.Escape
import BrokerWire.Code.Vocabulary
import BrokerWire.Code.TickType

namespace BrokerWire

def unsetInt : Int32 := Int32.maxValue

def unsetLong : Int64 := Int64.maxValue

def unsetDouble : Double := Double.largest

namespace FieldReader

variable {α : Type}

def intOf (text : String) : Except FieldFault Int32 :=
  (Number.readInt32 text.toList).mapError (.notInt text)

def longOf (text : String) : Except FieldFault Int64 :=
  (Number.readInt64 text.toList).mapError (.notLong text)

def doubleOf (text : String) : Except FieldFault Double :=
  (Double.read text.toList).mapError (.notDouble text)

def decimalOf (text : String) : Except FieldFault Decimal :=
  (Decimal.read text.toList).mapError (.notDecimal text)

/-- Reads a text that may carry escapes. -/
def unescaped : FieldReader String :=
  .field fun text => .done (String.ofList (Escape.unescape text.toList))

/-- Reads an integer; an empty field is zero. -/
def int : FieldReader Int32 :=
  parsed fun text =>
    if text = "" then .ok 0 else if text = "None" then .ok unsetInt else intOf text

/-- Reads an integer that may be unset. Only the texts are compared, not the value. -/
def optionalInt : FieldReader (Option Int32) :=
  parsed fun text =>
    if text = "" ∨ text = "None" ∨ text = "2147483647" then .ok none
    else (intOf text).map some

def long : FieldReader Int64 :=
  parsed fun text =>
    if text = "" then .ok 0 else if text = "None" then .ok unsetLong else longOf text

def optionalLong : FieldReader (Option Int64) :=
  parsed fun text =>
    if text = "" ∨ text = "None" ∨ text = "9223372036854775807" then .ok none
    else (longOf text).map some

def double : FieldReader Double :=
  parsed fun text =>
    if text = "" then .ok .zero
    else if text = "None" then .ok unsetDouble
    else if text = "Infinity" then .ok (.infinity false)
    else doubleOf text

/-- Reads a floating point number that may be unset, in any spelling of the marker. -/
def optionalDouble : FieldReader (Option Double) :=
  parsed fun text =>
    if text = "" ∨ text = "None" ∨ text = "1.7976931348623157E308" then .ok none
    else if text = "Infinity" then .ok (some (.infinity false))
    else (doubleOf text).map fun value => if value.sameNumber unsetDouble then none else some value

/-- Reads a flag: everything but zero and the empty field is true. -/
def bool : FieldReader Bool :=
  .field fun text => .done (text ≠ "" ∧ text ≠ "0")

/-- The texts that stand for no decimal. -/
def unsetDecimalTexts : List String :=
  ["", "None", "2147483647", "9223372036854775807", "1.7976931348623157E308",
    "-9223372036854775808"]

def decimal : FieldReader (Option Decimal) :=
  parsed fun text =>
    if unsetDecimalTexts.contains text then .ok none else (decimalOf text).map some

/-- Reads a text code; an empty field is none. -/
def code {κ : Type} [Vocabulary κ] : FieldReader (Option (Code κ)) :=
  .field fun text => .done (if text = "" then none else some (Code.ofText text))

/-- Reads a member of an enumeration by its code; an unknown code means `other`. -/
def number {κ : Type} [Numbered κ] (other : κ) : FieldReader κ :=
  int.bind fun n => .done ((Numbered.ofCode? n).getD other)

def tickType : FieldReader TickType :=
  number .notSet

def count : FieldReader Nat :=
  int.bind fun n => if n < 0 then .fail (.negativeCount n) else .done n.toInt.toNat

/-- Reads items behind their number. -/
def counted (item : FieldReader α) : FieldReader (List α) :=
  count.bind fun n => list n item

end FieldReader

end BrokerWire
