import BrokerWire.Number.Integer
import BrokerWire.Number.Double.Reader
import BrokerWire.Number.Decimal.Reader
import BrokerWire.Text.Utf8

namespace BrokerWire

open Number (IntegerFault)

inductive FieldFault where
  | endOfMessage
  | unterminated
  | notUtf8 (fault : Utf8.Fault)
  | notInt (text : String) (fault : IntegerFault)
  | notLong (text : String) (fault : IntegerFault)
  | notDouble (text : String) (fault : DoubleFault)
  | notDecimal (text : String) (fault : DecimalFault)
  | negativeCount (count : Int32)
  | unknownCondition (code : Int32)
  deriving DecidableEq

/-- The report of a text that is no value of a kind. -/
def invalidText (kind text reason : String) : String :=
  "invalid " ++ kind ++ " '" ++ text ++ "': " ++ reason

def FieldFault.message : FieldFault → String
  | .endOfMessage => "unexpected end of message"
  | .unterminated => "field not NUL-terminated"
  | .notUtf8 fault => "invalid UTF-8: " ++ fault.message
  | .notInt text fault => invalidText "int" text fault.message
  | .notLong text fault => invalidText "long" text fault.message
  | .notDouble text fault => invalidText "float" text fault.message
  | .notDecimal text fault => invalidText "decimal" text fault.message
  | .negativeCount count => "negative item count " ++ toString count.toInt
  | .unknownCondition code => "unknown order condition type " ++ toString code.toInt

end BrokerWire
