import BrokerWire.Event.Notice
import BrokerWire.Form.Basic
import BrokerWire.Json.Text
import BrokerWire.Number.Double.Text
import BrokerWire.Session.Counters
import BrokerWire.Text.Blank
import BrokerWire.Wire.Version

namespace BrokerWire

/-- A line that a run prints, one JSON object each. -/
inductive Record where
  | connected (serverVersion : Option ServerVersion) (connectionTime : Option String)
  | nextValidId (orderId : Int32)
  | managedAccounts (accounts : List String)
  | error (reqId code : Int32) (message : String)
  | position (account symbol secType currency : String) (conId : Int32)
      (size : Option String) (avgCost : Double)
  | positionEnd
  | accountSummary (reqId : Int32) (account tag value currency : String)
  | accountSummaryEnd (reqId : Int32)
  | currentTime (time : Int64)
  | connectionClosed
  | stats (counters : Counters)
  deriving DecidableEq

namespace Record

/-- The accounts of a text with commas between them, without blanks around them. -/
def accounts (text : String) : List String :=
  ((Blank.parts (· == ',') text.toList).map Blank.trim).filterMap fun account =>
    if account = [] then none else some (String.ofList account)

/-- The record of a position; its size is written without trailing zeros. -/
def ofPosition (p : Position) : Record :=
  .position p.account p.contract.symbol ((p.contract.secType.map Code.text).getD "")
    p.contract.currency p.contract.conId
    (p.position.map fun size => size.normalize.text) p.avgCost

/-- The record of a notice, if it has one. -/
def ofNotice : Notice → Option Record
  | .connectionClosed => some .connectionClosed
  | .nextValidId orderId => some (.nextValidId orderId)
  | .managedAccounts text => some (.managedAccounts (accounts text))
  | .error reqId _ code message _ => some (.error reqId code message)
  | .currentTime time => some (.currentTime time)
  | .position p => some (ofPosition p)
  | .positionEnd => some .positionEnd
  | .accountSummary reqId account tag value currency =>
    some (.accountSummary reqId account tag value currency)
  | .accountSummaryEnd reqId => some (.accountSummaryEnd reqId)
  | _ => none

def type : Record → String
  | .connected .. => "connected"
  | .nextValidId _ => "nextValidId"
  | .managedAccounts _ => "managedAccounts"
  | .error .. => "error"
  | .position .. => "position"
  | .positionEnd => "positionEnd"
  | .accountSummary .. => "accountSummary"
  | .accountSummaryEnd _ => "accountSummaryEnd"
  | .currentTime _ => "currentTime"
  | .connectionClosed => "connectionClosed"
  | .stats _ => "stats"

def counter (n : UInt64) : Json :=
  .integer n.toNat

def members : Record → List (String × Json)
  | .connected serverVersion connectionTime =>
    [("serverVersion", (serverVersion.map Json.integer).getD .null),
      ("connectionTime", toJson connectionTime)]
  | .nextValidId orderId => [("orderId", toJson orderId)]
  | .managedAccounts accounts => [("accounts", toJson accounts)]
  | .error reqId code message =>
    [("reqId", toJson reqId), ("code", toJson code), ("message", toJson message)]
  | .position account symbol secType currency conId size avgCost =>
    [("account", toJson account), ("symbol", toJson symbol), ("secType", toJson secType),
        ("currency", toJson currency), ("conId", toJson conId)] ++
      (size.map fun text => ("position", toJson text)).toList ++
      [("avgCost", toJson avgCost)]
  | .positionEnd => []
  | .accountSummary reqId account tag value currency =>
    [("reqId", toJson reqId), ("account", toJson account), ("tag", toJson tag),
      ("value", toJson value), ("currency", toJson currency)]
  | .accountSummaryEnd reqId => [("reqId", toJson reqId)]
  | .currentTime time => [("time", toJson time)]
  | .connectionClosed => []
  | .stats c =>
    [("bytesSent", counter c.bytesSent), ("bytesReceived", counter c.bytesReceived),
      ("messagesSent", counter c.messagesSent),
      ("messagesReceived", counter c.messagesReceived)]

def toObject (r : Record) : Json :=
  .object (("type", .string r.type) :: r.members)

def text (r : Record) : String :=
  r.toObject.render Double.jsonText

/-- The line of a record, which begins with the time. -/
def line (timestamp : String) (r : Record) : String :=
  (Json.object (("timestamp", .string timestamp) :: ("type", .string r.type) :: r.members)).render
    Double.jsonText

end Record

end BrokerWire
