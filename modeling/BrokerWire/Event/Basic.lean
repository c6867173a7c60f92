import BrokerWire.Event.ClientError
import BrokerWire.Code.Inbound
import BrokerWire.Text.Utf8

namespace BrokerWire

structure ScannerRow where
  rank : Int32
  details : ContractDetails
  distance : String
  benchmark : String
  projection : String
  legs : String
  deriving DecidableEq

/-- What a message says. Old servers send the range of historical data along with the bars. A
message of an unknown kind is kept as it came. -/
inductive Event where
  | notice (notice : Notice)
  | tickPrice (reqId : Int32) (tickType : TickType) (price : Double) (size : Option Decimal)
      (attrib : PriceFlags)
  | historicalData (reqId : Int32) (bars : List Bar) (range : Option (String × String))
  | scannerData (reqId : Int32) (rows : List ScannerRow)
  | unknown (code : Int32) (payload : Bytes)
  deriving DecidableEq

namespace Event

def unknownReport (code : Int32) (octets : Nat) : String :=
  let size := ", " ++ toString octets ++ " bytes"
  match (Numbered.ofCode? code : Option Inbound) with
  | some kind => "unhandled message " ++ kind.name ++ " (" ++ toString code.toInt ++ ")" ++ size
  | none => "unknown message id " ++ toString code.toInt ++ size

/-- The notices of an event, in order: a price tick brings its size along, and rows and bars are
told one by one. -/
def notices : Event → List Notice
  | .notice n => [n]
  | .tickPrice reqId tickType price size attrib =>
    .tickPrice reqId tickType price attrib ::
      (tickType.pairedSize.map fun sizeType => .tickSize reqId sizeType size).toList
  | .historicalData reqId bars range =>
    bars.map (.historicalData reqId) ++
      (range.map fun r => .historicalDataEnd reqId r.1 r.2).toList
  | .scannerData reqId rows =>
    rows.map (fun row => .scannerData reqId row.rank row.details row.distance row.benchmark
      row.projection row.legs) ++ [.scannerDataEnd reqId]
  | .unknown code payload =>
    [ClientError.badMessage.notice ClientError.noRequest (unknownReport code payload.length)]

end Event

end BrokerWire
