import BrokerWire.Event.Notice

namespace BrokerWire

/-- What a client reports on its own, without a message of the gateway. -/
inductive ClientError where
  | alreadyConnected
  | connectFailed
  | outdatedServer
  | notConnected
  | badLength
  | badMessage
  | socketFailed
  deriving DecidableEq

namespace ClientError

def code : ClientError → Int32
  | .alreadyConnected => 501
  | .connectFailed => 502
  | .outdatedServer => 503
  | .notConnected => 504
  | .badLength => 507
  | .badMessage => 508
  | .socketFailed => 509

def message : ClientError → String
  | .alreadyConnected => "Already connected."
  | .connectFailed =>
    "Couldn't connect to TWS. Confirm that \"Enable ActiveX and Socket Clients\" is enabled and " ++
      "connection port is the same as \"Socket Port\" on the TWS \"Edit->Global " ++
      "Configuration...->API->Settings\" menu."
  | .outdatedServer => "The TWS is out of date and must be upgraded."
  | .notConnected => "Not connected"
  | .badLength => "Bad message length"
  | .badMessage => "Bad message"
  | .socketFailed => "Exception caught while reading socket - "

def withDetail (e : ClientError) (detail : String) : String :=
  if detail = "" then e.message else e.message ++ " " ++ detail

/-- The request that an error belongs to if it belongs to none. -/
def noRequest : Int32 := -1

def notice (e : ClientError) (reqId : Int32) (detail : String) : Notice :=
  .error reqId 0 e.code (e.withDetail detail) ""

end ClientError

end BrokerWire
