import BrokerWire.Wire.Frame
import BrokerWire.Wire.Fault
import BrokerWire.Wire.Version
import BrokerWire.Event.ClientError

namespace BrokerWire

inductive ApiError where
  | connectFailed (detail : String)
  | encoding (detail : String)
  | decoding (detail : String)
  | protocol (detail : String)
  | redirect (target : String)
  | unsupportedVersion (version : ServerVersion)
  | alreadyConnected
  | timeout (detail : String)
  | disconnected (detail : String)
  | io (detail : String)
  deriving DecidableEq

namespace ApiError

def display : ApiError → String
  | .connectFailed detail => "Connect failed: " ++ detail
  | .encoding detail => "Encoding error: " ++ detail
  | .decoding detail => "Decoding error: " ++ detail
  | .protocol detail => "Protocol error: " ++ detail
  | .redirect target => "Redirected to " ++ target
  | .unsupportedVersion version => "Unsupported server version " ++ toString version
  | .alreadyConnected => "Already connected"
  | .timeout detail => "Timeout: " ++ detail
  | .disconnected detail => "Disconnected: " ++ detail
  | .io detail => "I/O error: " ++ detail

/-- The error that the application is told. -/
def clientError : ApiError → ClientError
  | .connectFailed _ => .connectFailed
  | .redirect _ => .connectFailed
  | .timeout _ => .connectFailed
  | .unsupportedVersion _ => .outdatedServer
  | .alreadyConnected => .alreadyConnected
  | .decoding _ => .badMessage
  | .encoding _ => .badMessage
  | .protocol _ => .badLength
  | .disconnected _ => .socketFailed
  | .io _ => .socketFailed

def notice (e : ApiError) (reqId : Int32) : Notice :=
  e.clientError.notice reqId e.display

def ofField (fault : FieldFault) : ApiError :=
  .decoding fault.message

/-- A payload that is too long to be sent is an encoding failure; one that a header announces is a
violation of the protocol. -/
def ofFrame : FrameFault → ApiError
  | .tooLong octets => .encoding (FrameFault.tooLong octets).message
  | .announced octets => .protocol (FrameFault.announced octets).message

def ofUnframed (fault : Utf8.Fault) : ApiError :=
  .decoding ("invalid UTF-8 in handshake: " ++ fault.message)

end ApiError

end BrokerWire
