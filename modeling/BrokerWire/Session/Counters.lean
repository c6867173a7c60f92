namespace BrokerWire

/-- What has been sent and received since the last reset, in 64 bits that go around at the end. -/
structure Counters where
  bytesSent : UInt64 := 0
  bytesReceived : UInt64 := 0
  messagesSent : UInt64 := 0
  messagesReceived : UInt64 := 0
  deriving DecidableEq

namespace Counters

def sent (c : Counters) (octets : Nat) : Counters :=
  { c with bytesSent := c.bytesSent + UInt64.ofNat octets, messagesSent := c.messagesSent + 1 }

def received (c : Counters) (octets : Nat) : Counters :=
  { c with
    bytesReceived := c.bytesReceived + UInt64.ofNat octets
    messagesReceived := c.messagesReceived + 1 }

end Counters

end BrokerWire
