import BrokerWire.Text.Utf8

namespace BrokerWire

def headerLength : Nat := 4

def maxPayload : Nat := 0xFFFFFF

/-- A payload that is too long: one to be sent, or one that a header announces. -/
inductive FrameFault where
  | tooLong (octets : Nat)
  | announced (octets : Nat)
  deriving DecidableEq

def FrameFault.message : FrameFault → String
  | .tooLong octets => "message too long: " ++ toString octets ++ " bytes (max 16777215)"
  | .announced octets => "frame length " ++ toString octets ++ " exceeds maximum 16777215"

namespace Frame

/-- A length in four octets, most significant first. -/
def header (length : Nat) : Bytes :=
  [UInt8.ofNat (length / 16777216), UInt8.ofNat (length / 65536), UInt8.ofNat (length / 256),
    UInt8.ofNat length]

def headerValue (a b c d : UInt8) : Nat :=
  ((a.toNat * 256 + b.toNat) * 256 + c.toNat) * 256 + d.toNat

/-- A payload behind its length, if it is not too long. -/
def encode (payload : Bytes) : Except FrameFault Bytes :=
  let length := payload.length
  if maxPayload < length then .error (.tooLong length) else .ok (header length ++ payload)

end Frame

/-- The octets that a stream has delivered and that no reading has taken yet. -/
structure Scanner where
  buffer : Bytes := []
  deriving DecidableEq

namespace Scanner

def push (s : Scanner) (chunk : Bytes) : Scanner :=
  ⟨s.buffer ++ chunk⟩

/-- Takes the next payload once it is complete. A header that announces too much is a fault, and
stays. -/
def next (s : Scanner) : Except FrameFault (Option Bytes) × Scanner :=
  match s.buffer with
  | a :: b :: c :: d :: rest =>
    let length := Frame.headerValue a b c d
    if maxPayload < length then (.error (.announced length), s)
    else if rest.length < length then (.ok none, s)
    else (.ok (some (rest.take length)), ⟨rest.drop length⟩)
  | _ => (.ok none, s)

/-- Takes `count` pieces that each end with a zero octet, once all of them are there. -/
def takePieces : (count : Nat) → Bytes → Option (List Bytes × Bytes)
  | 0, octets => some ([], octets)
  | count + 1, octets =>
    match octets.span (· != 0) with
    | (_, []) => none
    | (piece, _ :: rest) => (takePieces count rest).map fun r => (piece :: r.1, r.2)

def decodePieces : List Bytes → Except Utf8.Fault (List String)
  | [] => .ok []
  | piece :: rest => do
    let text ← Utf8.decode piece
    let texts ← decodePieces rest
    pure (String.ofList text :: texts)

/-- Takes `count` fields that arrive without a header, once all of them are there. They are taken
also when they are not UTF-8. -/
def unframedFields (s : Scanner) (count : Nat) :
    Except Utf8.Fault (Option (List String)) × Scanner :=
  match takePieces count s.buffer with
  | none => (.ok none, s)
  | some (pieces, rest) => ((decodePieces pieces).map some, ⟨rest⟩)

/-- Whether the buffer begins with a header, whose first octet is always zero; unknown while the
buffer is empty. -/
def looksFramed (s : Scanner) : Option Bool :=
  s.buffer.head?.map (· == 0)

end Scanner

end BrokerWire
