import BrokerWire.Wire.Frame
import BrokerWire.Wire.Field
import BrokerWire.Code.Outbound

namespace BrokerWire

/-- A message, as the texts of its fields. -/
structure Message where
  fields : List String
  deriving DecidableEq

namespace Message

def ofKind (kind : Outbound) (fields : List String) : Message :=
  ⟨Field.number kind :: fields⟩

/-- The octets of a field: its text and a zero octet. -/
def fieldOctets (text : String) : Bytes :=
  Utf8.encode text.toList ++ [0]

def payload (m : Message) : Bytes :=
  m.fields.flatMap fieldOctets

/-- The octets of the payload, counted without writing it. -/
def length (m : Message) : Nat :=
  m.fields.foldr (fun text octets => text.utf8ByteSize + 1 + octets) 0

/-- The frame of a message. Its length is checked before anything is written. -/
def encode (m : Message) : Except FrameFault Bytes :=
  let length := m.length
  if maxPayload < length then .error (.tooLong length) else .ok (Frame.header length ++ m.payload)

theorem length_fieldOctets (text : String) :
    (fieldOctets text).length = text.utf8ByteSize + 1 := by
  simp [fieldOctets, Utf8.length_encode]

theorem length_payload (m : Message) : m.payload.length = m.length := by
  obtain ⟨fields⟩ := m
  induction fields with
  | nil => rfl
  | cons text rest ih =>
    simp only [payload, length, List.flatMap_cons, List.length_append, length_fieldOctets,
      List.foldr_cons] at ih ⊢
    rw [ih]

theorem encode_eq (m : Message) : m.encode = Frame.encode m.payload := by
  simp [encode, Frame.encode, length_payload]

end Message

end BrokerWire
