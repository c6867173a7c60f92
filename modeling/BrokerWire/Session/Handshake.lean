import BrokerWire.Session.ApiError
import BrokerWire.Wire.FieldReader
import BrokerWire.Wire.Message

namespace BrokerWire

/-- What a successful opening agrees on. -/
structure Handshake where
  serverVersion : ServerVersion
  connectionTime : String
  deriving DecidableEq

namespace Handshake

def signature : Bytes :=
  [0x41, 0x50, 0x49, 0]

/-- The range of versions that the client speaks, and options behind it. -/
def versionRange (options : Option String) : String :=
  let range :=
    "v" ++ toString ServerVersion.lowest ++ ".." ++ toString ServerVersion.highest
  match options with
  | none => range
  | some text => if text = "" then range else range ++ " " ++ text

def request (options : Option String) : Except FrameFault Bytes :=
  (Frame.encode (Utf8.encode (versionRange options).toList)).map (signature ++ ·)

def startVersion : Int32 := 2

def startApi (sv : ServerVersion) (clientId : Int32) (capabilities : Option String) : Message :=
  .ofKind .startApi <|
    [Field.int startVersion, Field.int clientId] ++
      if Since.optionalCapabilities ≤ sv then [capabilities.getD ""] else []

def replyFields : FieldReader (String × String) := do
  return (← FieldReader.text, ← FieldReader.text)

/-- Takes the server's answer once all of it is there. Newer servers put it into a frame, older ones
send the two fields bare, and the first octet tells which. -/
def reply (s : Scanner) : Except ApiError (Option (String × String)) × Scanner :=
  match s.looksFramed with
  | none => (.ok none, s)
  | some true =>
    match s.next with
    | (.error fault, s) => (.error (.ofFrame fault), s)
    | (.ok none, s) => (.ok none, s)
    | (.ok (some payload), s) =>
      (((replyFields.run payload).1.map some).mapError .ofField, s)
  | some false =>
    match s.unframedFields 2 with
    | (.error fault, s) => (.error (.ofUnframed fault), s)
    | (.ok (some [first, second]), s) => (.ok (some (first, second)), s)
    | (.ok _, s) => (.ok none, s)

/-- Judges the server's answer. A version below zero sends the client elsewhere. -/
def judge (version second : String) : Except ApiError Handshake :=
  match Number.readInt32 version.toList with
  | .error fault =>
    .error (.decoding (invalidText "server version" version fault.message))
  | .ok n =>
    let sv : ServerVersion := n.toInt
    if sv < 0 then .error (.redirect second)
    else if sv < ServerVersion.lowest ∨ ServerVersion.highest < sv then
      .error (.unsupportedVersion sv)
    else .ok ⟨sv, second⟩

def serverClosed : ApiError :=
  .disconnected "connection closed by server"

/-- Takes and judges the answer, chunk by chunk as it arrives. Without an outcome the answer is not
complete yet; what has not been read stays in the scanner and in the chunks. -/
def await (s : Scanner) :
    (chunks : List Bytes) → Option (Except ApiError Handshake) × Scanner × List Bytes
  | [] =>
    match reply s with
    | (.error e, s) => (some (.error e), s, [])
    | (.ok (some (version, second)), s) => (some (judge version second), s, [])
    | (.ok none, s) => (none, s, [])
  | chunk :: rest =>
    match reply s with
    | (.error e, s) => (some (.error e), s, chunk :: rest)
    | (.ok (some (version, second)), s) => (some (judge version second), s, chunk :: rest)
    | (.ok none, s) => await (s.push chunk) rest

end Handshake

end BrokerWire
