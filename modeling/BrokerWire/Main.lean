import BrokerWire.Report.Run
import Std.Async.DNS
import Std.Async.Select
import Std.Async.Signal
import Std.Async.TCP
import Std.Async.Timer
import Std.Time.DateTime
import Std.Time.Zoned

open Std.Async

namespace BrokerWire.Main

def chunkSize : UInt64 := 65536

/-- The longest wait that a timer takes, in milliseconds. -/
def longestWait : Nat := 1000000000000

/-- What the socket brings, or what comes before it. -/
inductive Arrival where
  | chunk (octets : Bytes)
  | closed
  | interrupted
  | expired

def padded (width : Nat) (n : Int) : String :=
  let digits := toString n
  String.ofList (List.replicate (width - digits.length) '0') ++ digits

def timestamp : IO String := do
  let now ← Std.Time.PlainDateTime.now
  let day := now.date
  let time := now.time
  return padded 4 day.year.toInt ++ "-" ++ padded 2 day.month.val ++ "-" ++ padded 2 day.day.val ++
    " " ++ padded 2 time.hour.val ++ ":" ++ padded 2 time.minute.val ++ ":" ++
    padded 2 time.second.val ++ "." ++ padded 3 (time.nanosecond.val / 1000000)

def print (records : List Record) : IO Unit := do
  let out ← IO.getStdout
  for record in records do
    out.putStrLn (record.line (← timestamp))
    out.flush

def resolve (host : String) : IO (List Std.Net.IPAddr) := do
  match Std.Net.IPv4Addr.ofString host with
  | some address => return [.v4 address]
  | none => return (← (DNS.getAddrInfo host "").block).toList

def endpoint (port : Nat) : Std.Net.IPAddr → Std.Net.SocketAddress
  | .v4 address => .v4 ⟨address, UInt16.ofNat port⟩
  | .v6 address => .v6 ⟨address, UInt16.ofNat port⟩

/-- The reason of a dial that failed. The socket gives the system's number with its sign turned. -/
def reason (e : IO.Error) : String :=
  let named (code : UInt32) : String :=
    if 0 - code = 111 then Scenario.refused
    else if 0 - code = 101 then Scenario.unreachable
    else e.toString
  match e with
  | .noSuchThing _ code _ => named code
  | .resourceVanished code _ => named code
  | .hardwareFault code _ => named code
  | _ => e.toString

/-- Dials the addresses one after the other; the last failure counts. -/
def dialAny (port : Nat) : List Std.Net.IPAddr → (last : String) →
    Async (Except String TCP.Socket.Client)
  | [], last => return .error last
  | address :: rest, _ => do
    try
      let socket ← TCP.Socket.Client.mk
      socket.connect (endpoint port address)
      return .ok socket
    catch e => dialAny port rest (reason e)

/-- Dials within a limit in milliseconds; without an outcome the limit has passed. -/
def dial (host : String) (port limit : Nat) : IO (Option (Except String TCP.Socket.Client)) := do
  try
    let addresses ← resolve host
    let dialing : Async (Option (Except String TCP.Socket.Client)) :=
      some <$> dialAny port addresses "no address"
    let waiting : Async (Option (Except String TCP.Socket.Client)) := do
      sleep (.ofNat (min limit longestWait))
      return none
    (Async.race dialing waiting).block
  catch e => return some (.error (reason e))

/-- Waits for what comes next, at most until the end of a limit if there is one. -/
def next (socket : TCP.Socket.Client) (signal : Signal.Waiter) (limit : Option Nat) :
    IO Arrival := do
  let received (chunk : Option ByteArray) : Async Arrival :=
    return match chunk with
      | some octets => .chunk octets.toList
      | none => .closed
  let wait : Async Arrival := do
    let cases : Array (Selectable Arrival) :=
      #[.case (socket.recvSelector chunkSize) received,
        .case signal.selector fun _ => return .interrupted]
    match limit with
    | none => Selectable.one cases
    | some ms =>
      let timer ← Selector.sleep (.ofNat (min ms longestWait))
      Selectable.one (cases.push (.case timer fun _ => return .expired))
  wait.block

def send (socket : TCP.Socket.Client) (octets : Bytes) : IO Unit :=
  (socket.send (ByteArray.mk octets.toArray)).block

/-- Collects the server's answer until it is complete, and tells how the waiting ended. -/
partial def collect (socket : TCP.Socket.Client) (signal : Signal.Waiter) (deadline : Nat)
    (chunks : List Bytes) : IO Scenario.Peer := do
  if (Handshake.await {} chunks).1.isSome then return .server chunks false none
  let now ← IO.monoMsNow
  match ← next socket signal (some (deadline - now)) with
  | .chunk octets => collect socket signal deadline (chunks ++ [octets])
  | .closed => return .server chunks true none
  | .interrupted => return .server chunks false (some .shutdown)
  | .expired => return .server chunks false none

/-- Receives until the session ends, and prints the records of what it tells. -/
partial def receive (socket : TCP.Socket.Client) (signal : Signal.Waiter)
    (st : Scenario.State) : IO Scenario.State := do
  if st.inbox.isNone then return st
  let arrival ← try next socket signal none catch _ => pure .closed
  match arrival with
  | .chunk octets =>
    let (notices, st) := st.receive [octets]
    print (Run.records notices)
    receive socket signal st
  | .interrupted => return st.shutdown
  | _ =>
    let (notices, st) := st.serverCloses
    print (Run.records notices)
    return st

def advice : String :=
  "Please ensure:\n  1. TWS or IB Gateway is running\n" ++
    "  2. API connections are enabled in TWS/Gateway settings\n" ++
    "  3. The host and port are correct"

/-- Runs with settings and gives the exit status. An interrupt ends the session. -/
def run (s : Settings) : IO UInt8 := do
  let signal ← Signal.Waiter.mk .sigint true
  let limit := s.timeoutSeconds * 1000
  let dialed ← dial s.host s.port limit
  let peer ← match dialed with
    | none => pure .late
    | some (.error reason) => pure (.missing reason)
    | some (.ok socket) =>
      match Handshake.request (Run.options s) with
      | .error _ => pure (.server [] true none)
      | .ok request =>
        try
          send socket request
          collect socket signal ((← IO.monoMsNow) + limit) []
        catch _ => pure (.server [] true none)
  let (attempt, st) := Scenario.State.connect {} (Run.dial s peer)
  match dialed, attempt.failure with
  | some (.ok socket), none =>
    let (step, st) := Run.start s attempt st
    for frame in step.sent do
      send socket frame
    print step.records
    let st ← receive socket signal st
    print [.stats st.disconnect.counters]
    return Run.finished
  | _, _ =>
    print (Run.records attempt.notices)
    IO.eprintln advice
    return Run.notConnected

def environment : IO (List (String × String)) := do
  let names := Settings.Key.all.filterMap Settings.Key.environmentName?
  names.filterMapM fun name => do
    return (← IO.getEnv name).map (name, ·)

def usage : String :=
  let option (key : Settings.Key) : String :=
    "  " ++ key.argument ++ if key.takesValue then " <VALUE>" else ""
  String.intercalate "\n" ("Usage: brokerwire [OPTIONS]" :: Settings.Key.all.map option)

end BrokerWire.Main

def main (arguments : List String) : IO UInt32 := do
  let given ← BrokerWire.Main.environment
  match BrokerWire.Settings.read arguments fun name => List.lookup name given with
  | .error .help =>
    IO.println BrokerWire.Main.usage
    return (BrokerWire.Run.exitStatus .help).toUInt32
  | .error .wrong =>
    IO.eprintln BrokerWire.Main.usage
    return (BrokerWire.Run.exitStatus .wrong).toUInt32
  | .ok settings => return (← BrokerWire.Main.run settings).toUInt32
