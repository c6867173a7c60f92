import BrokerWire.Report.Record
import BrokerWire.Report.Settings
import BrokerWire.Session.Scenario

namespace BrokerWire.Run

def summaryId : Int32 := 9001

def summaryGroup : String := "All"

def summaryTags : String :=
  "NetLiquidation,TotalCashValue,BuyingPower,AvailableFunds,GrossPositionValue"

/-- The requests of a run. -/
def requests (s : Settings) : List Request :=
  (if s.positions then [.positions] else []) ++
    if s.accountSummary then [.accountSummary summaryId summaryGroup summaryTags] else []

def options (s : Settings) : Option String :=
  if s.connectOptions = "" then none else some s.connectOptions

def address (s : Settings) : String :=
  s.host ++ ":" ++ toString s.port

def dial (s : Settings) (peer : Scenario.Peer) : Scenario.Dial where
  address := address s
  clientId := s.clientId
  options := options s
  limit := some (s.timeoutSeconds * 1000)
  peer := peer

def finished : UInt8 := 0

/-- The exit status of a run that could not connect. -/
def notConnected : UInt8 := 1

def exitStatus : NoRun → UInt8
  | .help => 0
  | .wrong => 2

def records (notices : List Notice) : List Record :=
  notices.filterMap Record.ofNotice

def opened (c : Client) : Record :=
  .connected c.serverVersion? c.connectionTime?

/-- Issues requests one after the other. -/
def ask : List Request → Scenario.State → Scenario.Turn × Scenario.State
  | [], st => ({}, st)
  | r :: rest, st =>
    let (turn, st) := st.request r
    let (later, st) := ask rest st
    (⟨turn.notices ++ later.notices, turn.sent ++ later.sent⟩, st)

structure Step where
  sent : List Bytes
  records : List Record
  deriving DecidableEq

/-- Begins a run whose attempt has opened a session: the session is reported first, then what came
with it, and the requests follow. -/
def start (s : Settings) (attempt : Scenario.Attempt) (st : Scenario.State) :
    Step × Scenario.State :=
  let first := opened st.client
  let (turn, st) := ask (requests s) st
  (⟨attempt.sent ++ turn.sent, first :: records (attempt.notices ++ turn.notices)⟩, st)

/-- What a run does: what it sends before and after the server's answer, what it prints, and its
exit status. -/
structure Outcome where
  request : Option Bytes
  sent : List Bytes
  records : List Record
  status : UInt8
  deriving DecidableEq

/-- Plays a run against a server that sends `chunks` behind the requests and then closes. A run
whose connection fails prints the failure and nothing else. -/
def play (s : Settings) (peer : Scenario.Peer) (chunks : List Bytes) : Outcome :=
  let (attempt, st) := Scenario.State.connect {} (dial s peer)
  match attempt.failure with
  | some _ => ⟨attempt.request, [], records attempt.notices, notConnected⟩
  | none =>
    let (step, st) := start s attempt st
    let (received, st) := st.receive chunks
    let (final, st) := st.serverCloses
    ⟨attempt.request, step.sent,
      step.records ++ records (received ++ final) ++ [.stats st.disconnect.counters],
      finished⟩

end BrokerWire.Run
