import BrokerWire.Session.Client
import BrokerWire.Session.Inbox
import BrokerWire.Session.Outbox

namespace BrokerWire.Scenario

/-- What happens while an attempt waits for a server that stays silent. -/
inductive Interruption where
  | disconnect
  | shutdown
  | connect
  deriving DecidableEq

/-- What a client meets when it dials: nobody, for a reason; nobody in time; or a server. A server
answers in chunks and may leave behind them; an interruption may come while it is silent. -/
inductive Peer where
  | missing (reason : String)
  | late
  | server (reply : List Bytes) (leaves : Bool) (meanwhile : Option Interruption)
  deriving DecidableEq

def refused : String := "Connection refused (os error 111)"

def unreachable : String := "Network is unreachable (os error 101)"

/-- An attempt to connect. The wait for the answer may have a limit in milliseconds. -/
structure Dial where
  address : String
  clientId : Int32
  options : Option String := none
  limit : Option Nat := none
  peer : Peer
  deriving DecidableEq

/-- Where a scenario stands: the client, the counters, the receiving side of the session, and
whether the server still holds its end of a connection. Each step of a scenario is played until
everything that it causes has happened. -/
structure State where
  client : Client := {}
  counters : Counters := {}
  inbox : Option Inbox := none
  serverHolds : Bool := false
  deriving DecidableEq

structure Turn where
  notices : List Notice := []
  sent : List Bytes := []
  deriving DecidableEq

/-- What an attempt led to: also what was sent before the answer, the failure of a second attempt
in between, and the failure of this one. -/
structure Attempt extends Turn where
  request : Option Bytes := none
  inner : Option ApiError := none
  failure : Option ApiError := none
  deriving DecidableEq

def thousandths (n : Nat) : List Char :=
  let digit (k : Nat) := Char.ofNat (48 + k % 10)
  if n % 1000 = 0 then []
  else if n % 100 = 0 then ['.', digit (n / 100)]
  else if n % 10 = 0 then ['.', digit (n / 100), digit (n / 10)]
  else ['.', digit (n / 100), digit (n / 10), digit n]

/-- A time in milliseconds, in the largest unit that fits. -/
def durationText (ms : Nat) : String :=
  if ms = 0 then "0ns"
  else if ms < 1000 then toString ms ++ "ms"
  else toString (ms / 1000) ++ String.ofList (thousandths (ms % 1000)) ++ "s"

/-- The failure of an attempt to which nobody answers. -/
def noAnswer (address reason : String) : ApiError :=
  .connectFailed ("failed to connect to " ++ address ++ ": " ++ reason)

def notTaken (address : String) (limit : Option Nat) : ApiError :=
  .timeout
    ("connecting to " ++ address ++ " took longer than " ++ durationText (limit.getD 0))

/-- The failure of an attempt whose answer did not come in time. A wait without a limit ends only by
being cancelled. -/
def expired : Option Nat → ApiError
  | some ms => .timeout ("no handshake reply within " ++ durationText ms)
  | none => Client.abandoned

def State.fail (st : State) (attempt : Nat) (e : ApiError) : State :=
  { st with client := st.client.fail attempt (Client.phaseAfter e), inbox := none }

/-- Ends the session of an inbox that has ended. -/
def State.settle (st : State) : State :=
  match st.inbox, st.client.session with
  | some inbox, some s =>
    if inbox.ending.isSome then { st with client := st.client.cancel s.attempt, inbox := none }
    else st
  | _, _ => st

def State.receive (st : State) (chunks : List Bytes) : List Notice × State :=
  match st.inbox with
  | none => ([], st)
  | some inbox =>
    let (notices, frames, inbox) := inbox.receiveAll chunks
    (notices, { st with
      counters := st.counters.receivedAll frames, inbox := some inbox }.settle)

def State.serverCloses (st : State) : List Notice × State :=
  let st := { st with serverHolds := false }
  match st.inbox with
  | none => ([], st)
  | some inbox =>
    let (notices, inbox) := inbox.close
    (notices, { st with inbox := some inbox }.settle)

def State.disconnect (st : State) : State :=
  let client :=
    match st.client.session with
    | some s => st.client.disconnect.cancel s.attempt
    | none => st.client.disconnect
  { st with client := client, inbox := none }

def State.shutdown (st : State) : State :=
  { st with client := st.client.shutdown, inbox := none }

/-- Interrupts an attempt under way: the notices, the failure of a second attempt, and the state. -/
def State.interrupt (st : State) : Interruption → List Notice × Option ApiError × State
  | .disconnect => ([], none, st.disconnect)
  | .shutdown => ([], none, st.shutdown)
  | .connect =>
    ([ClientError.alreadyConnected.notice ClientError.noRequest ""], some .alreadyConnected,
      st.disconnect)

/-- Starts the session of an attempt whose handshake is done. What came behind the answer is
received at once. -/
def State.open (st : State) (d : Dial) (request : Bytes) (h : Handshake) (left : Scanner)
    (chunks : List Bytes) (leaves : Bool) : Attempt × State :=
  let attempt := st.client.attempt
  let failed (e : ApiError) : Attempt × State :=
    ({ notices := [e.notice ClientError.noRequest], request := some request, failure := some e },
      st.fail attempt e)
  match (Handshake.startApi h.serverVersion d.clientId st.client.capabilities).encode with
  | .error fault => failed (.ofFrame fault)
  | .ok frame =>
    match st.client.install? ⟨attempt, h.serverVersion, h.connectionTime, d.clientId⟩ with
    | none => failed Client.abandoned
    | some client =>
      let st := { st with
        client := client
        counters := st.counters.sent frame.length
        inbox := some { version := h.serverVersion, scanner := left } }
      let (early, st) := st.receive ([] :: chunks)
      let (final, st) := if leaves then st.serverCloses else ([], st)
      ({ notices := .connectAck :: early ++ final, sent := [frame], request := some request }, st)

def State.await (st : State) (d : Dial) (request : Bytes) (reply : List Bytes) (leaves : Bool)
    (meanwhile : Option Interruption) : Attempt × State :=
  let attempt := st.client.attempt
  match Handshake.await {} reply with
  | (some (.ok h), left, chunks) => st.open d request h left chunks leaves
  | (outcome, _, _) =>
    let (early, inner, st, e) :=
      match outcome, meanwhile with
      | some (.error e), _ => (([] : List Notice), (none : Option ApiError), st, e)
      | _, some interruption =>
        let (early, inner, st) := st.interrupt interruption
        (early, inner, st, Client.abandoned)
      | _, none => ([], none, st, if leaves then Handshake.serverClosed else expired d.limit)
    ({ notices := early ++ [e.notice ClientError.noRequest]
       request := some request
       inner := inner
       failure := some e },
      st.fail attempt e)

def State.connect (st : State) (d : Dial) : Attempt × State :=
  let refuse (e : ApiError) (n : Notice) : Attempt := { notices := [n], failure := some e }
  if st.client.shutDown then
    (refuse Client.refusal (Client.refusal.notice ClientError.noRequest), st)
  else
    match st.client.start? with
    | none =>
      (refuse .alreadyConnected (ClientError.alreadyConnected.notice ClientError.noRequest ""), st)
    | some client =>
      let st := { st with client := client, inbox := none }
      match d.peer with
      | .missing reason =>
        let e := noAnswer d.address reason
        (refuse e (e.notice ClientError.noRequest), st.fail client.attempt e)
      | .late =>
        let e := notTaken d.address d.limit
        (refuse e (e.notice ClientError.noRequest), st.fail client.attempt e)
      | .server reply leaves meanwhile =>
        let st := { st with serverHolds := !leaves }
        match Handshake.request d.options with
        | .error fault =>
          let e := ApiError.ofFrame fault
          ({ refuse e (e.notice ClientError.noRequest) with request := some [] },
            st.fail client.attempt e)
        | .ok request =>
          { st with counters := st.counters.sent request.length }.await d request reply leaves
            meanwhile

def State.request (st : State) (r : Request) : Turn × State :=
  match st.client.request true r with
  | .error n => ({ notices := [n] }, st)
  | .ok frame => ({ sent := [frame] }, { st with counters := st.counters.sent frame.length })

end BrokerWire.Scenario
