import BrokerWire.Session.Handshake
import BrokerWire.Request.Message

/-!
The state of a client and the steps that change it. Connecting takes several steps, between which
other calls may do theirs, so each attempt has a number: an attempt that is no longer the latest
neither installs a session nor changes the state. The number also stands for the token that cancels
the attempt and the session that comes from it.
-/

namespace BrokerWire

/-- Where a client is. -/
inductive Phase where
  | disconnected
  | connecting
  | connected
  | redirected
  deriving DecidableEq

structure Session where
  attempt : Nat
  serverVersion : ServerVersion
  connectionTime : String
  clientId : Int32
  deriving DecidableEq

structure Client where
  phase : Phase := .disconnected
  session : Option Session := none
  capabilities : Option String := none
  attempt : Nat := 0
  pending : Option Nat := none
  cancelled : List Nat := []
  shutDown : Bool := false
  deriving DecidableEq

namespace Client

/-- Whether an attempt, or the session that came from it, is cancelled. -/
def isCancelled (c : Client) (attempt : Nat) : Bool :=
  c.shutDown || c.cancelled.contains attempt

def cancel (c : Client) (attempt : Nat) : Client :=
  { c with cancelled := attempt :: c.cancelled }

/-- The session that requests go to. -/
def live? (c : Client) : Option Session :=
  match c.phase, c.session with
  | .connected, some s => if c.isCancelled s.attempt then none else some s
  | _, _ => none

/-- Where the client is as seen from outside: a session that was cancelled counts as none. -/
def visiblePhase (c : Client) : Phase :=
  match c.phase, c.session with
  | .connected, some s => if c.isCancelled s.attempt then .disconnected else .connected
  | phase, _ => phase

def isConnected (c : Client) : Bool :=
  c.visiblePhase = .connected

def serverVersion? (c : Client) : Option ServerVersion :=
  c.session.map Session.serverVersion

def connectionTime? (c : Client) : Option String :=
  c.session.map Session.connectionTime

def clientId? (c : Client) : Option Int32 :=
  c.session.map Session.clientId

/-- Whether a new attempt has to be refused because of an earlier one. -/
def isBusy (c : Client) : Bool :=
  c.phase = .connecting || c.live?.isSome

/-- Starts an attempt. A session that has ended gives way. -/
def start? (c : Client) : Option Client :=
  if c.isBusy then none
  else
    some { c with
      phase := .connecting
      attempt := c.attempt + 1
      pending := some (c.attempt + 1)
      session := none }

/-- Installs the session of an attempt, unless the attempt is outdated or cancelled. -/
def install? (c : Client) (s : Session) : Option Client :=
  if c.attempt = s.attempt ∧ !c.isCancelled s.attempt then
    some { c with phase := .connected, pending := none, session := some s }
  else none

/-- Leaves an attempt that failed; an outdated one leaves no trace. -/
def fail (c : Client) (attempt : Nat) (phase : Phase) : Client :=
  if c.attempt = attempt then { c with phase := phase, pending := none } else c

/-- The phase that a failed attempt leads to. -/
def phaseAfter : ApiError → Phase
  | .redirect _ => .redirected
  | _ => .disconnected

def disconnect (c : Client) : Client :=
  { c with
    phase := .disconnected
    attempt := c.attempt + 1
    pending := none
    session := none
    cancelled := c.pending.toList ++ c.cancelled }

def shutdown (c : Client) : Client :=
  { c with shutDown := true }

def refusal : ApiError :=
  .connectFailed "client is shut down"

def abandoned : ApiError :=
  .connectFailed "connect cancelled"

/-- What becomes of a request: a frame for the queue, or a notice of why there is none. -/
def request (c : Client) (queueOpen : Bool) (r : Request) : Except Notice Bytes :=
  match c.live? with
  | none => .error (ClientError.notConnected.notice r.id "")
  | some s =>
    match r.unmet? s.serverVersion with
    | some need => .error (ClientError.outdatedServer.notice r.id need.report)
    | none =>
      match (r.message s.serverVersion).encode with
      | .error fault => .error ((ApiError.ofFrame fault).notice r.id)
      | .ok frame =>
        if queueOpen then .ok frame else .error (ClientError.notConnected.notice r.id "")

end Client

end BrokerWire
