import BrokerWire.Session.ApiError
import BrokerWire.Session.Counters
import BrokerWire.Event.Decode

namespace BrokerWire

inductive Ending where
  | undecodable
  | oversize
  | closed
  deriving DecidableEq

/-- What became of the frames at hand: the notices, the sizes of the frames that were taken, whether
they ended the session, and what is left. -/
structure Delivery where
  notices : List Notice
  frames : List Nat
  ending : Option Ending
  scanner : Scanner

namespace Scanner

theorem next_length {s rest : Scanner} {payload : Bytes}
    (h : s.next = (.ok (some payload), rest)) :
    headerLength + payload.length + rest.buffer.length = s.buffer.length := by
  unfold next at h
  split at h
  · next a b c d tail hb =>
    dsimp only at h
    split at h
    · simp at h
    · split at h
      · simp at h
      · simp only [Prod.mk.injEq, Except.ok.injEq, Option.some.injEq] at h
        obtain ⟨rfl, rfl⟩ := h
        simp [hb, headerLength]
        omega
  · simp at h

end Scanner

structure Inbox where
  version : ServerVersion
  scanner : Scanner := {}
  ending : Option Ending := none
  deriving DecidableEq

namespace Inbox

/-- What a payload leads to. An empty one leads to nothing; one that cannot be decoded ends the
session, since nothing behind it could be trusted. -/
def arrive (sv : ServerVersion) (payload : Bytes) : List Notice × Option Ending :=
  if payload = [] then ([], none)
  else
    match Event.decode sv payload with
    | .ok event => (event.notices, none)
    | .error fault =>
      ([(ApiError.ofField fault).notice ClientError.noRequest], some .undecodable)

/-- Takes all complete frames. -/
def drain (sv : ServerVersion) (s : Scanner) : Delivery :=
  match _h : s.next with
  | (.error fault, rest) =>
    ⟨[(ApiError.ofFrame fault).notice ClientError.noRequest, .connectionClosed], [],
      some .oversize, rest⟩
  | (.ok none, rest) => ⟨[], [], none, rest⟩
  | (.ok (some payload), rest) =>
    let size := headerLength + payload.length
    match arrive sv payload with
    | (notices, some ending) => ⟨notices, [size], some ending, rest⟩
    | (notices, none) =>
      let d := drain sv rest
      ⟨notices ++ d.notices, size :: d.frames, d.ending, d.scanner⟩
termination_by s.buffer.length
decreasing_by
  have := Scanner.next_length _h
  simp only [headerLength] at this
  omega

/-- Receives what the stream delivered. Nothing is received behind the end. -/
def receive (i : Inbox) (chunk : Bytes) : List Notice × List Nat × Inbox :=
  match i.ending with
  | some _ => ([], [], i)
  | none =>
    let d := drain i.version (i.scanner.push chunk)
    (d.notices, d.frames, { i with scanner := d.scanner, ending := d.ending })

def receiveAll (i : Inbox) : List Bytes → List Notice × List Nat × Inbox
  | [] => ([], [], i)
  | chunk :: chunks =>
    let (notices, frames, i) := i.receive chunk
    let (later, laterFrames, i) := i.receiveAll chunks
    (notices ++ later, frames ++ laterFrames, i)

def close (i : Inbox) : List Notice × Inbox :=
  match i.ending with
  | some _ => ([], i)
  | none => ([.connectionClosed], { i with ending := some .closed })

end Inbox

def Counters.receivedAll (c : Counters) (frames : List Nat) : Counters :=
  frames.foldl Counters.received c

end BrokerWire
