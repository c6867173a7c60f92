import BrokerWire.Session.ApiError
import BrokerWire.Session.Counters

namespace BrokerWire

inductive Write where
  | done
  | failed (reason : String)
  deriving DecidableEq

/-- The sending side of a session: the frames that wait and those that were written, in order, the
counters, and what was reported. -/
structure Outbox where
  queue : List Bytes := []
  written : List Bytes := []
  counters : Counters := {}
  notices : List Notice := []
  deriving DecidableEq

namespace Outbox

/-- How many frames can wait. -/
def capacity : Nat := 10

def push? (o : Outbox) (frame : Bytes) : Option Outbox :=
  if o.queue.length < capacity then some { o with queue := o.queue ++ [frame] } else none

def failure (reason : String) : Notice :=
  (ApiError.io reason).notice ClientError.noRequest

/-- Writes the frame that has waited longest. Writing nothing cannot fail. -/
def step (o : Outbox) (write : Write) : Outbox :=
  match o.queue with
  | [] => o
  | frame :: queue =>
    match if frame = [] then .done else write with
    | .done =>
      { o with
        queue := queue
        written := o.written ++ [frame]
        counters := o.counters.sent frame.length }
    | .failed reason => { o with queue := queue, notices := o.notices ++ [failure reason] }

end Outbox

end BrokerWire
