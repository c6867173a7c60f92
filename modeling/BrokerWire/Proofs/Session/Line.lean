import BrokerWire.Proofs.Session.Transcript
import BrokerWire.Session.Client
import BrokerWire.Session.Outbox

/-!
One session as its tasks share it. The call that connects, the task that writes, the task that
reads and the calls that issue requests each do one deed at a time, in whatever order; `Line.can`
says when a deed is possible and `Line.after` what it does. A write delivers its whole frame or
nothing of it, unless the session is cancelled meanwhile. Main statement: taking frame after frame
is what an inbox does with a chunk (`receive_of_takeFrame?`).
-/

namespace BrokerWire

namespace Inbox

/-- Takes one frame off the stream: what is to be told of it, the sizes of the frames taken, and the
inbox behind it. Nothing can be taken while no frame is complete. -/
def takeFrame? (i : Inbox) : Option (List Notice × List Nat × Inbox) :=
  match i.ending with
  | some _ => none
  | none =>
    match i.scanner.next with
    | (.ok none, _) => none
    | (.error fault, rest) =>
      some ([(ApiError.ofFrame fault).notice ClientError.noRequest, .connectionClosed], [],
        { i with scanner := rest, ending := some .oversize })
    | (.ok (some payload), rest) =>
      let (notices, ending) := arrive i.version payload
      some (notices, [headerLength + payload.length],
        { i with scanner := rest, ending := ending })

/-- What can be taken at once is taken frame by frame. -/
theorem receive_of_takeFrame? (i : Inbox) :
    i.receive [] =
      match i.takeFrame? with
      | none => ([], [], i)
      | some (notices, frames, next) =>
        (notices ++ (next.receive []).1, frames ++ (next.receive []).2.1,
          (next.receive []).2.2) := by
  obtain ⟨version, scanner, ending⟩ := i
  cases ending with
  | some ending => rfl
  | none =>
    have hpush : scanner.push [] = scanner := by
      obtain ⟨buffer⟩ := scanner
      rw [Scanner.push, List.append_nil]
    obtain ⟨n, ha, hn, hnext⟩ | ⟨hbig, hc, hnext⟩ | ⟨payload, rest, hp, hs, hnext⟩ :=
      Scanner.next_cases scanner
    · simp only [receive, takeFrame?, hpush, hnext, drain_isOversize version ha hn, notice_ofFrame,
        List.append_nil]
    · simp only [receive, takeFrame?, hpush, hnext, drain_of_not_hasFrame version hbig hc]
    · have hdrain := drain_octets version rest hp
      rw [← hs] at hdrain
      have hrest : Scanner.push ⟨rest⟩ [] = ⟨rest⟩ := by rw [Scanner.push, List.append_nil]
      simp only [receive, takeFrame?, hpush, hnext, hdrain]
      cases arrive version payload with
      | mk notices ending =>
        cases ending with
        | some ending => simp only [List.append_nil]
        | none => simp only [hrest, List.singleton_append]

theorem connectAck_not_mem_arrive (sv : ServerVersion) (payload : Bytes) :
    .connectAck ∉ (arrive sv payload).1 := by
  unfold arrive
  split
  · exact List.not_mem_nil
  · split
    · next event hd => exact fun hm => (Event.data_of_decode hd _ hm).1 rfl
    · simp [ApiError.notice, ClientError.notice]

/-- What is told of a frame is not that the session opens. -/
theorem connectAck_not_mem_takeFrame? {i next : Inbox} {notices : List Notice} {frames : List Nat}
    (h : i.takeFrame? = some (notices, frames, next)) : .connectAck ∉ notices := by
  unfold takeFrame? at h
  split at h
  · cases h
  · split at h
    · cases h
    · cases h
      simp [ApiError.notice, ClientError.notice]
    · cases h
      exact connectAck_not_mem_arrive _ _

theorem version_takeFrame? {i next : Inbox} {notices : List Notice} {frames : List Nat}
    (h : i.takeFrame? = some (notices, frames, next)) : next.version = i.version := by
  unfold takeFrame? at h
  split at h
  · cases h
  · split at h <;> cases h <;> rfl

theorem version_close (i : Inbox) : i.close.2.version = i.version := by
  unfold close
  split <;> rfl

end Inbox

/-- Who tells the application something: the call that connects, the task that writes, the task that
reads, or a call that issues a request. -/
inductive Teller where
  | opener
  | writer
  | reader
  | caller
  deriving DecidableEq

/-- What the counters of a client go by. -/
inductive Entry where
  | sent (session : Nat) (octets : Bytes)
  | received (session : Nat) (size : Nat)
  | reset
  deriving DecidableEq

/-- Counts what happened. -/
def Counters.enter (c : Counters) : Entry → Counters
  | .sent _ octets => c.sent octets.length
  | .received _ size => c.received size
  | .reset => {}

/-- What the tasks of one session share, and what has come of it. -/
structure Line where
  /-- What opened the conversation, once it is sent. -/
  greeting : Option Bytes := none
  /-- The receiving side, from the server's answer on. -/
  inbox : Option Inbox := none
  /-- Whether somebody takes frames from the queue. -/
  isOpen : Bool := false
  queue : List Bytes := []
  /-- The frame that is being written. -/
  writing : Option Bytes := none
  isListening : Bool := false
  /-- What the call that connects is about to tell. -/
  due : Option Notice := none
  /-- What the task that reads is about to tell. -/
  saying : List Notice := []
  /-- All frames that were ever put into the queue. -/
  queued : List Bytes := []
  /-- All frames that were written or not, and how that went. -/
  tried : List (Bytes × Write) := []
  /-- What was sent behind the greeting. -/
  octets : Bytes := []
  /-- What was read. -/
  heard : Bytes := []
  told : List (Teller × Notice) := []
  deriving DecidableEq

/-- What one task does with a session. -/
inductive Deed where
  | greet (options : Option String)
  | hearAnswer (chunks : List Bytes)
  | start
  | queueStart (agreed : Handshake) (clientId : Int32) (capabilities : Option String)
  | findClosed
  | owe (notice : Notice)
  /-- The call that connects tells what it owes. -/
  | pay
  /-- The call that connects ends, and the task that reads starts if the session still lives. -/
  | listen (lives : Bool)
  | enqueue (frame : Bytes)
  | refuse (notice : Notice)
  /-- The task that writes takes a frame. -/
  | take
  | finish (write : Write)
  /-- The task that writes stops, perhaps within a frame. -/
  | stop (count : Nat)
  | fill (chunk : Bytes)
  | receive
  /-- The stream ends or, for a reason, fails. -/
  | lose (reason : Option String)
  | say
  | hush
  | findSpent
  deriving DecidableEq

/-- Whether a deed leaves what the session was opened with: it neither hears the answer nor puts a
frame into the queue, and the call that connects has nothing more to tell. -/
def Deed.isSteady : Deed → Bool
  | .hearAnswer _ => false
  | .queueStart _ _ _ => false
  | .owe _ => false
  | .enqueue _ => false
  | _ => true

/-- Whether a deed leaves the sending side of its session. -/
def Deed.isQuiet : Deed → Bool
  | .greet _ => false
  | .start => false
  | .queueStart _ _ _ => false
  | .enqueue _ => false
  | .take => false
  | .finish _ => false
  | .stop _ => false
  | _ => true

/-- A session behind a deed, with the counters, and what went into the ledger. -/
structure Outcome where
  line : Line
  counters : Counters
  entries : List Entry := []

namespace Line

def tell (line : Line) (teller : Teller) (notices : List Notice) : Line :=
  { line with told := line.told ++ notices.map fun notice => (teller, notice) }

def toldBy (line : Line) (teller : Teller) : List Notice :=
  line.told.filterMap fun entry => if entry.1 = teller then some entry.2 else none

/-- What the task that reads can take. -/
def nextFrame? (line : Line) : Option (List Notice × List Nat × Inbox) :=
  line.inbox.bind Inbox.takeFrame?

/-- Whether the task that reads waits for the stream or is about to take a frame. -/
def isReading (line : Line) : Bool :=
  line.isListening && line.saying.isEmpty && line.inbox.any fun inbox => inbox.ending.isNone

/-- Whether the task that reads has ended the session and told why. -/
def isSpent (line : Line) : Bool :=
  line.saying.all (· == .connectionClosed) && line.inbox.any fun inbox => inbox.ending.isSome

/-- Whether a frame finds room in the queue. -/
def hasRoom (line : Line) : Bool :=
  line.isOpen && decide (line.queue.length < Outbox.capacity)

def enqueue (line : Line) (frame : Bytes) : Line :=
  match Outbox.push? { queue := line.queue } frame with
  | none => line
  | some o => { line with queue := o.queue, queued := line.queued ++ [frame] }

/-- Whether a deed is possible. -/
def can (line : Line) : Deed → Bool
  | .greet options => line.greeting.isNone && (Handshake.request options).isOk
  | .hearAnswer chunks => line.greeting.isSome && (Handshake.await {} chunks).2.2.isEmpty
  | .start => line.greeting.isSome
  | .queueStart agreed clientId capabilities =>
    line.hasRoom && (Handshake.startApi agreed.serverVersion clientId capabilities).encode.isOk
  | .findClosed => !line.isOpen
  | .owe _ => true
  | .pay => line.due.isSome
  | .listen _ => line.due.isNone
  | .enqueue _ => line.hasRoom
  | .refuse _ => true
  | .take => line.isOpen && line.writing.isNone && !line.queue.isEmpty
  | .finish _ => line.writing.isSome
  | .stop _ => line.isOpen
  | .fill chunk => line.isReading && line.nextFrame?.isNone && !chunk.isEmpty
  | .receive => line.isReading && line.nextFrame?.isSome
  | .lose _ => line.isReading && line.nextFrame?.isNone
  | .say => !line.saying.isEmpty
  | .hush => line.isReading
  | .findSpent => line.isSpent

/-- What a deed does. -/
def after (line : Line) (number : Nat) (c : Counters) : Deed → Outcome
  | .greet options =>
    match Handshake.request options with
    | .error _ => ⟨line, c, []⟩
    | .ok request =>
      ⟨{ line with greeting := some request }, c.sent request.length, [.sent number request]⟩
  | .hearAnswer chunks =>
    match Handshake.await {} chunks with
    | (some (.ok agreed), left, _) =>
      let inbox : Inbox := { version := agreed.serverVersion, scanner := left }
      ⟨{ line with heard := chunks.flatten, inbox := some inbox }, c, []⟩
    | _ => ⟨{ line with heard := chunks.flatten }, c, []⟩
  | .start => ⟨{ line with isOpen := true }, c, []⟩
  | .queueStart agreed clientId capabilities =>
    match (Handshake.startApi agreed.serverVersion clientId capabilities).encode with
    | .error _ => ⟨line, c, []⟩
    | .ok frame => ⟨line.enqueue frame, c, []⟩
  | .findClosed => ⟨line, c, []⟩
  | .owe notice => ⟨{ line with due := some notice }, c, []⟩
  | .pay => ⟨{ line.tell .opener line.due.toList with due := none }, c, []⟩
  | .listen lives => ⟨{ line with isListening := lives }, c, []⟩
  | .enqueue frame => ⟨line.enqueue frame, c, []⟩
  | .refuse notice => ⟨line.tell .caller [notice], c, []⟩
  | .take => ⟨{ line with writing := line.queue.head?, queue := line.queue.tail }, c, []⟩
  | .finish write =>
    let o := Outbox.step { queue := line.writing.toList, counters := c } write
    ⟨{ line.tell .writer o.notices with
        writing := none
        tried := line.tried ++ line.writing.toList.map fun frame => (frame, write)
        octets := line.octets ++ o.written.flatten },
      o.counters, o.written.map (.sent number)⟩
  | .stop count =>
    ⟨{ line with
        isOpen := false
        writing := none
        octets := line.octets ++ (line.writing.getD []).take count }, c, []⟩
  | .fill chunk =>
    ⟨{ line with
        inbox := line.inbox.map fun inbox => { inbox with scanner := inbox.scanner.push chunk }
        heard := line.heard ++ chunk }, c, []⟩
  | .receive =>
    match line.nextFrame? with
    | none => ⟨line, c, []⟩
    | some (notices, sizes, inbox) =>
      ⟨{ line with saying := notices, inbox := some inbox }, c.receivedAll sizes,
        sizes.map (.received number)⟩
  | .lose reason =>
    match line.inbox with
    | none => ⟨line, c, []⟩
    | some inbox =>
      let failure := reason.map fun text => (ApiError.io text).notice ClientError.noRequest
      ⟨{ line with saying := failure.toList ++ inbox.close.1, inbox := some inbox.close.2 }, c, []⟩
  | .say =>
    ⟨{ line.tell .reader line.saying.head?.toList with saying := line.saying.tail }, c, []⟩
  | .hush => ⟨{ line with isListening := false }, c, []⟩
  | .findSpent => ⟨line, c, []⟩

theorem enqueue_of_hasRoom {line : Line} (h : line.hasRoom = true) (frame : Bytes) :
    line.enqueue frame =
      { line with queue := line.queue ++ [frame], queued := line.queued ++ [frame] } := by
  rw [hasRoom, Bool.and_eq_true, decide_eq_true_eq] at h
  rw [enqueue, Outbox.push?, if_pos h.2]

/-- The counters go by the entries. -/
theorem counters_after (line : Line) (number : Nat) (c : Counters) (deed : Deed) :
    (line.after number c deed).counters =
      (line.after number c deed).entries.foldl Counters.enter c := by
  cases deed with
  | greet options =>
    simp only [after]
    split <;> rfl
  | hearAnswer chunks =>
    simp only [after]
    split <;> rfl
  | queueStart agreed clientId capabilities =>
    simp only [after]
    split <;> rfl
  | finish write =>
    cases hwriting : line.writing with
    | none => simp [after, hwriting, Outbox.step]
    | some frame =>
      simp only [after, hwriting, Option.toList_some, Outbox.step]
      split <;> rfl
  | receive =>
    simp only [after]
    split
    · rfl
    · next notices sizes inbox _ =>
      dsimp only
      rw [List.foldl_map]
      rfl
  | lose reason =>
    simp only [after]
    split <;> rfl
  | _ => rfl

/-- What the call that connects has told and is about to tell. -/
def opener (line : Line) : List Notice :=
  line.toldBy .opener ++ line.due.toList

theorem toldBy_tell (line : Line) (teller who : Teller) (notices : List Notice) :
    (line.tell teller notices).toldBy who =
      line.toldBy who ++ if teller = who then notices else [] := by
  unfold toldBy tell
  dsimp only
  rw [List.filterMap_append, List.filterMap_map]
  congr 1
  split
  · next h => exact (List.filterMap_congr fun notice _ => if_pos h).trans (List.filterMap_some)
  · next h => exact List.filterMap_eq_nil_iff.mpr fun notice _ => if_neg h

theorem enqueue_frame (line : Line) (frame : Bytes) :
    (line.enqueue frame).inbox = line.inbox ∧ (line.enqueue frame).opener = line.opener := by
  unfold enqueue
  split <;> exact ⟨rfl, rfl⟩

/-- What most deeds leave: the frames that were queued, the version that was agreed on, and all that
the call that connects tells, whether it has told it yet or not. -/
theorem isSteady_after (deed : Deed) (hdeed : deed.isSteady = true) (line : Line) (number : Nat)
    (c : Counters) :
    (line.after number c deed).line.queued = line.queued ∧
      (line.after number c deed).line.inbox.map Inbox.version = line.inbox.map Inbox.version ∧
      (line.after number c deed).line.opener = line.opener := by
  have htell (teller : Teller) (hteller : teller ≠ .opener) (notices : List Notice) :
      (line.tell teller notices).toldBy .opener ++ line.due.toList = line.opener := by
    rw [toldBy_tell, if_neg hteller, List.append_nil, opener]
  cases deed with
  | hearAnswer chunks => cases hdeed
  | queueStart agreed clientId capabilities => cases hdeed
  | owe notice => cases hdeed
  | enqueue frame => cases hdeed
  | greet options =>
    simp only [after]
    split <;> exact ⟨rfl, rfl, rfl⟩
  | pay =>
    refine ⟨rfl, rfl, ?_⟩
    change (line.tell .opener line.due.toList).toldBy .opener ++ [] = line.opener
    rw [toldBy_tell, if_pos rfl, List.append_nil, opener]
  | refuse notice => exact ⟨rfl, rfl, htell .caller nofun [notice]⟩
  | finish write => exact ⟨rfl, rfl, htell .writer nofun _⟩
  | fill chunk =>
    refine ⟨rfl, ?_, rfl⟩
    simp only [after, Option.map_map]
    rfl
  | receive =>
    simp only [after]
    split
    · exact ⟨rfl, rfl, rfl⟩
    · next notices sizes inbox hframe =>
      obtain ⟨before, hbefore, htake⟩ := Option.bind_eq_some_iff.mp hframe
      refine ⟨rfl, ?_, rfl⟩
      rw [hbefore, Option.map_some, Option.map_some, Inbox.version_takeFrame? htake]
  | lose reason =>
    simp only [after]
    split
    · exact ⟨rfl, rfl, rfl⟩
    · next inbox hinbox =>
      refine ⟨rfl, ?_, rfl⟩
      rw [hinbox, Option.map_some, Option.map_some, Inbox.version_close]
  | say => exact ⟨rfl, rfl, htell .reader nofun _⟩
  | _ => exact ⟨rfl, rfl, rfl⟩

/-- All that a quiet deed changes, and what it enters into the ledger. -/
theorem isQuiet_after (deed : Deed) (hdeed : deed.isQuiet = true) (line : Line) (number : Nat)
    (c : Counters) :
    (∃ inbox isListening due saying heard told,
      (line.after number c deed).line =
        { line with
          inbox := inbox
          isListening := isListening
          due := due
          saying := saying
          heard := heard
          told := told } ∧
      ({ line with told := told } : Line).toldBy .writer = line.toldBy .writer) ∧
    ∀ entry ∈ (line.after number c deed).entries, ∃ size, entry = .received number size := by
  have htell (teller : Teller) (hteller : teller ≠ .writer) (notices : List Notice) :
      (line.tell teller notices).toldBy .writer = line.toldBy .writer := by
    rw [toldBy_tell, if_neg hteller, List.append_nil]
  have hnone : ∀ entry ∈ ([] : List Entry), ∃ size, entry = .received number size :=
    fun entry hm => absurd hm List.not_mem_nil
  cases deed with
  | greet options => cases hdeed
  | start => cases hdeed
  | queueStart agreed clientId capabilities => cases hdeed
  | enqueue frame => cases hdeed
  | take => cases hdeed
  | finish write => cases hdeed
  | stop count => cases hdeed
  | hearAnswer chunks =>
    simp only [after]
    split <;> exact ⟨⟨_, _, _, _, _, _, rfl, rfl⟩, hnone⟩
  | receive =>
    simp only [after]
    split
    · exact ⟨⟨_, _, _, _, _, _, rfl, rfl⟩, hnone⟩
    · refine ⟨⟨_, _, _, _, _, _, rfl, rfl⟩, fun entry hm => ?_⟩
      obtain ⟨size, -, rfl⟩ := List.mem_map.mp hm
      exact ⟨size, rfl⟩
  | lose reason =>
    simp only [after]
    split <;> exact ⟨⟨_, _, _, _, _, _, rfl, rfl⟩, hnone⟩
  | pay => exact ⟨⟨_, _, _, _, _, _, rfl, htell .opener (by decide) _⟩, hnone⟩
  | refuse notice => exact ⟨⟨_, _, _, _, _, _, rfl, htell .caller (by decide) _⟩, hnone⟩
  | say => exact ⟨⟨_, _, _, _, _, _, rfl, htell .reader (by decide) _⟩, hnone⟩
  | _ => exact ⟨⟨_, _, _, _, _, _, rfl, rfl⟩, hnone⟩

theorem queued_isPrefix_enqueue (line : Line) (frame : Bytes) :
    line.queued <+: (line.enqueue frame).queued := by
  unfold enqueue
  split
  · exact List.prefix_rfl
  · exact List.prefix_append _ _

/-- What was queued stays in front of what is queued later. -/
theorem queued_isPrefix_after (line : Line) (number : Nat) (c : Counters) (deed : Deed) :
    line.queued <+: (line.after number c deed).line.queued := by
  cases deed with
  | hearAnswer chunks =>
    simp only [after]
    split <;> exact List.prefix_rfl
  | queueStart agreed clientId capabilities =>
    simp only [after]
    split
    · exact List.prefix_rfl
    · next frame _ => exact line.queued_isPrefix_enqueue frame
  | owe notice => exact List.prefix_rfl
  | enqueue frame => exact line.queued_isPrefix_enqueue frame
  | _ => exact ⟨[], (List.append_nil _).trans (isSteady_after _ rfl line number c).1.symm⟩

end Line

end BrokerWire
