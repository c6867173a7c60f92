import BrokerWire.Proofs.Session.Opening
import BrokerWire.Proofs.Session.Reachable
import BrokerWire.Proofs.Session.Transcript

namespace BrokerWire.Scenario

/-- What the session of a state is still to tell if `later` arrives and the server closes behind
it. -/
def State.outlook (st : State) (later : Bytes) : List Notice :=
  match st.inbox with
  | none => []
  | some inbox => inbox.outlook later

/-- Whether the session of a state has taken all that it could take. -/
def State.IsDrained (st : State) : Prop :=
  ∀ inbox ∈ st.inbox, inbox.IsDrained

/-- Ending the session of an inbox that has ended changes nothing of what is told. -/
theorem outlook_settle (st : State) (later : Bytes) :
    st.settle.outlook later = st.outlook later := by
  unfold State.settle
  split
  · next inbox s hinbox _ =>
    split
    · next hended =>
      obtain ⟨ending, hend⟩ := Option.isSome_iff_exists.mp hended
      simp [State.outlook, hinbox, Inbox.outlook, hend]
    · rfl
  · rfl

theorem isDrained_settle {st : State} (h : st.IsDrained) : st.settle.IsDrained := by
  unfold State.settle
  split
  · split
    · exact nofun
    · exact h
  · exact h

theorem outlook_receive (st : State) (chunks : List Bytes) (later : Bytes) :
    st.outlook (chunks.flatten ++ later) =
      (st.receive chunks).1 ++ (st.receive chunks).2.outlook later := by
  unfold State.receive
  cases h : st.inbox with
  | none => simp [State.outlook, h]
  | some inbox =>
    dsimp only
    rw [outlook_settle]
    simp only [State.outlook, h]
    exact Inbox.outlook_receiveAll inbox chunks later

theorem isDrained_receive {st : State} (h : st.IsDrained) (chunks : List Bytes) :
    (st.receive chunks).2.IsDrained := by
  unfold State.receive
  split
  · exact h
  · next inbox hinbox =>
    refine isDrained_settle ?_
    intro other hm
    cases hm
    exact Inbox.isDrained_receiveAll (h inbox hinbox) chunks

/-- A session is drained as soon as it has received anything, even nothing at all. -/
theorem isDrained_receive_cons (st : State) (chunk : Bytes) (chunks : List Bytes) :
    (st.receive (chunk :: chunks)).2.IsDrained := by
  unfold State.receive
  split
  · next hnone =>
    intro inbox hm
    rw [hnone] at hm
    cases hm
  · next inbox _ =>
    refine isDrained_settle ?_
    intro other hm
    cases hm
    exact Inbox.isDrained_receiveAll (Inbox.isDrained_receive inbox chunk) chunks

theorem serverCloses_notices {st : State} (h : st.IsDrained) :
    st.serverCloses.1 = st.outlook [] := by
  unfold State.serverCloses
  dsimp only
  cases hinbox : st.inbox with
  | none => simp [State.outlook, hinbox]
  | some inbox =>
    simp only [State.outlook, hinbox]
    exact Inbox.close_outlook (h inbox hinbox)

/-- The server sends, time after time, and closes its end at last. -/
def State.hearOut (st : State) : List (List Bytes) → List Notice × State
  | [] => st.serverCloses
  | chunks :: later =>
    let (notices, st) := st.receive chunks
    let (more, st) := st.hearOut later
    (notices ++ more, st)

theorem hearOut_notices {st : State} (h : st.IsDrained) (later : List (List Bytes)) :
    (st.hearOut later).1 = st.outlook later.flatten.flatten := by
  induction later generalizing st with
  | nil => exact serverCloses_notices h
  | cons chunks later ih =>
    rw [List.flatten_cons, List.flatten_append, outlook_receive,
      ← ih (isDrained_receive h chunks)]
    rfl

/-- What the opening of a session leads to: the inbox of the session receives at once what came
behind the answer. -/
def State.Opens (result : Attempt × State) (request frame : Bytes) (inbox : Inbox)
    (chunks : List Bytes) (leaves : Bool) : Prop :=
  ∃ opened : State, opened.inbox = some inbox ∧
    result =
      let (early, heard) := opened.receive ([] :: chunks)
      let (final, last) := if leaves then heard.serverCloses else ([], heard)
      ({ notices := .connectAck :: early ++ final, sent := [frame], request := some request }, last)

theorem opens_open {st : State} (h : st.client.isCancelled st.client.attempt = false) {d : Dial}
    (request : Bytes) {frame : Bytes} {agreed : Handshake}
    (hstart : (Handshake.startApi agreed.serverVersion d.clientId
      st.client.capabilities).encode = .ok frame)
    (left : Scanner) (chunks : List Bytes) (leaves : Bool) :
    State.Opens (st.open d request agreed left chunks leaves) request frame
      { version := agreed.serverVersion, scanner := left } chunks leaves := by
  unfold State.open
  dsimp only
  rw [hstart]
  dsimp only
  rw [Client.install?, if_pos ⟨rfl, by rw [h]; rfl⟩]
  let session : Session :=
    ⟨st.client.attempt, agreed.serverVersion, agreed.connectionTime, d.clientId⟩
  exact ⟨{ st with
    client := { st.client with phase := .connected, pending := none, session := some session }
    counters := st.counters.sent frame.length
    inbox := some { version := agreed.serverVersion, scanner := left } }, rfl, rfl⟩

/-- An attempt that is answered opens a session. -/
theorem opens_connect {st : State} (h : st.client.Bounded) (hdown : st.client.shutDown = false)
    (hfree : st.client.isBusy = false) {d : Dial} {request frame : Bytes}
    (hrequest : Handshake.request d.options = .ok request) {reply chunks : List Bytes}
    {leaves : Bool} (hpeer : d.peer = .server reply leaves none) {agreed : Handshake}
    {left : Scanner} (hawait : Handshake.await {} reply = (some (.ok agreed), left, chunks))
    (hstart : (Handshake.startApi agreed.serverVersion d.clientId
      st.client.capabilities).encode = .ok frame) :
    State.Opens (st.connect d) request frame { version := agreed.serverVersion, scanner := left }
      chunks leaves := by
  cases hclient : st.client.start? with
  | none => simp [Client.start?, hfree] at hclient
  | some client =>
    have hfresh := Client.start?_not_cancelled h hclient hdown
    have hcapabilities : client.capabilities = st.client.capabilities := by
      rw [(Client.start?_eq_some hclient).2]
    rw [← hcapabilities] at hstart
    simp only [State.connect, hdown, hclient, hpeer, hrequest, State.await, hawait]
    exact opens_open hfresh request hstart left chunks leaves

/-- How a server sends: all at once, leaving behind it, or with more to come later. -/
inductive Course where
  | leaves (reply : List Bytes)
  | stays (reply : List Bytes) (later : List (List Bytes))

/-- The chunks that come while the client waits for the answer or at once behind it. -/
def Course.reply : Course → List Bytes
  | .leaves reply => reply
  | .stays reply _ => reply

/-- All octets of a course. -/
def Course.octets : Course → Bytes
  | .leaves reply => reply.flatten
  | .stays reply later => reply.flatten ++ later.flatten.flatten

theorem Course.reply_isPrefix (c : Course) : c.reply.flatten <+: c.octets := by
  cases c with
  | leaves reply => exact List.prefix_rfl
  | stays reply later => exact ⟨_, rfl⟩

/-- What the application is told when it dials a server and lets it talk until it closes. -/
def State.play (st : State) (d : Dial) : Course → List Notice
  | .leaves reply => (st.connect { d with peer := .server reply true none }).1.notices
  | .stays reply later =>
    let (a, st) := st.connect { d with peer := .server reply false none }
    a.notices ++ (st.hearOut later).1

theorem outlook_fresh {st : State} {inbox : Inbox} (h : st.inbox = some inbox)
    (hend : inbox.ending = none) (later : Bytes) :
    st.outlook later = Inbox.transcript inbox.version (inbox.scanner.buffer ++ later) := by
  simp only [State.outlook, h, Inbox.outlook, hend]

/-- An opened session tells what is left behind the answer and what comes later. -/
theorem opens_notices {result : Attempt × State} {request frame : Bytes} {inbox : Inbox}
    {chunks : List Bytes} (hend : inbox.ending = none)
    (h : State.Opens result request frame inbox chunks false) (later : List (List Bytes)) :
    result.1.notices ++ (result.2.hearOut later).1 =
      .connectAck ::
        Inbox.transcript inbox.version
          (inbox.scanner.buffer ++ (chunks.flatten ++ later.flatten.flatten)) := by
  obtain ⟨opened, hinbox, rfl⟩ := h
  have hhear := hearOut_notices (isDrained_receive_cons opened [] chunks) later
  have hreceive := outlook_receive opened ([] :: chunks) later.flatten.flatten
  rw [← hhear, List.flatten_cons, List.nil_append, outlook_fresh hinbox hend] at hreceive
  rw [hreceive]
  simp

theorem opens_notices_leaving {result : Attempt × State} {request frame : Bytes} {inbox : Inbox}
    {chunks : List Bytes} (hend : inbox.ending = none)
    (h : State.Opens result request frame inbox chunks true) :
    result.1.notices =
      .connectAck ::
        Inbox.transcript inbox.version (inbox.scanner.buffer ++ chunks.flatten) := by
  obtain ⟨opened, hinbox, rfl⟩ := h
  have hclose := serverCloses_notices (isDrained_receive_cons opened [] chunks)
  have hreceive := outlook_receive opened ([] :: chunks) []
  rw [← hclose, List.flatten_cons, List.nil_append, List.append_nil,
    outlook_fresh hinbox hend] at hreceive
  rw [hreceive]
  simp

/-- Whatever the chunks, the application is told that the session opens and then what the octets
behind the answer say, frame by frame up to the first that cannot be used; the end of the session is
told once at most. -/
theorem play_notices {st : State} (hst : Reachable st) (hdown : st.client.shutDown = false)
    (hfree : st.client.isBusy = false) {d : Dial} {request : Bytes}
    (hrequest : Handshake.request d.options = .ok request) {answer : Bytes} {agreed : Handshake}
    (hanswer : Handshake.Accepts answer agreed) {frame : Bytes}
    (hstart : (Handshake.startApi agreed.serverVersion d.clientId
      st.client.capabilities).encode = .ok frame)
    {stream rest : Bytes} {payloads : List Bytes} (hsplits : Frame.Splits stream payloads rest) :
    (∀ c : Course, c.octets = answer ++ stream → answer.length ≤ c.reply.flatten.length →
      st.play d c =
        .connectAck :: Inbox.told agreed.serverVersion (Inbox.farewell rest) payloads) ∧
    (Inbox.told agreed.serverVersion (Inbox.farewell rest) payloads).count .connectionClosed ≤ 1 ∧
    .connectAck ∉ Inbox.told agreed.serverVersion (Inbox.farewell rest) payloads ∧
    ServerVersion.lowest ≤ agreed.serverVersion ∧
      agreed.serverVersion ≤ ServerVersion.highest := by
  refine ⟨?_, Inbox.count_told _ (Inbox.count_farewell rest) payloads,
    Inbox.connectAck_not_mem_told _ rest payloads, Handshake.version_of_accepts hanswer⟩
  intro c hoctets hlength
  obtain ⟨early, hearly⟩ : ∃ early, c.reply.flatten = answer ++ early := by
    obtain ⟨later, hlater⟩ := c.reply_isPrefix
    rw [hoctets] at hlater
    obtain ⟨missing, hm⟩ := List.prefix_of_prefix_length_le ⟨stream, rfl⟩ ⟨later, hlater⟩ hlength
    exact ⟨missing, hm.symm⟩
  obtain ⟨left, chunks, hawait, hleft⟩ := Handshake.await_accepts hanswer (s := {}) hearly
  cases c with
  | leaves reply =>
    have hopens := opens_connect hst.bounded hdown hfree
      (d := { d with peer := .server reply true none }) hrequest rfl hawait hstart
    have hstream : early = stream := List.append_cancel_left (hearly.symm.trans hoctets)
    rw [State.play, opens_notices_leaving rfl hopens, hleft, hstream,
      Inbox.transcript_eq _ hsplits]
  | stays reply later =>
    have hopens := opens_connect hst.bounded hdown hfree
      (d := { d with peer := .server reply false none }) hrequest rfl hawait hstart
    have hstream : early ++ later.flatten.flatten = stream := by
      change reply.flatten = _ at hearly
      rw [Course.octets, hearly, List.append_assoc] at hoctets
      exact List.append_cancel_left hoctets
    rw [State.play]
    dsimp only
    rw [opens_notices rfl hopens later]
    dsimp only
    rw [← List.append_assoc, hleft, hstream, Inbox.transcript_eq _ hsplits]

/-- An answer, an empty frame, a message and a length that no frame may have, cut within the answer
and within both lengths. -/
theorem play_notices_oversize :
    Reachable {} ∧
    Handshake.Accepts [0, 0, 0, 9, 49, 55, 54, 0, 110, 111, 111, 110, 0] ⟨176, "noon"⟩ ∧
    Frame.Splits ([0, 0, 0, 0] ++ [0, 0, 0, 7, 57, 0, 49, 0, 52, 50, 0] ++ [1, 0, 0, 0])
      [[], [57, 0, 49, 0, 52, 50, 0]] [1, 0, 0, 0] ∧
    State.play {} { address := "localhost", clientId := 0, peer := .late }
        (.stays [[0, 0, 0], [9, 49, 55, 54, 0, 110, 111, 111, 110, 0, 0, 0, 0, 0, 0, 0]]
          [[[0, 7, 57, 0, 49, 0, 52], [50, 0, 1, 0]], [[0, 0]]]) =
      [.connectAck, .nextValidId 42, Inbox.oversizeNotice 16777216, .connectionClosed] := by
  have hadmits : Handshake.Form.framed.Admits "176" "noon" :=
    ⟨by decide, by decide, by decide, nofun⟩
  have hversion : Number.readInt32 "176".toList = .ok 176 := by decide
  have hanswer : Handshake.Accepts [0, 0, 0, 9, 49, 55, 54, 0, 110, 111, 111, 110, 0]
      ⟨176, "noon"⟩ :=
    Handshake.accepts_octets hadmits hversion (by decide) (by decide)
  have hlength : Frame.announced? [1, 0, 0, 0] = some 16777216 := by decide
  have hrest : ¬ Frame.HasFrame [1, 0, 0, 0] :=
    Frame.not_hasFrame_of_isOversize ⟨16777216, hlength, by decide⟩
  have hsplits : Frame.Splits
      ([0, 0, 0, 0] ++ [0, 0, 0, 7, 57, 0, 49, 0, 52, 50, 0] ++ [1, 0, 0, 0])
      [[], [57, 0, 49, 0, 52, 50, 0]] [1, 0, 0, 0] :=
    ⟨rfl, by decide, hrest⟩
  have htold : Inbox.told 176 (Inbox.farewell [1, 0, 0, 0]) [[], [57, 0, 49, 0, 52, 50, 0]] =
      [.nextValidId 42, Inbox.oversizeNotice 16777216, .connectionClosed] := by
    rw [Inbox.farewell_isOversize hlength (by decide)]
    rfl
  have hrequest : Handshake.request none =
      .ok (Handshake.signature ++ Frame.octets (Utf8.encode "v100..200".toList)) := by decide
  obtain ⟨frame, hstart⟩ : ∃ frame, (Handshake.startApi 176 0 none).encode = .ok frame := ⟨_, rfl⟩
  have hplay := (play_notices .initial rfl rfl (d := ⟨"localhost", 0, none, none, .late⟩)
    hrequest hanswer hstart hsplits).1
  refine ⟨.initial, hanswer, hsplits, ?_⟩
  rw [← htold]
  exact hplay (.stays _ _) rfl (by decide)

end BrokerWire.Scenario
