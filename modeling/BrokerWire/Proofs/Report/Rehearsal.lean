import BrokerWire.Proofs.Report.Following

namespace BrokerWire

/-- The chunks in front of those that are left make up the answer. -/
theorem Handshake.await_used {s left : Scanner} {chunks rest : List Bytes}
    {outcome : Except ApiError Handshake} (h : await s chunks = (some outcome, left, rest)) :
    ∃ used, chunks = used ++ rest ∧ await s used = (some outcome, left, []) := by
  induction chunks generalizing s with
  | nil =>
    have hrest : rest = [] := by
      unfold await at h
      split at h <;> cases h <;> rfl
    subst hrest
    exact ⟨[], rfl, h⟩
  | cons chunk chunks ih =>
    unfold await at h
    split at h
    · next hreply =>
      cases h
      refine ⟨[], rfl, ?_⟩
      rw [await, hreply]
    · next hreply =>
      cases h
      refine ⟨[], rfl, ?_⟩
      rw [await, hreply]
    · next hreply =>
      obtain ⟨used, rfl, hused⟩ := ih h
      refine ⟨chunk :: used, rfl, ?_⟩
      rw [await, hreply]
      exact hused

namespace Scenario.State

theorem session_settle (st : State) : st.settle.client.session = st.client.session := by
  unfold settle
  split
  · split <;> rfl
  · rfl

theorem session_receive (st : State) (chunks : List Bytes) :
    (st.receive chunks).2.client.session = st.client.session := by
  unfold receive
  split
  · rfl
  · exact session_settle _

theorem session_serverCloses (st : State) :
    st.serverCloses.2.client.session = st.client.session := by
  unfold serverCloses
  dsimp only
  split
  · rfl
  · exact session_settle _

def leaveIf (st : State) (leaves : Bool) : List Notice × State :=
  if leaves then st.serverCloses else ([], st)

theorem session_leaveIf (st : State) (leaves : Bool) :
    (st.leaveIf leaves).2.client.session = st.client.session := by
  unfold leaveIf
  split
  · exact st.session_serverCloses
  · rfl

end Scenario.State

theorem Run.inbox_ask (requests : List Request) (st : Scenario.State) :
    (ask requests st).2.inbox = st.inbox := by
  induction requests generalizing st with
  | nil => rfl
  | cons r rest ih =>
    have hsame : (st.request r).2.inbox = st.inbox := by
      unfold Scenario.State.request
      split <;> rfl
    exact (ih _).trans hsame

/-- Whether the call that connects goes straight on where it stands: it neither sends what opens the
conversation nor waits for a task. -/
def Stage.isStraight : Stage → Encounter → Bool
  | .opening, .nothing => false
  | .joining _, _ => false
  | _, _ => true

namespace Runner

variable {s : Settings} {r r' : Runner} {place : Place} {stage : Stage} {c : Client}
  {k : Counters} {line : Line}

/-- A run whose call that connects stands at a stage, with a session as given. -/
structure Dials (s : Settings) (r : Runner) (place : Place) (stage : Stage) (c : Client)
    (k : Counters) (line : Line) : Prop where
  place : r.place = place
  call : r.traffic.world.calls 1 = some ⟨s.clientId, none, stage⟩
  client : r.traffic.world.client = c
  counters : r.traffic.counters = k
  line : r.line = line
  farewells : r.traffic.world.farewells = []
  asked : r.traffic.asked = []

namespace Dials

theorem advance (h : Dials s r .connecting stage c k line) (hdue : line.due = none)
    {met : Encounter} (hstraight : stage.isStraight met = true) {c' : Client} {next : Stage}
    (hadvance : ConnectCall.advance ⟨s.clientId, none, stage⟩ 1 c met = some (c', next))
    {deed : Option Deed}
    (hdeed : ConnectCall.deed? ⟨s.clientId, none, stage⟩ next (c'.holds 1) met = deed)
    (hcan : ∀ d ∈ deed, line.can d = true) :
    ∃ r', Goes s r r' [] ∧
      Dials s r' (.behind stage) next c' (deed.elim k fun d => (line.after 1 k d).counters)
        (deed.elim line fun d => (line.after 1 k d).line) := by
  obtain ⟨hplace, hcall, rfl, rfl, rfl, hfarewells, hasked⟩ := h
  have hproceed : r.step s (.main met) = r.move (.behind stage) (.call (.advance 1 met)) := by
    rw [step, proceed, hplace, connect, hcall]
    simp only [hdue, Option.isSome_none, Bool.false_eq_true, if_false]
    cases stage with
    | opening =>
      cases met with
      | nothing => cases hstraight
      | _ => rfl
    | joining e => cases hstraight
    | _ => rfl
  let world : World := { r.traffic.world with
    client := c'
    calls := Function.update r.traffic.world.calls 1 (some ⟨s.clientId, none, next⟩) }
  have hworld : r.traffic.world.step (.advance 1 met) = some world := by
    simp only [World.step, hcall, hadvance, Option.map_some]
    rfl
  have hdeeds : r.traffic.world.deed? world (.advance 1 met) = deed.map fun d => (1, d) := by
    simp only [World.deed?, hcall, world, Function.update_self, hdeed]
  obtain ⟨t, hstep, hnews, hbehind, hsame, hcounters, hline⟩ :
      ∃ t, r.traffic.step (.call (.advance 1 met)) = some t ∧ r.traffic.news t = [] ∧
        t.world = world ∧ t.asked = r.traffic.asked ∧
        t.counters = (deed.elim r.traffic.counters fun d =>
          (r.line.after 1 r.traffic.counters d).counters) ∧
        t.lines 1 = deed.elim r.line fun d => (r.line.after 1 r.traffic.counters d).line := by
    simp only [Traffic.step, hworld, Option.bind_some, hdeeds]
    cases deed with
    | none => exact ⟨_, rfl, Traffic.news_of_told rfl rfl, rfl, rfl, rfl, rfl⟩
    | some deed =>
      obtain ⟨t, hact⟩ : ∃ t, { r.traffic with world := world }.act 1 deed = some t :=
        ⟨_, if_pos (hcan deed rfl)⟩
      have hnews := Traffic.news_act hact
      rw [ConnectCall.tells_deed? hdeed] at hnews
      obtain ⟨-, rfl⟩ := Traffic.act_eq_some hact
      refine ⟨_, hact, hnews, rfl, rfl, rfl, ?_⟩
      dsimp only
      rw [Function.update_self]
      rfl
  have hs : r.step s (.main met) =
      some ⟨t, .behind stage, r.log ++ (r.traffic.news t).map .told⟩ := by
    rw [hproceed, move, hstep]
    rfl
  refine ⟨_, .of_step hs (by rw [hnews]), rfl, ?_, ?_, hcounters, hline, ?_, hsame.trans hasked⟩
  · simp only [hbehind, world, Function.update_self]
  · simp only [hbehind, world]
  · simp only [hbehind, world, hfarewells]

theorem plain (h : Dials s r .connecting stage c k line) (hdue : line.due = none)
    {met : Encounter} (hstraight : stage.isStraight met = true) {c' : Client} {next : Stage}
    (hadvance : ConnectCall.advance ⟨s.clientId, none, stage⟩ 1 c met = some (c', next))
    (hdeed : ConnectCall.deed? ⟨s.clientId, none, stage⟩ next (c'.holds 1) met = none) :
    ∃ r', Goes s r r' [] ∧ Dials s r' (.behind stage) next c' k line :=
  h.advance hdue hstraight hadvance hdeed fun deed hm => absurd hm (Option.not_mem_none deed)

theorem acts (h : Dials s r .connecting stage c k line) (hdue : line.due = none)
    {met : Encounter} (hstraight : stage.isStraight met = true) {c' : Client} {next : Stage}
    (hadvance : ConnectCall.advance ⟨s.clientId, none, stage⟩ 1 c met = some (c', next))
    (deed : Deed)
    (hdeed : ConnectCall.deed? ⟨s.clientId, none, stage⟩ next (c'.holds 1) met = some deed)
    (hcan : line.can deed = true) :
    ∃ r', Goes s r r' [] ∧ Dials s r' (.behind stage) next c'
      (line.after 1 k deed).counters (line.after 1 k deed).line := by
  refine h.advance hdue hstraight hadvance hdeed fun other hm => ?_
  cases hm
  exact hcan

theorem deed (h : Dials s r place stage c k line) {deed : Deed} {next : Place}
    (hproceed : r.proceed s .nothing = r.move next (.task 1 deed))
    (hpermits : r.traffic.permits 1 deed = true) (hcan : line.can deed = true) :
    ∃ r', Goes s r r' ((deed.tells line k).map Prod.snd) ∧
      Dials s r' next stage c (line.after 1 k deed).counters (line.after 1 k deed).line := by
  obtain ⟨-, hcall, rfl, rfl, rfl, hfarewells, hasked⟩ := h
  obtain ⟨t, hstep, hworld, hsame, hcounters, hline⟩ := Traffic.exists_task hpermits hcan
  have hact : r.traffic.act 1 deed = some t := (if_pos hpermits).symm.trans hstep
  obtain ⟨r', hgoes, hplace, rfl⟩ := goes_main hproceed hstep (Traffic.news_act hact)
  refine ⟨r', hgoes, hplace, ?_, ?_, hcounters, hline, ?_, hsame.trans hasked⟩
  · rw [hworld]
    exact hcall
  · rw [hworld]
  · rw [hworld]
    exact hfarewells

/-- The call that connects tells what it owes. -/
theorem pay (h : Dials s r place stage c k line) {notice : Notice} (hdue : line.due = some notice)
    {next : Place} (hproceed : r.proceed s .nothing = r.move next (.task 1 .pay)) :
    ∃ r', Goes s r r' [notice] ∧
      Dials s r' next stage c k { line.tell .opener [notice] with due := none } := by
  have hcan : line.can .pay = true := by rw [Line.can, hdue]; rfl
  have hpaid := h.deed hproceed rfl hcan
  rw [Deed.tells, Line.after, hdue] at hpaid
  exact hpaid

theorem greet (h : Dials s r .connecting .opening c k {}) {request : Bytes}
    (hrequest : Handshake.request (Run.options s) = .ok request) :
    ∃ r', Goes s r r' [] ∧
      Dials s r' .connecting .opening c (k.sent request.length) { greeting := some request } := by
  have hproceed : r.proceed s .nothing = r.move .connecting (.task 1 (.greet (Run.options s))) := by
    rw [proceed, h.place]
    simp only [connect, h.call, h.line, Option.isSome_none, Bool.false_eq_true, if_false]
  have hpermits : r.traffic.permits 1 (.greet (Run.options s)) = true := by
    rw [Traffic.permits, h.call]
    rfl
  have hcan : ({} : Line).can (.greet (Run.options s)) = true := by
    rw [Line.can, hrequest]
    rfl
  have hgreeted := h.deed hproceed hpermits hcan
  rw [Line.after, hrequest] at hgreeted
  exact hgreeted

end Dials

/-- The client once the call that connects has started. -/
def started : Client :=
  { phase := .connecting, attempt := 1, pending := some 1 }

/-- The call that connects starts, and waits for the server. -/
theorem dials_opening (s : Settings) :
    ∃ r, Goes s {} r [] ∧ Dials s r .connecting .opening started {} {} := by
  have hstarts := goes_place (s := s) (r := {}) .starting rfl
  have hconnects : proceed s { place := .starting } .nothing =
      Runner.move { place := .starting } .connecting (.call (.connect s.clientId)) := rfl
  obtain ⟨r, hgoes, hplace, htraffic⟩ :=
    goes_main hconnects rfl (Traffic.news_of_told rfl rfl)
  have hdials : Dials s r .connecting (.replacing none) started {} {} := by
    refine ⟨hplace, ?_, ?_, ?_, ?_, ?_, ?_⟩
    · rw [htraffic]
      rfl
    · rw [htraffic]
      rfl
    · rw [htraffic]
    · rw [line, htraffic]
    · rw [htraffic]
    · rw [htraffic]
  have hadvance : ConnectCall.advance ⟨s.clientId, none, .replacing none⟩ 1 started .nothing =
      some (started, .opening) := rfl
  obtain ⟨next, hnext, hopening⟩ := hdials.plain rfl rfl hadvance rfl
  exact ⟨next, (hstarts.trans hgoes).trans hnext, hopening⟩

theorem Goes.reachable {notices : List Notice} (h : Goes s {} r notices) : r.Reachable s :=
  h.reached

def failure (e : ApiError) : Record :=
  .error (-1) e.clientError.code (e.clientError.withDetail e.display)

theorem reachable_failed (s : Settings) (e : ApiError) :
    ∃ r : Runner, r.Reachable s ∧ r.place = .failed e ∧ r.printed = [failure e] := by
  obtain ⟨opening, hopens, hopening⟩ := dials_opening s
  have hfails : ConnectCall.advance ⟨s.clientId, none, .opening⟩ 1 started (.failure e) =
      some (started, .failing e) := rfl
  obtain ⟨failing, hfailed, hfailing⟩ := hopening.plain rfl rfl hfails rfl
  have howes : ConnectCall.advance ⟨s.clientId, none, .failing e⟩ 1 started .nothing =
      some (started.fail 1 (Client.phaseAfter e), .ended) := rfl
  obtain ⟨owing, howed, howing⟩ :=
    hfailing.acts rfl rfl howes (.owe (e.notice ClientError.noRequest)) rfl rfl
  have hpays : owing.proceed s .nothing = owing.move (.failed e) (.task 1 .pay) := by
    rw [proceed, howing.place]
    rfl
  obtain ⟨r, hpaid, hlast⟩ := howing.pay rfl hpays
  have hall := ((hopens.trans hfailed).trans howed).trans hpaid
  exact ⟨r, hall.reachable, hlast.place, hall.printed⟩

/-- The client of a run whose session is open. -/
def joined (s : Settings) (agreed : Handshake) : Client :=
  { phase := .connected
    session := some ⟨1, agreed.serverVersion, agreed.connectionTime, s.clientId⟩
    attempt := 1 }

theorem dials_opened {request frame : Bytes} {agreed : Handshake} {used : List Bytes}
    {left : Scanner} (hrequest : Handshake.request (Run.options s) = .ok request)
    (hused : Handshake.await {} used = (some (.ok agreed), left, []))
    (hstart : (Handshake.startApi agreed.serverVersion s.clientId none).encode = .ok frame) :
    ∃ r, Goes s {} r [.connectAck] ∧
      r.Rests .reporting (joined s agreed)
        ((({} : Counters).sent request.length).sent frame.length) ∧
      r.Hears { version := agreed.serverVersion, scanner := left } := by
  obtain ⟨opening, hopens, hopening⟩ := dials_opening s
  obtain ⟨greeted, hgreets, hgreeted⟩ := hopening.greet hrequest
  -- The server answers.
  have hanswers : ConnectCall.advance ⟨s.clientId, none, .opening⟩ 1 started (.answer used) =
      some (started, .opened agreed) := by
    rw [ConnectCall.advance, if_pos rfl, hused]
  have hhears : Line.can { greeting := some request } (.hearAnswer used) = true := by
    rw [Line.can, hused]
    rfl
  obtain ⟨answered, hanswer, hanswered⟩ :=
    hgreeted.acts rfl rfl hanswers (.hearAnswer used) rfl hhears
  rw [Line.after, hused] at hanswered
  -- The task that writes starts, and the first frame is put into the queue.
  have hstarts : ConnectCall.advance ⟨s.clientId, none, .opened agreed⟩ 1 started .nothing =
      some (started, .queueing agreed) := by
    simp only [ConnectCall.advance, hstart]
    rfl
  obtain ⟨ready, hreadies, hready⟩ := hanswered.acts rfl rfl hstarts .start rfl rfl
  have hqueues : ConnectCall.advance ⟨s.clientId, none, .queueing agreed⟩ 1 started .nothing =
      some (started, .installing agreed) := rfl
  obtain ⟨queued, hqueue, hqueued⟩ := hready.acts rfl rfl hqueues
    (.queueStart agreed s.clientId none) rfl (by rw [Line.can, hstart]; rfl)
  rw [Line.after, Line.after, hstart] at hqueued
  obtain ⟨written, hwrites, hplace, hworld, hasked, hcounters, tried, octets, hline⟩ :=
    goes_written (s := s) (by rw [hqueued.line]; rfl) (by rw [hqueued.line]; rfl)
      (by rw [hqueued.line]; rfl)
  rw [hqueued.counters] at hcounters
  rw [hqueued.line] at hline
  have hwritten : Dials s written .connecting (.installing agreed) started _ _ :=
    ⟨hplace.trans hqueued.place, by rw [hworld, hqueued.call], by rw [hworld, hqueued.client],
      hcounters, hline, by rw [hworld, hqueued.farewells], hasked.trans hqueued.asked⟩
  -- The session is installed, and the application told of it.
  have hinstalls : ConnectCall.advance ⟨s.clientId, none, .installing agreed⟩ 1 started .nothing =
      some (joined s agreed, .acknowledged) := rfl
  obtain ⟨owing, howes, howing⟩ := hwritten.acts rfl rfl hinstalls (.owe .connectAck) rfl rfl
  have hpays : owing.proceed s .nothing = owing.move .connecting (.task 1 .pay) := by
    rw [proceed, howing.place]
    simp only [Place.behind, connect, howing.call, howing.line]
    rfl
  obtain ⟨paid, hpay, hpaid⟩ := howing.pay rfl hpays
  have hlistens : ConnectCall.advance ⟨s.clientId, none, .acknowledged⟩ 1 (joined s agreed)
      .nothing = some (joined s agreed, .ended) := rfl
  obtain ⟨r, hlisten, hlast⟩ := hpaid.acts rfl rfl hlistens (.listen true) rfl rfl
  have hall := (((hopens.trans hgreets).trans (hanswer.trans hreadies)).trans
    ((hqueue.trans hwrites).trans howes)).trans (hpay.trans hlisten)
  refine ⟨r, hall, ⟨hlast.place, hlast.client, hlast.counters, hlast.farewells, hlast.asked, ?_, ?_,
    ?_⟩, ⟨?_, ?_, ?_⟩⟩
  all_goals
    rw [hlast.line]
    rfl

/-- The state of a scenario whose session was just opened. -/
def opened (s : Settings) (request frame : Bytes) (agreed : Handshake) (left : Scanner)
    (leaves : Bool) : Scenario.State where
  client := joined s agreed
  counters := (({} : Counters).sent request.length).sent frame.length
  inbox := some { version := agreed.serverVersion, scanner := left }
  serverHolds := !leaves

/-- A run reports the session that a server has opened. -/
theorem follows_opened {request frame : Bytes} {agreed : Handshake} {used : List Bytes}
    {left : Scanner} (hrequest : Handshake.request (Run.options s) = .ok request)
    (hused : Handshake.await {} used = (some (.ok agreed), left, []))
    (hstart : (Handshake.startApi agreed.serverVersion s.clientId none).encode = .ok frame)
    (leaves : Bool) :
    ∃ r : Runner, r.Reachable s ∧ r.printed = [Run.opened (joined s agreed)] ∧
      r.Follows (.asking (Run.requests s)) (opened s request frame agreed left leaves) := by
  obtain ⟨r, hgoes, hrests, hears⟩ := dials_opened hrequest hused hstart
  let next : Runner := { r with
    place := .asking (Run.requests s)
    log := r.log ++ [.reported (Run.opened r.traffic.world.client)] }
  have hs : r.step s (.main .nothing) = some next := by
    rw [step, proceed, hrests.place]
  refine ⟨next, hgoes.reachable.step hs, ?_, ⟨?_, rfl, ⟨_, rfl, rfl⟩, fun inbox hm => ?_,
    fun hnone => ?_⟩⟩
  · have hprinted : r.printed = [] := hgoes.printed
    rw [printed, List.filterMap_append]
    exact congrArg₂ (· ++ ·) hprinted (congrArg (fun c => [Run.opened c]) hrests.client)
  · exact ⟨rfl, hrests.client, hrests.counters, hrests.farewells, hrests.asked, hrests.isOpen,
      hrests.queue, hrests.writing⟩
  · cases hm
    exact ⟨⟨hears.inbox, hears.isListening, hears.saying⟩, rfl⟩
  · cases hnone

/-- What an attempt leads to when nobody connects once more meanwhile: a failure, or a session that
receives at once what came with the answer. -/
theorem connect_cases {peer : Scenario.Peer}
    (hpeer : ∀ reply leaves, peer ≠ .server reply leaves (some .connect))
    {result : Scenario.Attempt × Scenario.State}
    (hresult : Scenario.State.connect {} (Run.dial s peer) = result) :
    (∃ e, result.1.failure = some e ∧ result.1.notices = [e.notice ClientError.noRequest]) ∨
    ∃ request frame agreed used rest left leaves,
      Handshake.request (Run.options s) = .ok request ∧
      Handshake.await {} used = (some (.ok agreed), left, []) ∧
      (Handshake.startApi agreed.serverVersion s.clientId none).encode = .ok frame ∧
      result =
        let (early, st) := (opened s request frame agreed left leaves).receive ([] :: rest)
        let (final, st) := if leaves then st.serverCloses else ([], st)
        ({ notices := .connectAck :: early ++ final, sent := [frame], request := some request },
          st) := by
  cases peer with
  | missing reason =>
    subst hresult
    exact .inl ⟨_, rfl, rfl⟩
  | late =>
    subst hresult
    exact .inl ⟨_, rfl, rfl⟩
  | server reply leaves meanwhile =>
    cases hrequest : Handshake.request (Run.options s) with
    | error fault =>
      simp only [Scenario.State.connect, Run.dial, hrequest] at hresult
      subst hresult
      exact .inl ⟨_, rfl, rfl⟩
    | ok request =>
      let st : Scenario.State :=
        { client := started
          counters := ({} : Counters).sent request.length
          serverHolds := !leaves }
      have hawaits : st.await (Run.dial s (.server reply leaves meanwhile)) request reply leaves
          meanwhile = result := by
        rw [← hresult]
        simp only [Scenario.State.connect, Run.dial, hrequest]
        rfl
      unfold Scenario.State.await at hawaits
      rcases hawait : Handshake.await {} reply with ⟨outcome, left, rest⟩
      simp only [hawait] at hawaits
      cases outcome with
      | none =>
        subst hawaits
        cases meanwhile with
        | none => exact .inl ⟨_, rfl, rfl⟩
        | some interruption =>
          cases interruption with
          | connect => exact absurd rfl (hpeer reply leaves)
          | _ => exact .inl ⟨_, rfl, rfl⟩
      | some outcome =>
        cases outcome with
        | error e =>
          subst hawaits
          exact .inl ⟨_, rfl, rfl⟩
        | ok agreed =>
          obtain ⟨used, -, hused⟩ := Handshake.await_used hawait
          cases hstart : (Handshake.startApi agreed.serverVersion s.clientId none).encode with
          | error fault =>
            simp only [Scenario.State.open, Run.dial, st, started, hstart] at hawaits
            subst hawaits
            exact .inl ⟨_, rfl, rfl⟩
          | ok frame =>
            simp only [Scenario.State.open, Run.dial, st, started, hstart] at hawaits
            exact .inr ⟨request, frame, agreed, used, rest, left, leaves, rfl, hused, hstart,
              hawaits.symm⟩

namespace Follows

variable {st : Scenario.State}

theorem receive_first (h : r.Follows place st) (rest : List Bytes) :
    ∃ r', Goes s r r' (st.receive ([] :: rest)).1 ∧
      r'.Follows place (st.receive ([] :: rest)).2 ∧ (st.receive ([] :: rest)).2.IsDrained := by
  obtain ⟨session, hsession, -⟩ := h.session
  obtain ⟨next, hgoes, hnext⟩ := h.receive_chunk (s := s) (.inl rfl)
  obtain ⟨last, hlast, hfollows⟩ := hnext.receive (Scenario.isDrained_receive_cons st [] []) rest
  have hdrained := Scenario.isDrained_receive_cons st [] rest
  rw [Scenario.State.receive_cons hsession] at hdrained ⊢
  exact ⟨last, hgoes.trans hlast, hfollows, hdrained⟩

theorem leaveIf (h : r.Follows place st) (hdrained : st.IsDrained) (leaves : Bool) :
    ∃ r', Goes s r r' (st.leaveIf leaves).1 ∧ r'.Follows place (st.leaveIf leaves).2 ∧
      (st.leaveIf leaves).2.IsDrained := by
  unfold Scenario.State.leaveIf
  split
  · obtain ⟨next, hgoes, hnext, hnone⟩ := h.serverCloses (s := s) hdrained
    refine ⟨next, hgoes, hnext, fun inbox hm => ?_⟩
    rw [hnone] at hm
    cases hm
  · exact ⟨r, Goes.refl r, h, hdrained⟩

end Follows

/-- A rehearsal is one of the runs: there is one that prints what the rehearsal prints, and that
fails or comes to its end as the rehearsal does. -/
theorem reachable_play (s : Settings) {peer : Scenario.Peer}
    (hpeer : ∀ reply leaves, peer ≠ .server reply leaves (some .connect)) (chunks : List Bytes) :
    ∃ r : Runner, r.Reachable s ∧ r.printed = (Run.play s peer chunks).records ∧
      ((Run.play s peer chunks).status = Run.notConnected ∧ (∃ e, r.place = .failed e) ∨
        (Run.play s peer chunks).status = Run.finished ∧ r.place = .finished) := by
  rcases hresult : Scenario.State.connect {} (Run.dial s peer) with ⟨attempt, st⟩
  obtain ⟨e, hfailure, hnotices⟩ | ⟨request, frame, agreed, used, rest, left, leaves, hrequest,
    hused, hstart, hopens⟩ := connect_cases hpeer hresult
  · obtain ⟨r, hreachable, hplace, hprinted⟩ := reachable_failed s e
    dsimp only at hfailure hnotices
    have hplay : Run.play s peer chunks =
        ⟨attempt.request, [], Run.records attempt.notices, Run.notConnected⟩ := by
      simp only [Run.play, hresult, hfailure]
    rw [hplay, hnotices]
    exact ⟨r, hreachable, hprinted, .inl ⟨rfl, e, hplace⟩⟩
  let first := opened s request frame agreed left leaves
  let early := first.receive ([] :: rest)
  let closing := early.2.leaveIf leaves
  let asked := Run.ask (Run.requests s) closing.2
  let received := asked.2.receive chunks
  let final := received.2.serverCloses
  have hplay : Run.play s peer chunks = ⟨some request, frame :: asked.1.sent,
      Run.opened closing.2.client :: Run.records (.connectAck :: early.1 ++ closing.1 ++
        asked.1.notices) ++ Run.records (received.1 ++ final.1) ++
        [.stats final.2.disconnect.counters], Run.finished⟩ := by
    cases hopens
    simp only [Run.play, hresult]
    rfl
  have hsession : closing.2.client.session = (joined s agreed).session :=
    (early.2.session_leaveIf leaves).trans (first.session_receive ([] :: rest))
  have hopened : Run.opened closing.2.client = Run.opened (joined s agreed) := by
    simp only [Run.opened, Client.serverVersion?, Client.connectionTime?, hsession]
  -- The run does what the rehearsal does, one after the other.
  obtain ⟨r, hreachable, hprinted, hfollows⟩ := follows_opened hrequest hused hstart leaves
  obtain ⟨hearing, hhears, hheard, hdrained⟩ := hfollows.receive_first (s := s) rest
  obtain ⟨behind, hleaves, hbehind, hdrained⟩ := hheard.leaveIf (s := s) hdrained leaves
  obtain ⟨asking, hasks, hasked⟩ := hbehind.ask (s := s)
  have hready : asked.2.IsDrained := by
    intro inbox hm
    rw [Run.inbox_ask] at hm
    exact hdrained inbox hm
  obtain ⟨receiving, hreceives, hreceived⟩ := hasked.receive (s := s) hready chunks
  obtain ⟨closed, hcloses, hclosed, hnone⟩ :=
    hreceived.serverCloses (s := s) (Scenario.isDrained_receive hready chunks)
  obtain ⟨later, last, hlater, hplace, hstats⟩ := hclosed.finish (s := s) hnone
  have hall := ((hhears.trans hleaves).trans hasks).trans (hreceives.trans hcloses)
  obtain ⟨paces, hr⟩ := hreachable
  obtain ⟨more, hmore⟩ := hall.reached
  refine ⟨last, ⟨paces ++ (more ++ later), ?_⟩, ?_, .inr ⟨?_, hplace⟩⟩
  · rw [run_append, hr, Option.bind_some, run_append, hmore, Option.bind_some, hlater]
  · have hacknowledged : Run.records (.connectAck :: early.1 ++ closing.1 ++ asked.1.notices) =
        Run.records (early.1 ++ closing.1 ++ asked.1.notices) := rfl
    rw [hplay, hstats, hall.printed, hprinted, hopened, hacknowledged]
    simp only [Run.records, List.filterMap_append, List.append_assoc, List.cons_append,
      List.nil_append, early, closing, asked, received, final, first]
  · rw [hplay]

end Runner

end BrokerWire
