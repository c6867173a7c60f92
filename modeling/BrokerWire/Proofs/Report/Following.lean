import BrokerWire.Proofs.Report.Hearing

namespace BrokerWire

theorem Inbox.receiveAll_of_ended {i : Inbox} {ending : Ending} (h : i.ending = some ending)
    (chunks : List Bytes) : i.receiveAll chunks = ([], [], i) := by
  induction chunks with
  | nil => rfl
  | cons chunk chunks ih => simp only [receiveAll, receive, h, ih, List.append_nil]

namespace Scenario.State

theorem receive_nil {st : State} (h : ∀ inbox ∈ st.inbox, inbox.ending = none) :
    st.receive [] = ([], st) := by
  obtain ⟨client, counters, stored, holds⟩ := st
  cases stored with
  | none => rfl
  | some inbox =>
    have hending : inbox.ending = none := h inbox rfl
    cases hsession : client.session <;>
      simp [receive, Inbox.receiveAll, settle, hsession, hending, Counters.receivedAll]

/-- A session may receive its chunks one at a time. -/
theorem receive_cons {st : State} {session : Session}
    (hsession : st.client.session = some session) (chunk : Bytes) (chunks : List Bytes) :
    st.receive (chunk :: chunks) =
      ((st.receive [chunk]).1 ++ ((st.receive [chunk]).2.receive chunks).1,
        ((st.receive [chunk]).2.receive chunks).2) := by
  unfold receive
  cases hinbox : st.inbox with
  | none => simp only [hinbox, List.append_nil]
  | some inbox =>
    simp only [Inbox.receiveAll, List.append_nil, settle, hsession]
    cases hending : (inbox.receive chunk).2.2.ending with
    | some ending =>
      simp [Inbox.receiveAll_of_ended hending, hending, Counters.receivedAll]
    | none => simp [hsession, Counters.receivedAll]

theorem serverCloses_of_none {st : State} (h : st.inbox = none) :
    st.serverCloses = ([], { st with serverHolds := false }) := by
  unfold serverCloses
  simp only [h]

end Scenario.State

namespace Traffic

theorem submit_error {t : Traffic} {q : Request} {c : Client} (hasked : t.asked = [⟨q, c⟩])
    (hfirst : ∀ x, c.live? = some x → x.attempt = 1) (hopen : (t.lines 1).isOpen = true)
    {notice : Notice} (hrequest : c.request true q = .error notice) :
    ∃ t', t.step (.submit 0) = some t' ∧ t.news t' = [notice] ∧ t'.world = t.world ∧
      t'.asked = [] ∧ t'.counters = t.counters ∧
      ∃ told, t'.lines 1 = { t.lines 1 with told := told } := by
  have hwaits : t.asked[0]? = some ⟨q, c⟩ := by rw [hasked]; rfl
  have hrest : t.asked.eraseIdx 0 = [] := by rw [hasked]; rfl
  cases hlive : c.live? with
  | none =>
    refine ⟨{ t with asked := [], outside := t.outside ++ [notice] }, ?_, ?_, rfl, rfl, rfl,
      (t.lines 1).told, rfl⟩
    · simp only [step, hwaits, hlive, hrequest, hrest]
    · rw [news, List.drop_length, List.drop_left]
      rfl
  | some session =>
    have hnumber := hfirst session hlive
    have hstep : t.step (.submit 0) = { t with asked := [] }.act 1 (.refuse notice) := by
      simp only [step, hwaits, hlive, hrest, hnumber, hopen, hrequest]
    obtain ⟨t', hact⟩ : ∃ t', { t with asked := [] }.act 1 (.refuse notice) = some t' :=
      ⟨_, if_pos rfl⟩
    have hnews := news_act hact
    obtain ⟨-, rfl⟩ := act_eq_some hact
    refine ⟨_, hstep.trans hact, hnews, rfl, rfl, rfl, (t.lines 1).told ++ [(.caller, notice)], ?_⟩
    dsimp only
    rw [Function.update_self]
    rfl

theorem submit_ok {t : Traffic} {q : Request} {c : Client} (hasked : t.asked = [⟨q, c⟩])
    (hfirst : ∀ x, c.live? = some x → x.attempt = 1) (hopen : (t.lines 1).isOpen = true)
    (hempty : (t.lines 1).queue = []) {frame : Bytes} (hrequest : c.request true q = .ok frame) :
    ∃ t', t.step (.submit 0) = some t' ∧ t.news t' = [] ∧ t'.world = t.world ∧
      t'.asked = [] ∧ t'.counters = t.counters ∧
      t'.lines 1 = { t.lines 1 with
        queue := [frame]
        queued := (t.lines 1).queued ++ [frame] } := by
  have hwaits : t.asked[0]? = some ⟨q, c⟩ := by rw [hasked]; rfl
  have hrest : t.asked.eraseIdx 0 = [] := by rw [hasked]; rfl
  have hroom : (t.lines 1).hasRoom = true := by
    rw [Line.hasRoom, hopen, hempty]
    rfl
  cases hlive : c.live? with
  | none =>
    rw [Client.request, hlive] at hrequest
    cases hrequest
  | some session =>
    have hnumber := hfirst session hlive
    have hstep : t.step (.submit 0) = { t with asked := [] }.act 1 (.enqueue frame) := by
      simp only [step, hwaits, hlive, hrest, hnumber, hopen, hrequest]
    obtain ⟨t', hact⟩ : ∃ t', { t with asked := [] }.act 1 (.enqueue frame) = some t' :=
      ⟨_, if_pos hroom⟩
    have hnews := news_act hact
    obtain ⟨-, rfl⟩ := act_eq_some hact
    refine ⟨_, hstep.trans hact, hnews, rfl, rfl, rfl, ?_⟩
    dsimp only
    rw [Function.update_self, Line.after, Line.enqueue_of_hasRoom hroom, hempty, List.nil_append]

end Traffic

namespace Runner

variable {s : Settings} {r r' : Runner} {place : Place} {k : Counters}

theorem goes_main {place : Place} {next : Move} {t : Traffic} {notices : List Notice}
    (hproceed : r.proceed s .nothing = r.move place next) (hstep : r.traffic.step next = some t)
    (hnews : r.traffic.news t = notices) :
    ∃ r', Goes s r r' notices ∧ r'.place = place ∧ r'.traffic = t := by
  obtain ⟨next, hs, hplace, htraffic, hlog⟩ := step_of_main hproceed hstep
  exact ⟨next, .of_step hs (by rw [hlog, hnews]), hplace, htraffic⟩

theorem goes_place (place : Place)
    (hproceed : r.proceed s .nothing = some { r with place := place }) :
    Goes s r { r with place := place } [] :=
  ⟨⟨[.main .nothing], (run_singleton r _).trans hproceed⟩, (List.append_nil _).symm⟩

theorem goes_written {frame : Bytes} (hopen : r.line.isOpen = true)
    (hqueue : r.line.queue = [frame]) (hwriting : r.line.writing = none) :
    ∃ r', Goes s r r' [] ∧ r'.place = r.place ∧ r'.traffic.world = r.traffic.world ∧
      r'.traffic.asked = r.traffic.asked ∧
      r'.traffic.counters = r.traffic.counters.sent frame.length ∧
      ∃ tried octets,
        r'.line = { r.line with queue := [], tried := tried, octets := octets } := by
  have htake : r.line.can .take = true := by rw [Line.can, hopen, hqueue, hwriting]; rfl
  obtain ⟨taken, hgoes, hplace, hworld, hasked, hcounters, hline⟩ :=
    goes_task (s := s) rfl rfl htake
  simp only [Line.after, hqueue, List.head?_cons, List.tail_cons] at hline
  have hwrote : taken.line.writing = some frame := by rw [hline]
  have hfinish : taken.line.can (.finish .done) = true := by rw [Line.can, hwrote]; rfl
  obtain ⟨written, hgoes', hplace', hworld', hasked', hcounters', hline'⟩ :=
    goes_task (s := s) rfl rfl hfinish
  have hdone (k : Counters) : Outbox.step { queue := [frame], counters := k } .done =
      { written := [frame], counters := k.sent frame.length } := by
    simp [Outbox.step]
  simp only [Line.after, hwrote, Option.toList_some, hdone] at hcounters' hline'
  simp only [Deed.tells, hwrote, Option.toList_some, hdone, List.map_nil] at hgoes'
  refine ⟨written, hgoes.trans hgoes', hplace'.trans hplace, hworld'.trans hworld,
    hasked'.trans hasked, ?_, written.line.tried, written.line.octets, ?_⟩
  · rw [hcounters', hcounters]
    rfl
  · rw [hline', hline]
    simp only [Line.tell, List.map_nil, List.append_nil, hwriting]

/-- A run whose session stands as a scenario has it. The steps of a scenario are played to their
end, those of a run are taken by the tasks of its session one at a time. -/
structure Follows (r : Runner) (place : Place) (st : Scenario.State) : Prop where
  rests : r.Rests place st.client st.counters
  attempt : st.client.attempt = 1
  session : ∃ x, st.client.session = some x ∧ x.attempt = 1
  receiving : ∀ inbox ∈ st.inbox, r.Hears inbox ∧ inbox.ending = none
  ended : st.inbox = none → (∃ inbox, r.Hears inbox ∧ inbox.ending.isSome = true) ∧
    st.client.isCancelled 1 = true

namespace Follows

variable {st : Scenario.State}

/-- A scenario settles what a run has come to. -/
theorem settle {session : Session} (hsession : st.client.session = some session)
    (hfirst : session.attempt = 1) (hattempt : st.client.attempt = 1) {inbox : Inbox}
    (hears : r.Hears inbox) (hrests : r.Rests place (settled st.client inbox) k) :
    r.Follows place ({ st with counters := k, inbox := some inbox } : Scenario.State).settle := by
  unfold Scenario.State.settle
  rw [settled] at hrests
  simp only [hsession]
  split
  · next hended =>
    rw [if_pos hended] at hrests
    refine ⟨?_, hattempt, ⟨session, hsession, hfirst⟩, fun inbox hm => ?_, fun _ => ⟨?_, ?_⟩⟩
    · rw [hfirst]
      exact hrests
    · cases hm
    · exact ⟨inbox, hears, hended⟩
    · simp [Client.isCancelled, Client.cancel, hfirst]
  · next hopen =>
    rw [if_neg hopen] at hrests
    refine ⟨hrests, hattempt, ⟨session, hsession, hfirst⟩, fun other hm => ?_, fun hnone => ?_⟩
    · cases hm
      exact ⟨hears, Option.not_isSome_iff_eq_none.mp hopen⟩
    · cases hnone

theorem receive_chunk (h : r.Follows place st) {chunk : Bytes}
    (hready : chunk = [] ∨ st.IsDrained) :
    ∃ r', Goes s r r' (st.receive [chunk]).1 ∧ r'.Follows place (st.receive [chunk]).2 := by
  unfold Scenario.State.receive
  cases hinbox : st.inbox with
  | none => exact ⟨r, Goes.refl r, h⟩
  | some inbox =>
    obtain ⟨hears, hending⟩ := h.receiving inbox hinbox
    obtain ⟨session, hsession, hfirst⟩ := h.session
    obtain ⟨next, hgoes, hrests, hears'⟩ := hear h.rests h.attempt.ge hears hending
      (hready.imp_right fun hdrained => hdrained inbox hinbox)
    simp only [Inbox.receiveAll, List.append_nil]
    exact ⟨next, hgoes, settle hsession hfirst h.attempt hears' hrests⟩

/-- A run receives what a scenario receives. -/
theorem receive (h : r.Follows place st) (hdrained : st.IsDrained) (chunks : List Bytes) :
    ∃ r', Goes s r r' (st.receive chunks).1 ∧ r'.Follows place (st.receive chunks).2 := by
  induction chunks generalizing r st with
  | nil =>
    rw [Scenario.State.receive_nil fun inbox hm => (h.receiving inbox hm).2]
    exact ⟨r, Goes.refl r, h⟩
  | cons chunk chunks ih =>
    obtain ⟨session, hsession, -⟩ := h.session
    rw [Scenario.State.receive_cons hsession]
    obtain ⟨next, hgoes, hnext⟩ := h.receive_chunk (.inr hdrained)
    obtain ⟨last, hlast, hfollows⟩ := ih hnext (Scenario.isDrained_receive_cons st chunk [])
    exact ⟨last, hgoes.trans hlast, hfollows⟩

/-- A run loses its server as the scenario does. -/
theorem serverCloses (h : r.Follows place st) (hdrained : st.IsDrained) :
    ∃ r', Goes s r r' st.serverCloses.1 ∧ r'.Follows place st.serverCloses.2 ∧
      st.serverCloses.2.inbox = none := by
  cases hinbox : st.inbox with
  | none =>
    rw [Scenario.State.serverCloses_of_none hinbox]
    exact ⟨r, Goes.refl r, ⟨h.rests, h.attempt, h.session, h.receiving, h.ended⟩, hinbox⟩
  | some inbox =>
    obtain ⟨hears, hending⟩ := h.receiving inbox hinbox
    obtain ⟨session, hsession, hfirst⟩ := h.session
    have hnothing := (hdrained inbox hinbox).takeFrame?_eq_none
    have hcan : r.line.can (.lose none) = true := by
      rw [Line.can, hears.isReading, hending, Line.nextFrame?, hears.inbox, Option.bind_some,
        hnothing]
      rfl
    have hclose : inbox.close = ([.connectionClosed], { inbox with ending := some .closed }) := by
      rw [Inbox.close, hending]
    obtain ⟨lost, hgoes, hrests, hline⟩ := h.rests.quiet rfl rfl rfl hcan
    simp only [Line.after, hears.inbox, hclose] at hrests hline
    have hsaying : lost.line.saying = [] ++ [.connectionClosed] := by rw [hline]; rfl
    have hlost : lost.line.inbox = some { inbox with ending := some .closed } := by rw [hline]
    have hended : lost.line.inbox.any fun inbox => inbox.ending.isSome := by rw [hlost]; rfl
    obtain ⟨last, hlast, hstays, hsaid, hinbox', hlistening⟩ :=
      hrests.close h.attempt.ge hsaying List.not_mem_nil
        (fun notice hm => List.mem_singleton.mp hm) hended
    have hears' : last.Hears { inbox with ending := some .closed } := by
      refine ⟨hinbox'.trans hlost, hlistening.trans ?_, hsaid⟩
      rw [hline]
      exact hears.isListening
    let left : Scenario.State := { st with serverHolds := false }
    have hleft : left.client.session = some session := hsession
    have hfollows := settle hleft hfirst h.attempt hears' hstays
    unfold Scenario.State.serverCloses
    simp only [hinbox, hclose]
    refine ⟨last, hgoes.trans hlast, hfollows, ?_⟩
    unfold Scenario.State.settle
    simp only [hsession, Option.isSome_some, if_true]

/-- What a request does with its session leaves all else that the scenario knows of. -/
theorem behind (h : r.Follows place st) {next : Place} {k : Counters} (hplace : r'.place = next)
    (hworld : r'.traffic.world = r.traffic.world) (hasked : r'.traffic.asked = [])
    (hcounters : r'.traffic.counters = k)
    (hline : ∃ queued tried octets told, r'.line = { r.line with
      queue := []
      queued := queued
      tried := tried
      octets := octets
      told := told }) : r'.Follows next { st with counters := k } := by
  obtain ⟨queued, tried, octets, told, hline⟩ := hline
  have hrests := h.rests
  have hsame {inbox : Inbox} (hears : r.Hears inbox) : r'.Hears inbox := by
    refine ⟨?_, ?_, ?_⟩
    · rw [hline]
      exact hears.inbox
    · rw [hline]
      exact hears.isListening
    · rw [hline]
      exact hears.saying
  refine ⟨⟨hplace, ?_, hcounters, ?_, hasked, ?_, ?_, ?_⟩, h.attempt, h.session,
    fun inbox hm => ?_, fun hnone => ?_⟩
  · rw [hworld]
    exact hrests.client
  · rw [hworld]
    exact hrests.farewells
  · rw [hline]
    exact hrests.isOpen
  · rw [hline]
  · rw [hline]
    exact hrests.writing
  · obtain ⟨hears, hending⟩ := h.receiving inbox hm
    exact ⟨hsame hears, hending⟩
  · obtain ⟨⟨inbox, hears, hending⟩, hcancelled⟩ := h.ended hnone
    exact ⟨⟨inbox, hsame hears, hending⟩, hcancelled⟩

theorem request {q : Request} {rest : List Request} (h : r.Follows (.asking (q :: rest)) st) :
    ∃ r', Goes s r r' (st.request q).1.notices ∧ r'.Follows (.asking rest) (st.request q).2 := by
  have hissues : r.proceed s .nothing = r.move (.submitting rest) (.issue q) := by
    rw [proceed, h.rests.place]
  obtain ⟨asking, hgoes, hplace, htraffic⟩ :=
    goes_main hissues rfl (Traffic.news_of_told rfl rfl)
  have hsubmits : asking.proceed s .nothing = asking.move (.asking rest) (.submit 0) := by
    rw [proceed, hplace]
  have hasked : asking.traffic.asked = [⟨q, st.client⟩] := by
    rw [htraffic, h.rests.asked, h.rests.client]
    rfl
  have hworld : asking.traffic.world = r.traffic.world := by rw [htraffic]
  have hcounters : asking.traffic.counters = st.counters := by
    rw [htraffic]
    exact h.rests.counters
  have hline : asking.line = r.line := by rw [line, htraffic]; rfl
  have hfirst : ∀ x, st.client.live? = some x → x.attempt = 1 := by
    obtain ⟨session, hsession, hfirst⟩ := h.session
    intro x hlive
    cases hsession.symm.trans (Traffic.session_of_live? hlive)
    exact hfirst
  have hopen : asking.line.isOpen = true := by rw [hline, h.rests.isOpen]
  have hempty : asking.line.queue = [] := by rw [hline, h.rests.queue]
  cases hrequest : st.client.request true q with
  | error notice =>
    obtain ⟨t, hstep, hnews, hworld', hasked', hcounters', told, hline'⟩ :=
      Traffic.submit_error hasked hfirst hopen hrequest
    obtain ⟨last, hlast, hplace', ht⟩ := goes_main hsubmits hstep hnews
    simp only [Scenario.State.request, hrequest]
    refine ⟨last, hgoes.trans hlast, ?_⟩
    have hsame : last.line = { asking.line with told := told } := by rw [line, ht, hline']; rfl
    subst ht
    refine h.behind hplace' (hworld'.trans hworld) hasked' (hcounters'.trans hcounters)
      ⟨r.line.queued, r.line.tried, r.line.octets, told, ?_⟩
    rw [hsame, hline, ← h.rests.queue]
  | ok frame =>
    obtain ⟨t, hstep, hnews, hworld', hasked', hcounters', hline'⟩ :=
      Traffic.submit_ok hasked hfirst hopen hempty hrequest
    obtain ⟨queued, hqueued, hplace', ht⟩ := goes_main hsubmits hstep hnews
    simp only [Scenario.State.request, hrequest]
    have hsame : queued.line = { asking.line with
        queue := [frame]
        queued := asking.line.queued ++ [frame] } := by rw [line, ht, hline']; rfl
    obtain ⟨last, hlast, hplace'', hworld'', hasked'', hcounters'', tried, octets, hline''⟩ :=
      goes_written (s := s) (by rw [hsame, hopen]) (by rw [hsame])
        (by rw [hsame, hline, h.rests.writing])
    refine ⟨last, hgoes.trans (hqueued.trans hlast), ?_⟩
    subst ht
    refine h.behind (hplace''.trans hplace') (hworld''.trans (hworld'.trans hworld))
      (hasked''.trans hasked') ?_
      ⟨asking.line.queued ++ [frame], tried, octets, r.line.told, ?_⟩
    · rw [hcounters'', hcounters', hcounters]
    · rw [hline'', hsame, hline]

/-- A run asks for what the scenario asks for. -/
theorem ask {requests : List Request} (h : r.Follows (.asking requests) st) :
    ∃ r', Goes s r r' (Run.ask requests st).1.notices ∧
      r'.Follows (.asking []) (Run.ask requests st).2 := by
  induction requests generalizing r st with
  | nil => exact ⟨r, Goes.refl r, h⟩
  | cons q rest ih =>
    obtain ⟨next, hgoes, hnext⟩ := h.request (s := s)
    obtain ⟨last, hlast, hfollows⟩ := ih hnext
    exact ⟨last, hgoes.trans hlast, hfollows⟩

/-- A run whose session has ended comes to its end, and reports the counters of the scenario. -/
theorem finish (h : r.Follows (.asking []) st) (hnone : st.inbox = none) :
    ∃ paces r', r.run s paces = some r' ∧ r'.place = .finished ∧
      r'.printed = r.printed ++ [.stats st.disconnect.counters] := by
  obtain ⟨⟨inbox, hears, hending⟩, hcancelled⟩ := h.ended hnone
  obtain ⟨session, hsession, hfirst⟩ := h.session
  have hrests := h.rests
  -- The main task finds its session cancelled, gives it up and cancels it once more.
  have hwaits := goes_place (s := s) (r := r) .waiting (by rw [proceed, hrests.place])
  have hover : (r.traffic.world.client.session.all fun x =>
      r.traffic.world.client.isCancelled x.attempt) = true := by
    rw [hrests.client, hsession, Option.all_some, hfirst, hcancelled]
  have hparts := goes_place (s := s) (r := { r with place := .waiting }) .parting (if_pos hover)
  have hleaves : proceed s { r with place := .parting } .nothing =
      Runner.move { r with place := .parting } .cancelling (.call .disconnect) := rfl
  obtain ⟨parting, hparting, hcancelling, htraffic⟩ :=
    goes_main hleaves rfl (Traffic.news_of_told rfl rfl)
  have hfarewells : parting.traffic.world.farewells = [.ending 1] := by
    rw [htraffic]
    dsimp only
    rw [hrests.farewells, hrests.client, hsession, ← hfirst]
    rfl
  have hcancels : parting.proceed s .nothing = parting.move .joining (.call (.farewell 0)) := by
    rw [proceed, hcancelling]
  have hcancel : parting.traffic.step (.call (.farewell 0)) = some { parting.traffic with
      world := { parting.traffic.world with
        client := parting.traffic.world.client.cancel 1
        farewells := [.joining] } } := by
    simp only [Traffic.step, World.step, World.sayFarewell, hfarewells]
    rfl
  obtain ⟨joining, hjoining, hplace, htraffic'⟩ :=
    goes_main hcancels hcancel (Traffic.news_of_told rfl rfl)
  -- Both tasks have nothing more to do.
  have hline : joining.line = r.line := by rw [line, htraffic', htraffic]; rfl
  have hpermits : joining.traffic.permits 1 (.stop 0) = true := by
    rw [Traffic.permits, htraffic']
    simp [Client.isCancelled, Client.cancel]
  have hcan : joining.line.can (.stop 0) = true := by rw [hline]; exact hrests.isOpen
  obtain ⟨stopped, hstopped, hplace', hworld, -, hcounters, hline'⟩ :=
    goes_task (s := s) rfl hpermits hcan
  rw [hline] at hline'
  have hidle : (stopped.line.isOpen || !stopped.line.isHushed) = false := by
    rw [hline', Line.isHushed, Line.after]
    simp only [hears.saying, Line.isReading, hears.inbox]
    simp [hending]
  have hcounts : stopped.proceed s .nothing = stopped.move .counting (.call (.farewell 0)) := by
    rw [proceed, hplace', hplace]
    simp only [hidle]
    rfl
  have hend : stopped.traffic.step (.call (.farewell 0)) = some { stopped.traffic with
      world := { stopped.traffic.world with farewells := [.ended] } } := by
    have hjoins : stopped.traffic.world.farewells = [.joining] := by rw [hworld, htraffic']
    simp only [Traffic.step, World.step, World.sayFarewell, hjoins]
    rfl
  obtain ⟨counting, hcounting, hplace'', htraffic''⟩ :=
    goes_main hcounts hend (Traffic.news_of_told rfl rfl)
  obtain ⟨last, hlast, hfinished, hlog⟩ : ∃ last, counting.step s (.main .nothing) = some last ∧
      last.place = .finished ∧
      last.log = counting.log ++ [.reported (.stats counting.traffic.counters)] := by
    rw [step, proceed, hplace'']
    exact ⟨_, rfl, rfl, rfl⟩
  have hsame : counting.traffic.counters = st.disconnect.counters := by
    have hkept : st.disconnect.counters = st.counters := rfl
    rw [htraffic'', hkept, ← hrests.counters]
    refine hcounters.trans ?_
    rw [htraffic', htraffic]
    rfl
  have hparted := (hwaits.trans hparts).trans (hparting.trans hjoining)
  have hall := hparted.trans (hstopped.trans hcounting)
  obtain ⟨paces, hr⟩ := hall.reached
  refine ⟨paces ++ [.main .nothing], last, ?_, hfinished, ?_⟩
  · rw [run_append, hr, Option.bind_some, run_singleton, hlast]
  · rw [← hsame, printed, hlog, List.filterMap_append]
    exact congrArg (· ++ _) (hall.printed.trans (List.append_nil _))

end Follows

end Runner

end BrokerWire
