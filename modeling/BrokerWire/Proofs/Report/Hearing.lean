import BrokerWire.Proofs.Report.Finishing
import BrokerWire.Proofs.Session.Closing
import BrokerWire.Proofs.Session.Conversation

namespace BrokerWire

namespace Inbox

theorem IsDrained.takeFrame?_eq_none {i : Inbox} (h : i.IsDrained) : i.takeFrame? = none := by
  unfold takeFrame?
  cases hending : i.ending with
  | some ending => rfl
  | none =>
    obtain ⟨hbig, hc⟩ := h hending
    simp only [Scanner.next_of_not_hasFrame hbig hc]

/-- A frame that leaves the session open makes the stream shorter. -/
theorem length_takeFrame? {i next : Inbox} {notices : List Notice} {sizes : List Nat}
    (h : i.takeFrame? = some (notices, sizes, next)) (hnext : next.ending = none) :
    next.scanner.buffer.length < i.scanner.buffer.length := by
  unfold takeFrame? at h
  split at h
  · cases h
  split at h
  · cases h
  · cases h
    cases hnext
  · next hscan =>
    have hlength := Scanner.next_length hscan
    cases h
    dsimp only
    rw [headerLength] at hlength
    omega

/-- The end of the session is told behind all else. -/
theorem closing_takeFrame? {i next : Inbox} {notices : List Notice} {sizes : List Nat}
    (h : i.takeFrame? = some (notices, sizes, next)) :
    ∃ early closing, notices = early ++ closing ∧ .connectionClosed ∉ early ∧
      (∀ notice ∈ closing, notice = .connectionClosed) ∧ (next.ending = none → closing = []) := by
  have hnothing (hcount : notices.count .connectionClosed = 0) :
      ∃ early closing, notices = early ++ closing ∧ .connectionClosed ∉ early ∧
        (∀ notice ∈ closing, notice = .connectionClosed) ∧ (next.ending = none → closing = []) :=
    ⟨notices, [], (List.append_nil _).symm, List.count_eq_zero.mp hcount,
      fun notice hm => absurd hm List.not_mem_nil, fun _ => rfl⟩
  have hcount := (count_takeFrame? h).2
  unfold takeFrame? at h
  split at h
  · cases h
  split at h
  · cases h
  · next fault rest _ =>
    cases h
    refine ⟨[_], [.connectionClosed], rfl, ?_, ?_, ?_⟩
    · rw [List.mem_singleton]
      intro he
      cases he
    · intro notice hm
      exact List.mem_singleton.mp hm
    · intro hnone
      cases hnone
  · cases h
    exact hnothing (count_arrive _ _)

/-- To receive is to put the chunk behind what is there, and to take what can be taken. -/
theorem receive_push (i : Inbox) (hending : i.ending = none) (chunk : Bytes) :
    ({ i with scanner := i.scanner.push chunk } : Inbox).receive [] = i.receive chunk := by
  have hpush : (i.scanner.push chunk).push [] = i.scanner.push chunk := by
    rw [Scanner.push, List.append_nil]
  simp only [receive, hending, hpush]

end Inbox

namespace Runner

variable {s : Settings} {r r' r'' : Runner} {place : Place} {c : Client} {k : Counters}

/-- A run goes on and prints the records of some notices. -/
structure Goes (s : Settings) (r r' : Runner) (notices : List Notice) : Prop where
  reached : ∃ paces, r.run s paces = some r'
  printed : r'.printed = r.printed ++ Run.records notices

theorem Goes.refl (r : Runner) : Goes s r r [] :=
  ⟨⟨[], rfl⟩, (List.append_nil _).symm⟩

theorem Goes.trans {notices more : List Notice} (h : Goes s r r' notices)
    (h' : Goes s r' r'' more) : Goes s r r'' (notices ++ more) := by
  obtain ⟨paces, hr⟩ := h.reached
  obtain ⟨later, hlater⟩ := h'.reached
  refine ⟨⟨paces ++ later, ?_⟩, ?_⟩
  · rw [run_append, hr, Option.bind_some, hlater]
  · rw [h'.printed, h.printed, Run.records, Run.records, Run.records, List.filterMap_append,
      List.append_assoc]

theorem Goes.of_step {pace : Pace} {notices : List Notice} (hs : r.step s pace = some r')
    (hlog : r'.log = r.log ++ notices.map .told) : Goes s r r' notices := by
  refine ⟨⟨[pace], ?_⟩, ?_⟩
  · rw [run_singleton, hs]
  · unfold Runner.printed
    rw [hlog, List.filterMap_append, printed_told]

theorem goes_task {deed : Deed} (htask : deed.isTask = true)
    (hpermits : r.traffic.permits 1 deed = true) (hcan : r.line.can deed = true) :
    ∃ r', Goes s r r' ((deed.tells r.line r.traffic.counters).map Prod.snd) ∧
      r'.place = r.place ∧ r'.traffic.world = r.traffic.world ∧ r'.traffic.asked = r.traffic.asked ∧
      r'.traffic.counters = (r.line.after 1 r.traffic.counters deed).counters ∧
      r'.line = (r.line.after 1 r.traffic.counters deed).line := by
  obtain ⟨next, hs, hplace, hlog, hsame⟩ := step_of_task htask hpermits hcan
  exact ⟨next, .of_step hs hlog, hplace, hsame⟩

/-- A run whose session has nothing to write. -/
structure Rests (r : Runner) (place : Place) (c : Client) (k : Counters) : Prop where
  place : r.place = place
  client : r.traffic.world.client = c
  counters : r.traffic.counters = k
  farewells : r.traffic.world.farewells = []
  asked : r.traffic.asked = []
  isOpen : r.line.isOpen = true
  queue : r.line.queue = []
  writing : r.line.writing = none

namespace Rests

theorem quiet (h : r.Rests place c k) {deed : Deed} (hquiet : deed.isQuiet = true)
    (htask : deed.isTask = true) (hpermits : r.traffic.permits 1 deed = true)
    (hcan : r.line.can deed = true) :
    ∃ r', Goes s r r' ((deed.tells r.line k).map Prod.snd) ∧
      r'.Rests place c (r.line.after 1 k deed).counters ∧
      r'.line = (r.line.after 1 k deed).line := by
  obtain ⟨next, hgoes, hplace, hworld, hasked, hcounters, hline⟩ := goes_task htask hpermits hcan
  rw [h.counters] at hgoes hcounters hline
  obtain ⟨⟨inbox, isListening, due, saying, heard, told, hsame, -⟩, -⟩ :=
    Line.isQuiet_after deed hquiet r.line 1 k
  refine ⟨next, hgoes, ⟨hplace.trans h.place, ?_, hcounters, ?_, hasked.trans h.asked, ?_, ?_, ?_⟩,
    hline⟩
  · rw [hworld]
    exact h.client
  · rw [hworld]
    exact h.farewells
  · rw [hline, hsame]
    exact h.isOpen
  · rw [hline, hsame]
    exact h.queue
  · rw [hline, hsame]
    exact h.writing

theorem speak (h : r.Rests place c k) {early later : List Notice}
    (hsaying : r.line.saying = early ++ later)
    (hmay : .connectionClosed ∉ early ∨ c.isCancelled 1 = true) :
    ∃ r', Goes s r r' early ∧ r'.Rests place c k ∧ r'.line.saying = later ∧
      r'.line.inbox = r.line.inbox ∧ r'.line.isListening = r.line.isListening := by
  induction early generalizing r with
  | nil => exact ⟨r, Goes.refl r, h, hsaying, rfl, rfl⟩
  | cons notice early ih =>
    have hpermits : r.traffic.permits 1 .say = true := by
      have hhead : (r.traffic.lines 1).saying.head? = some notice := congrArg List.head? hsaying
      simp only [Traffic.permits, hhead, h.client, Bool.or_eq_true, bne_iff_ne]
      refine hmay.imp_left fun hnot he => hnot ?_
      rw [Option.some.inj he]
      exact List.mem_cons_self
    have hcan : r.line.can .say = true := by rw [Line.can, hsaying]; rfl
    obtain ⟨next, hgoes, hrests, hline⟩ := h.quiet rfl rfl hpermits hcan
    have hnext : next.line.saying = early ++ later := by rw [hline, Line.after, hsaying]; rfl
    obtain ⟨last, hlast, hrest, hlater, hinbox, hlistening⟩ :=
      ih hrests hnext (hmay.imp_left fun hnot hm => hnot (List.mem_cons_of_mem _ hm))
    refine ⟨last, ?_, hrest, hlater, ?_, ?_⟩
    · have hall := hgoes.trans hlast
      rw [Deed.tells, hsaying] at hall
      exact hall
    · rw [hinbox, hline]
      rfl
    · rw [hlistening, hline]
      rfl

/-- The session ends behind what was to be told of that. -/
theorem sessionEnds (h : r.Rests place c k) (hattempt : 1 ≤ c.attempt)
    (hspent : r.line.isSpent = true) :
    ∃ r', Goes s r r' [] ∧ r'.Rests place (c.cancel 1) k ∧ r'.line = r.line := by
  obtain ⟨t, hstep, hclient, hsame, hlines, houtside⟩ :
      ∃ t, r.traffic.step (.call (.sessionEnds 1)) = some t ∧
        t.world.client = r.traffic.world.client.cancel 1 ∧
        (t.world.farewells = r.traffic.world.farewells ∧ t.counters = r.traffic.counters ∧
          t.asked = r.traffic.asked) ∧
        t.lines = r.traffic.lines ∧ t.outside = r.traffic.outside := by
    have hle : 1 ≤ r.traffic.world.client.attempt := by
      rw [h.client]
      exact hattempt
    have hcan : (r.traffic.lines 1).can .findSpent = true := hspent
    simp only [Traffic.step, World.step, if_pos hle, Option.bind_some, World.deed?, Traffic.act,
      hcan, if_true]
    exact ⟨_, rfl, rfl, ⟨rfl, rfl, rfl⟩, Function.update_eq_self _ _, rfl⟩
  have hnews : r.traffic.news t = [] := Traffic.news_of_told (by rw [hlines]) houtside
  have hs : r.step s .sessionEnds = some ⟨t, r.place, r.log ++ (r.traffic.news t).map .told⟩ := by
    rw [step, move, hstep]
    rfl
  have hline : t.lines 1 = r.line := congrFun hlines 1
  refine ⟨_, .of_step hs (by rw [hnews]), ?_, hline⟩
  obtain ⟨hfarewells, hcounters, hasked⟩ := hsame
  refine ⟨h.place, ?_, hcounters.trans h.counters, hfarewells.trans h.farewells,
    hasked.trans h.asked, ?_, ?_, ?_⟩
  · rw [← h.client]
    exact hclient
  · rw [line, hline]
    exact h.isOpen
  · rw [line, hline]
    exact h.queue
  · rw [line, hline]
    exact h.writing

/-- The session ends, and the end of it is told behind that. -/
theorem close (h : r.Rests place c k) (hattempt : 1 ≤ c.attempt) {early closing : List Notice}
    (hsaying : r.line.saying = early ++ closing) (hearly : .connectionClosed ∉ early)
    (hclosing : ∀ notice ∈ closing, notice = .connectionClosed)
    (hended : r.line.inbox.any fun inbox => inbox.ending.isSome) :
    ∃ r', Goes s r r' (early ++ closing) ∧ r'.Rests place (c.cancel 1) k ∧ r'.line.saying = [] ∧
      r'.line.inbox = r.line.inbox ∧ r'.line.isListening = r.line.isListening := by
  obtain ⟨next, hgoes, hrests, hlater, hinbox, hlistening⟩ := h.speak hsaying (.inl hearly)
  have hspent : next.line.isSpent = true := by
    rw [Line.isSpent, hlater, hinbox, hended, Bool.and_true, List.all_eq_true]
    exact fun notice hm => beq_iff_eq.mpr (hclosing notice hm)
  obtain ⟨ended, hends, hcancelled, hsame⟩ := hrests.sessionEnds hattempt hspent
  have hrest : ended.line.saying = closing ++ [] := by
    rw [hsame, hlater, List.append_nil]
  have hdown : (c.cancel 1).isCancelled 1 = true := by
    simp [Client.isCancelled, Client.cancel]
  obtain ⟨last, hlast, hstays, hnothing, hinbox', hlistening'⟩ :=
    hcancelled.speak hrest (.inr hdown)
  refine ⟨last, (hgoes.trans (hends.trans hlast)), hstays, hnothing, ?_, ?_⟩
  · rw [hinbox', hsame, hinbox]
  · rw [hlistening', hsame, hlistening]

end Rests

/-- The task that reads has an inbox, and nothing to tell. -/
structure Hears (r : Runner) (inbox : Inbox) : Prop where
  inbox : r.line.inbox = some inbox
  isListening : r.line.isListening = true
  saying : r.line.saying = []

theorem Hears.isReading {inbox : Inbox} (h : r.Hears inbox) :
    r.line.isReading = inbox.ending.isNone := by
  rw [Line.isReading, h.inbox, h.isListening, h.saying]
  rfl

/-- The client behind an inbox that may have ended. -/
def settled (c : Client) (inbox : Inbox) : Client :=
  if inbox.ending.isSome then c.cancel 1 else c

theorem take (h : r.Rests place c k) (hattempt : 1 ≤ c.attempt) {i next : Inbox} (hears : r.Hears i)
    (hending : i.ending = none) {notices : List Notice} {sizes : List Nat}
    (hframe : i.takeFrame? = some (notices, sizes, next)) :
    ∃ r', Goes s r r' notices ∧ r'.Rests place (settled c next) (k.receivedAll sizes) ∧
      r'.Hears next := by
  obtain ⟨early, closing, hnotices, hearly, hclosing, hopen⟩ := Inbox.closing_takeFrame? hframe
  have hnext : r.line.nextFrame? = some (notices, sizes, next) := by
    rw [Line.nextFrame?, hears.inbox, Option.bind_some, hframe]
  have hcan : r.line.can .receive = true := by
    rw [Line.can, hears.isReading, hending, hnext]
    rfl
  obtain ⟨taken, hgoes, hrests, hline⟩ := h.quiet rfl rfl rfl hcan
  simp only [Line.after, hnext] at hrests hline
  have hsaying : taken.line.saying = early ++ closing := by
    rw [hline]
    exact hnotices
  have hinbox : taken.line.inbox = some next := by rw [hline]
  have hlistening : taken.line.isListening = true := by
    rw [hline]
    exact hears.isListening
  unfold settled
  cases hended : next.ending with
  | none =>
    rw [hopen hended] at hsaying hnotices
    obtain ⟨last, hlast, hstays, hsaid, hinbox', hlistening'⟩ :=
      hrests.speak hsaying (.inl hearly)
    rw [hnotices, List.append_nil]
    exact ⟨last, hgoes.trans hlast, hstays,
      ⟨hinbox'.trans hinbox, hlistening'.trans hlistening, hsaid⟩⟩
  | some ending =>
    have hany : taken.line.inbox.any fun inbox => inbox.ending.isSome := by
      rw [hinbox, Option.any_some, hended]
      rfl
    obtain ⟨last, hlast, hstays, hsaid, hinbox', hlistening'⟩ :=
      hrests.close hattempt hsaying hearly hclosing hany
    rw [hnotices]
    exact ⟨last, hgoes.trans hlast, hstays,
      ⟨hinbox'.trans hinbox, hlistening'.trans hlistening, hsaid⟩⟩

theorem drain (h : r.Rests place c k) (hattempt : 1 ≤ c.attempt) {i : Inbox} (hears : r.Hears i)
    (hending : i.ending = none) :
    ∃ r', Goes s r r' (i.receive []).1 ∧
      r'.Rests place (settled c (i.receive []).2.2) (k.receivedAll (i.receive []).2.1) ∧
      r'.Hears (i.receive []).2.2 := by
  -- Each frame that leaves the session open makes the stream shorter.
  induction hlength : i.scanner.buffer.length using Nat.strong_induction_on generalizing r i k with
  | h length ih =>
    rw [Inbox.receive_of_takeFrame?]
    cases hframe : i.takeFrame? with
    | none =>
      refine ⟨r, Goes.refl r, ?_, hears⟩
      rw [settled, hending]
      exact h
    | some taken =>
      obtain ⟨notices, sizes, next⟩ := taken
      obtain ⟨behind, hgoes, hrests, hears'⟩ := take h hattempt hears hending hframe
      cases hnext : next.ending with
      | some ending =>
        have hnothing : next.receive [] = ([], [], next) := by rw [Inbox.receive, hnext]
        simp only [hnothing, List.append_nil]
        exact ⟨behind, hgoes, hrests, hears'⟩
      | none =>
        have hshorter := Inbox.length_takeFrame? hframe hnext
        rw [settled, hnext] at hrests
        obtain ⟨last, hlast, hstays, hears''⟩ :=
          ih _ (hlength ▸ hshorter) hrests hears' hnext rfl
        refine ⟨last, hgoes.trans hlast, ?_, hears''⟩
        dsimp only
        rw [Counters.receivedAll, List.foldl_append]
        exact hstays

/-- The task that reads receives a chunk. -/
theorem hear (h : r.Rests place c k) (hattempt : 1 ≤ c.attempt) {i : Inbox} (hears : r.Hears i)
    (hending : i.ending = none) {chunk : Bytes} (hready : chunk = [] ∨ i.IsDrained) :
    ∃ r', Goes s r r' (i.receive chunk).1 ∧
      r'.Rests place (settled c (i.receive chunk).2.2) (k.receivedAll (i.receive chunk).2.1) ∧
      r'.Hears (i.receive chunk).2.2 := by
  by_cases hnil : chunk = []
  · subst hnil
    exact drain h hattempt hears hending
  have hdrained := (hready.resolve_left hnil).takeFrame?_eq_none
  have hcan : r.line.can (.fill chunk) = true := by
    rw [Line.can, hears.isReading, hending, Line.nextFrame?, hears.inbox, Option.bind_some,
      hdrained]
    simp [hnil]
  obtain ⟨filled, hgoes, hrests, hline⟩ := h.quiet rfl rfl rfl hcan
  have hears' : filled.Hears { i with scanner := i.scanner.push chunk } := by
    refine ⟨?_, ?_, ?_⟩
    · rw [hline, Line.after, hears.inbox]
      rfl
    · rw [hline]
      exact hears.isListening
    · rw [hline]
      exact hears.saying
  obtain ⟨last, hlast, hstays, hears''⟩ := drain hrests hattempt hears' hending
  rw [Inbox.receive_push i hending] at hlast hstays hears''
  exact ⟨last, hgoes.trans hlast, hstays, hears''⟩

end Runner

end BrokerWire
