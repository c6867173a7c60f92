import BrokerWire.Proofs.Session.Sending

namespace BrokerWire

/-- The moves of the task that writes while its session lives. -/
inductive Move.Writes (number : Nat) : Move → Prop
  | take : Writes number (.task number .take)
  | finish (write : Write) : Writes number (.task number (.finish write))

namespace Traffic

theorem Reachable.sends {t : Traffic} (h : t.Reachable) (n : Nat) : (t.lines n).Sends :=
  h.line_induction Line.sends_fresh (fun hline hcan hsuits => hline.after hcan hsuits) n

theorem world_act {t t' : Traffic} {number : Nat} {deed : Deed} (h : t.act number deed = some t') :
    t'.world = t.world := by
  obtain ⟨-, rfl⟩ := act_eq_some h
  rfl

/-- What is cancelled stays so, whatever goes on. -/
theorem keepsCancelled_step {t t' : Traffic} {move : Move} (hs : t.step move = some t') :
    t.world.client.KeepsCancelled t'.world.client := by
  obtain ⟨action, world, hworld, hdeed⟩ | ⟨asked, outside, rfl, -⟩ |
    ⟨asking, -, s, asked, deed, -, -, -, hact⟩ | ⟨number, deed, -, hact⟩ | ⟨-, rfl⟩ := step_cases hs
  · have hkeeps := World.keepsCancelled_step hworld
    obtain ⟨-, rfl⟩ | ⟨number, deed, -, hact⟩ := hdeed
    · exact hkeeps
    · rw [world_act hact]
      exact hkeeps
  · exact fun _ => id
  · rw [world_act hact]
    exact fun _ => id
  · rw [world_act hact]
    exact fun _ => id
  · exact fun _ => id

/-- As long as a session is not cancelled, somebody takes its frames, or there was never one. -/
theorem Reachable.open_of_alive {t : Traffic} (h : t.Reachable) {n : Nat}
    (halive : t.world.client.isCancelled n = false) :
    (t.lines n).isOpen = true ∨ (t.lines n).queued = [] := by
  obtain ⟨moves, hr⟩ := h
  have hall : t.Sound ∧ (t.world.client.isCancelled n = false →
      (t.lines n).isOpen = true ∨ (t.lines n).queued = []) := by
    refine run_induction (P := fun t => t.Sound ∧ (t.world.client.isCancelled n = false →
      (t.lines n).isOpen = true ∨ (t.lines n).queued = [])) ?_ ⟨sound_initial, fun _ => .inr rfl⟩ hr
    intro v v' move hv hs
    refine ⟨sound_step hv.1 hs, fun halive' => ?_⟩
    have hbefore : v.world.client.isCancelled n = false :=
      Bool.eq_false_iff.mpr fun htrue => by
        rw [keepsCancelled_step hs n htrue] at halive'
        cases halive'
    obtain ⟨hlines, -, -⟩ | ⟨-, hlines, -, -⟩ | ⟨number, deed, hcan, hsuits, hlines, -, -⟩ :=
      step_deed hv.1 hs
    · rw [hlines]
      exact hv.2 hbefore
    · rw [hlines]
      exact hv.2 hbefore
    · rw [hlines, Function.update_apply]
      split
      · next hn =>
        subst hn
        -- The task that writes stops only behind a cancellation, and there was none.
        refine Line.open_after (hv.2 hbefore) hcan ?_ n v.counters
        rintro count rfl
        rw [hbefore] at hsuits
        cases hsuits
      · exact hv.2 hbefore
  exact hall.2 halive

/-- The first frame in the queue of a session is the message that starts it. -/
theorem Reachable.first_queued {t : Traffic} (h : t.Reachable) (n : Nat) :
    ∀ frame ∈ (t.lines n).queued.head?, ∃ call version, t.world.calls n = some call ∧
      (t.lines n).inbox.map Inbox.version = some version ∧
      (Handshake.startApi version call.clientId call.capabilities).encode = .ok frame := by
  intro frame hm
  cases hcall : t.world.calls n with
  | none =>
    rw [h.sound.fresh n hcall] at hm
    cases hm
  | some call =>
    obtain ⟨version, hversion, hencode⟩ := (h.sound.follows hcall).start frame hm
    exact ⟨call, version, rfl, hversion, hencode⟩

theorem step_task (t : Traffic) (number : Nat) (deed : Deed)
    (hpermits : t.permits number deed = true) (hcan : (t.lines number).can deed = true) :
    ∃ t' : Traffic, t.step (.task number deed) = some t' ∧ t'.world = t.world ∧
      t'.lines number = ((t.lines number).after number t.counters deed).line := by
  simp only [step, act, if_pos hpermits, if_pos hcan]
  exact ⟨_, rfl, rfl, Function.update_self _ _ _⟩

/-- A write ends, done or not, and the next frame can be taken. -/
theorem step_finish {t : Traffic} {n : Nat} {frame : Bytes}
    (hwriting : (t.lines n).writing = some frame) (write : Write) :
    ∃ t' : Traffic, t.step (.task n (.finish write)) = some t' ∧ t'.world = t.world ∧
      (t'.lines n).isOpen = (t.lines n).isOpen ∧ (t'.lines n).writing = none ∧
      (t'.lines n).queue = (t.lines n).queue ∧
      (t'.lines n).tried = (t.lines n).tried ++ [(frame, write)] := by
  obtain ⟨t', hs, hworld, hline⟩ := step_task t n (.finish write) rfl (by
    rw [Line.can, hwriting]
    rfl)
  refine ⟨t', hs, hworld, ?_⟩
  rw [hline]
  refine ⟨rfl, rfl, rfl, ?_⟩
  simp only [Line.after, hwriting, Option.toList_some, List.map_cons, List.map_nil]

theorem step_take {t : Traffic} {n : Nat} {frame : Bytes} {rest : List Bytes}
    (hopen : (t.lines n).isOpen = true) (hwriting : (t.lines n).writing = none)
    (hqueue : (t.lines n).queue = frame :: rest) :
    ∃ t' : Traffic, t.step (.task n .take) = some t' ∧ t'.world = t.world ∧
      (t'.lines n).isOpen = true ∧ (t'.lines n).writing = some frame ∧
      (t'.lines n).queue = rest ∧ (t'.lines n).tried = (t.lines n).tried := by
  obtain ⟨t', hs, hworld, hline⟩ := step_task t n .take rfl (by
    rw [Line.can, hopen, hwriting, hqueue]
    rfl)
  refine ⟨t', hs, hworld, ?_⟩
  rw [hline]
  simp only [Line.after, hopen, hqueue, List.head?_cons, List.tail_cons]
  exact ⟨trivial, trivial, trivial, trivial⟩

/-- The next frame can be tried, whatever comes of that. -/
theorem try_next {t : Traffic} {n : Nat} {frame : Bytes} {rest : List Bytes}
    (hopen : (t.lines n).isOpen = true) (hpending : (t.lines n).pending = frame :: rest)
    (write : Write) :
    ∃ moves t', (∀ move ∈ moves, move.Writes n) ∧ t.run moves = some t' ∧ t'.world = t.world ∧
      (t'.lines n).isOpen = true ∧ (t'.lines n).pending = rest ∧
      (t'.lines n).tried = (t.lines n).tried ++ [(frame, write)] := by
  -- A frame that is being written comes before all that wait in the queue.
  cases hwriting : (t.lines n).writing with
  | none =>
    have hqueue : (t.lines n).queue = frame :: rest := by
      rw [← hpending, Line.pending, hwriting]
      rfl
    obtain ⟨u, hu, hworldu, hopenu, hwritingu, hqueueu, htriedu⟩ := step_take hopen hwriting hqueue
    obtain ⟨v, hv, hworldv, hopenv, hwritingv, hqueuev, htriedv⟩ := step_finish hwritingu write
    refine ⟨[.task n .take, .task n (.finish write)], v, ?_, ?_, hworldv.trans hworldu,
      hopenv.trans hopenu, ?_, ?_⟩
    · exact List.forall_mem_cons.mpr ⟨.take, List.forall_mem_singleton.mpr (.finish write)⟩
    · rw [run, hu, Option.bind_some, run_singleton, hv]
    · rw [Line.pending, hwritingv, hqueuev, hqueueu]
      rfl
    · rw [htriedv, htriedu]
  | some first =>
    obtain ⟨rfl, hqueue⟩ : first = frame ∧ (t.lines n).queue = rest := by
      rw [Line.pending, hwriting] at hpending
      exact List.cons.inj hpending
    obtain ⟨v, hv, hworldv, hopenv, hwritingv, hqueuev, htriedv⟩ := step_finish hwriting write
    refine ⟨[.task n (.finish write)], v, List.forall_mem_singleton.mpr (.finish write), ?_,
      hworldv, hopenv.trans hopen, ?_, htriedv⟩
    · rw [run_singleton, hv]
    · rw [Line.pending, hwritingv, hqueuev, hqueue]
      rfl

/-- All that waits can be tried, in order, whatever comes of each write. -/
theorem drain {t : Traffic} {n : Nat} (hopen : (t.lines n).isOpen = true) {writes : List Write}
    (hlength : writes.length = (t.lines n).pending.length) :
    ∃ moves t', (∀ move ∈ moves, move.Writes n) ∧ t.run moves = some t' ∧ t'.world = t.world ∧
      (t'.lines n).tried = (t.lines n).tried ++ (t.lines n).pending.zip writes ∧
      (t'.lines n).pending = [] := by
  induction writes generalizing t with
  | nil =>
    have hpending : (t.lines n).pending = [] := List.eq_nil_of_length_eq_zero hlength.symm
    refine ⟨[], t, fun move hm => absurd hm List.not_mem_nil, rfl, rfl, ?_, hpending⟩
    rw [List.zip_nil_right, List.append_nil]
  | cons write writes ih =>
    cases hpending : (t.lines n).pending with
    | nil =>
      rw [hpending] at hlength
      cases hlength
    | cons frame rest =>
      obtain ⟨first, u, hfirst, hu, hworldu, hopenu, hpendingu, htriedu⟩ :=
        try_next hopen hpending write
      rw [hpending, ← hpendingu] at hlength
      obtain ⟨later, t', hlater, ht', hworld, htried, hnone⟩ := ih hopenu (Nat.succ.inj hlength)
      refine ⟨first ++ later, t', ?_, ?_, hworld.trans hworldu, ?_, hnone⟩
      · exact List.forall_mem_append.mpr ⟨hfirst, hlater⟩
      · rw [run_append, hu, Option.bind_some, ht']
      · rw [htried, htriedu, hpendingu, List.zip_cons_cons, List.append_assoc,
          List.singleton_append]

/-- What a step sends is entered into the ledger, and the counters go by that. -/
theorem Reachable.entries_step {t t' : Traffic} {move : Move} (h : t.Reachable)
    (hs : t.step move = some t') (hmove : move ≠ .reset) :
    ∃ entries, .reset ∉ entries ∧ t'.ledger = t.ledger ++ entries ∧
      t'.counters = entries.foldl Counters.enter t.counters ∧
      ∀ n, (t'.lines n).sent = (t.lines n).sent ++ entries.filterMap (Entry.sentIn? n) := by
  obtain ⟨hlines, hcounters, hledger⟩ | ⟨rfl, -, -, -⟩ |
    ⟨number, deed, hcan, -, hlines, hcounters, hledger⟩ := step_deed h.sound hs
  · refine ⟨[], List.not_mem_nil, ?_, hcounters, fun n => ?_⟩
    · rw [hledger, List.append_nil]
    · rw [hlines, List.filterMap_nil, List.append_nil]
  · exact absurd rfl hmove
  · have hentries := (t.lines number).entries_after number t.counters deed
    refine ⟨_, fun hm => ?_, hledger, ?_, fun n => ?_⟩
    · obtain ⟨octets, he⟩ | ⟨size, he⟩ := hentries _ hm <;> cases he
    · rw [hcounters]
      exact Line.counters_after _ _ _ _
    · rw [hlines, Function.update_apply]
      split
      · next hn =>
        subst hn
        exact (h.sends n).sent_after hcan n t.counters
      · next hn =>
        -- A deed of one session enters nothing for another.
        have hnone : ((t.lines number).after number t.counters deed).entries.filterMap
            (Entry.sentIn? n) = [] := by
          refine List.filterMap_eq_nil_iff.mpr fun entry hm => ?_
          obtain ⟨octets, rfl⟩ | ⟨size, rfl⟩ := hentries entry hm
          · exact if_neg fun he => hn he.symm
          · rfl
        rw [hnone, List.append_nil]

/-- What a run without a reset sends is entered into the ledger, and the counters go by that. -/
theorem Reachable.entries_run {t t' : Traffic} (h : t.Reachable) {moves : List Move}
    (hmoves : .reset ∉ moves) (hr : t.run moves = some t') :
    ∃ entries, .reset ∉ entries ∧ t'.ledger = t.ledger ++ entries ∧
      t'.counters = entries.foldl Counters.enter t.counters ∧
      ∀ n, (t'.lines n).sent = (t.lines n).sent ++ entries.filterMap (Entry.sentIn? n) := by
  induction moves generalizing t with
  | nil =>
    cases hr
    refine ⟨[], List.not_mem_nil, (List.append_nil _).symm, rfl, fun n => ?_⟩
    rw [List.filterMap_nil, List.append_nil]
  | cons move moves ih =>
    obtain ⟨next, hnext, hrest⟩ := Option.bind_eq_some_iff.mp hr
    rw [List.mem_cons, not_or] at hmoves
    obtain ⟨first, hfirst, hledger, hcounters, hsent⟩ :=
      h.entries_step hnext fun he => hmoves.1 he.symm
    obtain ⟨later, hlater, hledger', hcounters', hsent'⟩ := ih (h.step hnext) hmoves.2 hrest
    refine ⟨first ++ later, ?_, ?_, ?_, fun n => ?_⟩
    · rw [List.mem_append, not_or]
      exact ⟨hfirst, hlater⟩
    · rw [hledger', hledger, List.append_assoc]
    · rw [hcounters', hcounters, List.foldl_append]
    · rw [hsent', hsent, List.filterMap_append, List.append_assoc]

/-- What was queued and what was tried is never taken back. -/
theorem Reachable.history_run {t t' : Traffic} (h : t.Reachable) {moves : List Move}
    (hr : t.run moves = some t') (n : Nat) :
    (t.lines n).queued <+: (t'.lines n).queued ∧ (t.lines n).tried <+: (t'.lines n).tried := by
  induction moves generalizing t with
  | nil =>
    cases hr
    exact ⟨List.prefix_rfl, List.prefix_rfl⟩
  | cons move moves ih =>
    obtain ⟨next, hnext, hrest⟩ := Option.bind_eq_some_iff.mp hr
    obtain ⟨hqueued, htried⟩ := ih (h.step hnext) hrest
    obtain ⟨hlines, -, -⟩ | ⟨-, hlines, -, -⟩ | ⟨number, deed, -, -, hlines, -, -⟩ :=
      step_deed h.sound hnext
    · rw [hlines] at hqueued htried
      exact ⟨hqueued, htried⟩
    · rw [hlines] at hqueued htried
      exact ⟨hqueued, htried⟩
    · rw [hlines, Function.update_apply] at hqueued htried
      split at hqueued
      · next hn =>
        subst hn
        rw [if_pos rfl] at htried
        exact ⟨((t.lines n).queued_isPrefix_after n t.counters deed).trans hqueued,
          ((t.lines n).tried_isPrefix_after n t.counters deed).trans htried⟩
      · next hn =>
        rw [if_neg hn] at htried
        exact ⟨hqueued, htried⟩

/-- As long as a session is not cancelled, whatever callers, tasks and writes do: what was queued is
what was tried and what still waits, the message that starts the session first; what was written is
what the writes that were done delivered, and what is told is one error for each that failed. A
write that ends leaves the calls and the queue as they are, all that waits can be tried whatever
comes of it, and the counters go up by what is sent. -/
theorem frames_tried {t : Traffic} (h : t.Reachable) {n : Nat}
    (halive : t.world.client.isCancelled n = false) :
    ((t.lines n).queued = (t.lines n).tried.map Prod.fst ++ (t.lines n).pending ∧
      (t.lines n).queue.length ≤ Outbox.capacity ∧
      (t.lines n).octets = (t.lines n).delivered.flatten ∧
      (t.lines n).toldBy .writer = (t.lines n).failures) ∧
    (∀ frame ∈ (t.lines n).queued.head?, ∃ call version, t.world.calls n = some call ∧
      (t.lines n).inbox.map Inbox.version = some version ∧
      (Handshake.startApi version call.clientId call.capabilities).encode = .ok frame) ∧
    (∀ write t', t.step (.task n (.finish write)) = some t' → t'.world = t.world ∧
      (t'.lines n).isOpen = (t.lines n).isOpen ∧ (t'.lines n).queue = (t.lines n).queue) ∧
    (∀ writes : List Write, writes.length = (t.lines n).pending.length →
      ∃ moves t', (∀ move ∈ moves, move.Writes n) ∧ t.run moves = some t' ∧ t'.world = t.world ∧
        (t'.lines n).tried = (t.lines n).tried ++ (t.lines n).pending.zip writes ∧
        (t'.lines n).pending = []) ∧
    ∀ moves t', .reset ∉ moves → t.run moves = some t' →
      (t.lines n).queued <+: (t'.lines n).queued ∧ (t.lines n).tried <+: (t'.lines n).tried ∧
      ∃ entries, t'.ledger = t.ledger ++ entries ∧
        (∀ number, (t'.lines number).sent =
          (t.lines number).sent ++ entries.filterMap (Entry.sentIn? number)) ∧
        t'.counters.messagesSent =
          t.counters.messagesSent + UInt64.ofNat (entries.filterMap Entry.sent?).length ∧
        t'.counters.bytesSent =
          t.counters.bytesSent + UInt64.ofNat (entries.filterMap Entry.sent?).flatten.length := by
  have hsends := h.sends n
  have hopen := h.open_of_alive halive
  obtain ⟨hqueued, hoctets⟩ := hsends.conserved hopen
  refine ⟨⟨hqueued, hsends.bounded, hoctets, hsends.failed⟩, h.first_queued n, ?_, ?_, ?_⟩
  · intro write t' hs
    have hact : t.act n (.finish write) = some t' := hs
    refine ⟨world_act hact, ?_⟩
    obtain ⟨-, rfl⟩ := act_eq_some hact
    simp only [Function.update_self]
    exact ⟨rfl, rfl⟩
  · intro writes hlength
    obtain hopen | hnone := hopen
    · exact drain hopen hlength
    -- Nothing was ever queued, and so nothing waits.
    · rw [hnone] at hqueued
      have hpending := (List.append_eq_nil_iff.mp hqueued.symm).2
      refine ⟨[], t, fun move hm => absurd hm List.not_mem_nil, rfl, rfl, ?_, hpending⟩
      rw [hpending, List.zip_nil_left, List.append_nil]
  · intro moves t' hmoves hr
    obtain ⟨hqueued', htried'⟩ := h.history_run hr n
    obtain ⟨entries, hreset, hledger, hcounters, hsent⟩ := h.entries_run hmoves hr
    obtain ⟨hmessages, hbytes⟩ := Counters.sent_foldl hreset t.counters
    rw [← hcounters] at hmessages hbytes
    exact ⟨hqueued', htried', entries, hledger, hsent, hmessages, hbytes⟩

/-- The first message cannot be written, a request is written behind it, and another one waits. -/
theorem frames_tried_waiting :
    ∃ t : Traffic, t.Reachable ∧ t.world.client.isCancelled 1 = false ∧
      (t.lines 1).tried =
        [([0, 0, 0, 8, 55, 49, 0, 50, 0, 55, 0, 0], .failed "Broken pipe (os error 32)"),
          ([0, 0, 0, 5, 52, 57, 0, 49, 0], .done)] ∧
      (t.lines 1).pending = [[0, 0, 0, 5, 52, 57, 0, 49, 0]] ∧
      ((t.lines 1).queued = (t.lines 1).tried.map Prod.fst ++ (t.lines 1).pending ∧
        (t.lines 1).queue.length ≤ Outbox.capacity ∧
        (t.lines 1).octets = (t.lines 1).delivered.flatten ∧
        (t.lines 1).toldBy .writer = (t.lines 1).failures) ∧
      ∃ moves t', (∀ move ∈ moves, move.Writes 1) ∧ t.run moves = some t' ∧ t'.world = t.world ∧
        (t'.lines 1).tried = (t.lines 1).tried ++ (t.lines 1).pending.zip [.done] ∧
        (t'.lines 1).pending = [] := by
  obtain ⟨t, hreachable, hresult⟩ : ∃ t : Traffic, t.Reachable ∧
      (t.world.client.isCancelled 1, (t.lines 1).tried, (t.lines 1).pending) =
        (false, [([0, 0, 0, 8, 55, 49, 0, 50, 0, 55, 0, 0], .failed "Broken pipe (os error 32)"),
          ([0, 0, 0, 5, 52, 57, 0, 49, 0], .done)], [[0, 0, 0, 5, 52, 57, 0, 49, 0]]) :=
    reachable_of_run [.call (.connect 7), .call (.advance 1 .nothing), .task 1 (.greet none),
      .call (.advance 1 (.answer [[0x31, 0x30, 0x30, 0, 0x74, 0]])), .call (.advance 1 .nothing),
      .call (.advance 1 .nothing), .task 1 .take, .call (.advance 1 .nothing), .issue .currentTime,
      .submit 0, .task 1 (.finish (.failed "Broken pipe (os error 32)")), .issue .currentTime,
      .task 1 .take, .submit 0, .task 1 (.finish .done)] rfl
  rw [Prod.mk.injEq, Prod.mk.injEq] at hresult
  obtain ⟨halive, htried, hpending⟩ := hresult
  have hall := frames_tried hreachable halive
  have hdrain := hall.2.2.2.1 [.done] (by rw [hpending]; rfl)
  exact ⟨t, hreachable, halive, htried, hpending, hall.1, hdrain⟩

end Traffic

end BrokerWire
