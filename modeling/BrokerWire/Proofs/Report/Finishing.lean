import BrokerWire.Proofs.Report.Course

namespace BrokerWire

/-- Without a queue, and without a session, every request is refused. -/
theorem Client.request_refused (c : Client) (queueOpen : Bool) (r : Request)
    (h : queueOpen = false ∨ c.live? = none) : ∃ notice, c.request queueOpen r = .error notice := by
  obtain ⟨payload, -, haccepts⟩ | ⟨code, text, herror, -⟩ := c.request_cases queueOpen r
  · obtain hclosed | hnone := h
    · cases hclosed.symm.trans haccepts.isOpen
    · obtain ⟨x, hlive, -, -⟩ := haccepts.isServed
      cases hnone.symm.trans hlive
  · exact ⟨_, herror⟩

/-- What a task does with its session, and leaves to all others. -/
theorem Traffic.exists_task {t : Traffic} {number : Nat} {deed : Deed}
    (hpermits : t.permits number deed = true) (hcan : (t.lines number).can deed = true) :
    ∃ t', t.step (.task number deed) = some t' ∧ t'.world = t.world ∧ t'.asked = t.asked ∧
      t'.counters = ((t.lines number).after number t.counters deed).counters ∧
      t'.lines number = ((t.lines number).after number t.counters deed).line := by
  obtain ⟨t', ht⟩ : ∃ t', t.act number deed = some t' := ⟨_, if_pos hcan⟩
  have hstep : t.step (.task number deed) = some t' := (if_pos hpermits).trans ht
  obtain ⟨-, rfl⟩ := act_eq_some ht
  exact ⟨_, hstep, rfl, rfl, rfl, Function.update_self _ _ _⟩

namespace Runner

/-- Whether the session of a run was opened. -/
def Place.isOpened : Place → Bool
  | .fresh => false
  | .starting => false
  | .connecting => false
  | .failing _ => false
  | .failed _ => false
  | _ => true

variable {s : Settings} {r r' : Runner}

/-- A task can do its deed wherever the main task stands, and what it tells is logged. -/
theorem step_of_task {deed : Deed} (htask : deed.isTask = true)
    (hpermits : r.traffic.permits 1 deed = true) (hcan : r.line.can deed = true) :
    ∃ r', r.step s (.task deed) = some r' ∧ r'.place = r.place ∧
      r'.log = r.log ++ ((deed.tells r.line r.traffic.counters).map Prod.snd).map .told ∧
      r'.traffic.world = r.traffic.world ∧ r'.traffic.asked = r.traffic.asked ∧
      r'.traffic.counters = (r.line.after 1 r.traffic.counters deed).counters ∧
      r'.line = (r.line.after 1 r.traffic.counters deed).line := by
  obtain ⟨t, hstep, hworld, hasked, hcounters, hline⟩ := Traffic.exists_task hpermits hcan
  have hact : r.traffic.act 1 deed = some t := (if_pos hpermits).symm.trans hstep
  have hs : r.step s (.task deed) =
      some ⟨t, r.place, r.log ++ (r.traffic.news t).map .told⟩ := by
    rw [step, if_pos htask, move, hstep]
    rfl
  rw [Traffic.news_act hact] at hs
  exact ⟨_, hs, rfl, rfl, hworld, hasked, hcounters, hline⟩

/-- The main task takes all that goes on further, and what is told is logged. -/
theorem step_of_main {place : Place} {next : Move} {t : Traffic}
    (hproceed : r.proceed s .nothing = r.move place next) (hstep : r.traffic.step next = some t) :
    ∃ r', r.step s (.main .nothing) = some r' ∧ r'.place = place ∧ r'.traffic = t ∧
      r'.log = r.log ++ (r.traffic.news t).map .told := by
  have hs : r.step s (.main .nothing) =
      some ⟨t, place, r.log ++ (r.traffic.news t).map .told⟩ := by
    rw [step, hproceed, move, hstep]
    rfl
  exact ⟨_, hs, rfl, rfl, rfl⟩

/-- A run can come to its end. -/
def Comes (s : Settings) (r : Runner) : Prop :=
  ∃ paces r', r.run s paces = some r' ∧ r'.place = .finished

theorem Comes.of_step {pace : Pace} (h : r'.Comes s) (hs : r.step s pace = some r') :
    r.Comes s := by
  obtain ⟨paces, last, hr, hplace⟩ := h
  refine ⟨pace :: paces, last, ?_, hplace⟩
  rw [run, hs, Option.bind_some, hr]

/-- What is known of a run on its way to the end. -/
structure Ready (s : Settings) (r : Runner) : Prop where
  reachable : r.Reachable s
  cancelled : r.traffic.world.client.isCancelled 1 = true

/-- A run on its way to the end stays so when a task does its deed. -/
theorem step_task (h : r.Ready s) (deed : Deed) (htask : deed.isTask = true)
    (hpermits : r.traffic.permits 1 deed = true) (hcan : r.line.can deed = true) :
    ∃ r', r.step s (.task deed) = some r' ∧ r'.Ready s ∧ r'.place = r.place ∧
      r'.line = (r.line.after 1 r.traffic.counters deed).line := by
  obtain ⟨next, hs, hplace, -, hworld, -, -, hline⟩ := step_of_task htask hpermits hcan
  refine ⟨next, hs, ⟨h.reachable.step hs, ?_⟩, hplace, hline⟩
  rw [hworld]
  exact h.cancelled

/-- The task that reads tells what it has to tell, and stops. -/
theorem hushed (h : r.Ready s) : ∃ paces r', r.run s paces = some r' ∧ r'.Ready s ∧
    r'.place = r.place ∧ r'.line.isOpen = r.line.isOpen ∧ r'.line.isHushed = true := by
  generalize hsaying : r.line.saying = saying
  induction saying generalizing r with
  | nil =>
    by_cases hreading : r.line.isReading = true
    · obtain ⟨next, hs, hready, hplace, hline⟩ := step_task h .hush rfl h.cancelled hreading
      refine ⟨[.task .hush], next, ?_, hready, hplace, ?_, ?_⟩
      · rw [run_singleton, hs]
      · rw [hline]
        rfl
      · rw [hline]
        simp [Line.isHushed, Line.after, Line.isReading, hsaying]
    · refine ⟨[], r, rfl, h, rfl, rfl, ?_⟩
      simp [Line.isHushed, hsaying, hreading]
  | cons notice rest ih =>
    have hpermits : r.traffic.permits 1 .say = true := by
      rw [Traffic.permits, h.cancelled, Bool.or_true]
    have hcan : r.line.can .say = true := by rw [Line.can, hsaying]; rfl
    obtain ⟨next, hs, hready, hplace, hline⟩ := step_task h .say rfl hpermits hcan
    have hrest : next.line.saying = rest := by rw [hline, Line.after, hsaying]; rfl
    obtain ⟨paces, last, hr, hlast, hsame, hopen, hhushed⟩ := ih hready hrest
    refine ⟨.task .say :: paces, last, ?_, hlast, hsame.trans hplace, ?_, hhushed⟩
    · rw [run, hs, Option.bind_some, hr]
    · rw [hopen, hline]
      rfl

/-- Both tasks stop. -/
theorem quiet (h : r.Ready s) : ∃ paces r', r.run s paces = some r' ∧ r'.Ready s ∧
    r'.place = r.place ∧ r'.line.isOpen = false ∧ r'.line.isHushed = true := by
  by_cases hopen : r.line.isOpen = true
  · obtain ⟨next, hs, hready, hplace, hline⟩ := step_task h (.stop 0) rfl h.cancelled hopen
    obtain ⟨paces, last, hr, hlast, hsame, hstopped, hhushed⟩ := hushed hready
    refine ⟨.task (.stop 0) :: paces, last, ?_, hlast, hsame.trans hplace, ?_, hhushed⟩
    · rw [run, hs, Option.bind_some, hr]
    · rw [hstopped, hline]
      rfl
  · obtain ⟨paces, last, hr, hlast, hsame, hstopped, hhushed⟩ := hushed h
    exact ⟨paces, last, hr, hlast, hsame, hstopped.trans (Bool.eq_false_iff.mpr hopen), hhushed⟩

theorem Comes.of_run {paces : List Pace} (h : r'.Comes s) (hr : r.run s paces = some r') :
    r.Comes s := by
  obtain ⟨later, last, hlater, hplace⟩ := h
  refine ⟨paces ++ later, last, ?_, hplace⟩
  rw [run_append, hr, Option.bind_some, hlater]

/-- A run on its way to the end stays so when its main task takes all that goes on further. -/
theorem main_eq_some {place : Place} {next : Move} {t : Traffic} (h : r.Ready s)
    (hproceed : r.proceed s .nothing = r.move place next) (hstep : r.traffic.step next = some t)
    (hcancelled : t.world.client.isCancelled 1 = true) :
    ∃ r', r.step s (.main .nothing) = some r' ∧ r'.Ready s ∧ r'.place = place ∧ r'.traffic = t := by
  obtain ⟨r', hs, hplace, rfl, -⟩ := step_of_main hproceed hstep
  exact ⟨r', hs, ⟨h.reachable.step hs, hcancelled⟩, hplace, rfl⟩

theorem comes_counting (hplace : r.place = .counting) : r.Comes s := by
  have hs : r.step s (.main .nothing) = some { r with
      place := .finished
      log := r.log ++ [.reported (.stats r.traffic.counters)] } := by
    rw [step, proceed, hplace]
  exact ⟨[.main .nothing], _, by rw [run_singleton, hs], rfl⟩

theorem comes_joining (h : r.Ready s) (hplace : r.place = .joining) : r.Comes s := by
  obtain ⟨paces, next, hr, hready, hsame, hopen, hhushed⟩ := quiet h
  rw [hplace] at hsame
  have hstands := hready.reachable.stands
  rw [Stands, hsame] at hstands
  obtain ⟨agreed, -, hjoining, -⟩ := hstands
  have hproceed : next.proceed s .nothing = next.move .counting (.call (.farewell 0)) := by
    rw [proceed, hsame]
    simp only [hopen, hhushed]
    rfl
  have hstep : next.traffic.step (.call (.farewell 0)) = some { next.traffic with
      world := { next.traffic.world with farewells := [.ended] } } := by
    simp only [Traffic.step, World.step, World.sayFarewell, hjoining]
    rfl
  obtain ⟨last, hs, -, hcounting, -⟩ := main_eq_some hready hproceed hstep hready.cancelled
  exact ((comes_counting hcounting).of_step hs).of_run hr

theorem comes_cancelling (h : r.Ready s) (hplace : r.place = .cancelling) : r.Comes s := by
  have hstands := h.reachable.stands
  rw [Stands, hplace] at hstands
  obtain ⟨agreed, -, hending, -⟩ := hstands
  have hproceed : r.proceed s .nothing = r.move .joining (.call (.farewell 0)) := by
    rw [proceed, hplace]
  have hstep : r.traffic.step (.call (.farewell 0)) = some { r.traffic with
      world := { r.traffic.world with
        client := r.traffic.world.client.cancel 1
        farewells := [.joining] } } := by
    simp only [Traffic.step, World.step, World.sayFarewell, hending]
    rfl
  have hcancelled := Client.keepsCancelled_cancel r.traffic.world.client 1 1 h.cancelled
  obtain ⟨next, hs, hready, hjoining, -⟩ := main_eq_some h hproceed hstep hcancelled
  exact (comes_joining hready hjoining).of_step hs

theorem comes_parting (h : r.Ready s) (hplace : r.place = .parting) : r.Comes s := by
  have hproceed : r.proceed s .nothing = r.move .cancelling (.call .disconnect) := by
    rw [proceed, hplace]
  have hkept : r.traffic.world.client.KeepsCancelled r.traffic.world.client.disconnect :=
    Client.keepsCancelled_of_subset id (List.subset_append_right _ _)
  have hcancelled := hkept 1 h.cancelled
  obtain ⟨next, hs, hready, hcancelling, -⟩ := main_eq_some h hproceed rfl hcancelled
  exact (comes_cancelling hready hcancelling).of_step hs

theorem comes_waiting (h : r.Ready s) (hplace : r.place = .waiting) : r.Comes s := by
  have hstands := h.reachable.stands
  rw [Stands, hplace] at hstands
  obtain ⟨agreed, hopened, -, -⟩ := hstands
  obtain ⟨clientId, hsession⟩ := hopened.session
  have hs : r.step s (.main .nothing) = some { r with place := .parting } := by
    rw [step, proceed, hplace]
    simp only [hsession, Option.all_some, h.cancelled]
    rfl
  have hready : Ready s { r with place := .parting } := ⟨h.reachable.step hs, h.cancelled⟩
  exact (comes_parting hready rfl).of_step hs

/-- A request that waits is refused once nobody takes frames from the queue. -/
theorem submitted (h : r.Ready s) {rest : List Request} (hplace : r.place = .submitting rest)
    (hopen : r.line.isOpen = false) :
    ∃ r', r.step s (.main .nothing) = some r' ∧ r'.Ready s ∧ r'.place = .asking rest := by
  have hstands := h.reachable.stands
  rw [Stands, hplace] at hstands
  obtain ⟨agreed, -, ⟨asking, hasked, hseen⟩, -⟩ := hstands
  have hproceed : r.proceed s .nothing = r.move (.asking rest) (.submit 0) := by
    rw [proceed, hplace]
  obtain ⟨t, hstep, hworld⟩ : ∃ t, r.traffic.step (.submit 0) = some t ∧
      t.world = r.traffic.world := by
    simp only [Traffic.step, hasked, List.getElem?_cons_zero]
    cases hlive : asking.seen.live? with
    | none =>
      obtain ⟨notice, hrequest⟩ :=
        asking.seen.request_refused true asking.request (.inr hlive)
      simp only [hrequest]
      exact ⟨_, rfl, rfl⟩
    | some session =>
      have hattempt := hseen session (Traffic.session_of_live? hlive)
      have hclosed : (r.traffic.lines session.attempt).isOpen = false := by
        rw [hattempt]
        exact hopen
      obtain ⟨notice, hrequest⟩ := asking.seen.request_refused _ asking.request (.inl hclosed)
      simp only [hrequest]
      exact ⟨_, if_pos rfl, rfl⟩
  have hcancelled : t.world.client.isCancelled 1 = true := by
    rw [hworld]
    exact h.cancelled
  obtain ⟨next, hs, hready, hnext, -⟩ := main_eq_some h hproceed hstep hcancelled
  exact ⟨next, hs, hready, hnext⟩

theorem comes_submitting {rest : List Request}
    (hasking : ∀ {r : Runner}, r.Ready s → r.place = .asking rest → r.Comes s) (h : r.Ready s)
    (hplace : r.place = .submitting rest) : r.Comes s := by
  obtain ⟨paces, next, hr, hready, hsame, hopen, -⟩ := quiet h
  obtain ⟨last, hs, hlast, hnext⟩ := submitted hready (hsame.trans hplace) hopen
  exact ((hasking hlast hnext).of_step hs).of_run hr

theorem comes_asking {rest : List Request} (h : r.Ready s) (hplace : r.place = .asking rest) :
    r.Comes s := by
  induction rest generalizing r with
  | nil =>
    have hs : r.step s (.main .nothing) = some { r with place := .waiting } := by
      rw [step, proceed, hplace]
    have hready : Ready s { r with place := .waiting } := ⟨h.reachable.step hs, h.cancelled⟩
    exact (comes_waiting hready rfl).of_step hs
  | cons q rest ih =>
    have hproceed : r.proceed s .nothing = r.move (.submitting rest) (.issue q) := by
      rw [proceed, hplace]
    obtain ⟨next, hs, hready, hnext, -⟩ := main_eq_some h hproceed rfl h.cancelled
    exact (comes_submitting ih hready hnext).of_step hs

/-- Once its session is cancelled, a run can go on to its end. -/
theorem Reachable.comes (h : r.Reachable s) (hopened : r.place.isOpened = true)
    (hcancelled : r.traffic.world.client.isCancelled 1 = true) : r.Comes s := by
  have hready : r.Ready s := ⟨h, hcancelled⟩
  cases hplace : r.place with
  | reporting =>
    have hs : r.step s (.main .nothing) = some { r with
        place := .asking (Run.requests s)
        log := r.log ++ [.reported (Run.opened r.traffic.world.client)] } := by
      rw [Runner.step, proceed, hplace]
    have hasking : Ready s { r with
        place := .asking (Run.requests s)
        log := r.log ++ [.reported (Run.opened r.traffic.world.client)] } :=
      ⟨h.step hs, hcancelled⟩
    exact (comes_asking hasking rfl).of_step hs
  | asking rest => exact comes_asking hready hplace
  | submitting rest => exact comes_submitting comes_asking hready hplace
  | waiting => exact comes_waiting hready hplace
  | parting => exact comes_parting hready hplace
  | cancelling => exact comes_cancelling hready hplace
  | joining => exact comes_joining hready hplace
  | counting => exact comes_counting hplace
  | finished => exact ⟨[], r, rfl, hplace⟩
  | _ =>
    rw [hplace] at hopened
    cases hopened

end Runner

end BrokerWire
