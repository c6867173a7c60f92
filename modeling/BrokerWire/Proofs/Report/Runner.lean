import BrokerWire.Proofs.Session.Telling
import BrokerWire.Report.Run

/-!
A run among the tasks of its session. The main task connects, reports, asks, waits for the end of the
session, disconnects and reports the counters; the tasks of the session do their deeds at any point
in between, and the user may interrupt the run at any point. Whatever the application is told is
printed at once, by the task that tells it. Main statements: what a step can do
(`Runner.step_cases`), and that all that is told is logged (`Runner.Reachable.logs`).
-/

namespace BrokerWire

/-- Whether a deed is one of the task that writes or of the task that reads. -/
def Deed.isTask : Deed → Bool
  | .take => true
  | .finish _ => true
  | .stop _ => true
  | .fill _ => true
  | .receive => true
  | .lose _ => true
  | .say => true
  | .hush => true
  | _ => false

namespace Line

/-- Whether the task that reads does nothing more: it never started, was stopped, or has told all
that it had to tell. -/
def isHushed (line : Line) : Bool :=
  line.saying.isEmpty && !line.isReading

/-- Whether both tasks of a session have stopped. -/
def isIdle (line : Line) : Bool :=
  !line.isOpen && line.writing.isNone && line.isHushed

theorem can_of_isIdle {line : Line} (h : line.isIdle = true) {deed : Deed}
    (hdeed : deed.isTask = true) : line.can deed = false := by
  simp only [isIdle, isHushed, Bool.and_eq_true, Bool.not_eq_true', Option.isNone_iff_eq_none]
    at h
  obtain ⟨⟨hopen, hwriting⟩, hsaying, hreading⟩ := h
  cases deed with
  | take | stop _ => simp [can, hopen]
  | finish _ => simp [can, hwriting]
  | say => simp [can, hsaying]
  | fill _ | receive | lose _ | hush => simp [can, hreading]
  | _ => cases hdeed

end Line

namespace Runner

/-- What a run shows: it is told something, or it reports something itself. -/
inductive Output where
  | told (notice : Notice)
  | reported (record : Record)
  deriving DecidableEq

def Output.notice? : Output → Option Notice
  | .told notice => some notice
  | .reported _ => none

/-- What is printed. -/
def Output.record? : Output → Option Record
  | .told notice => Record.ofNotice notice
  | .reported record => some record

/-- Where the main task of a run stands. -/
inductive Place where
  | fresh
  /-- The client was not shut down when the call that connects looked. -/
  | starting
  | connecting
  /-- The failure is to be told. -/
  | failing (e : ApiError)
  | failed (e : ApiError)
  | reporting
  | asking (rest : List Request)
  /-- A request waits for room in the queue. -/
  | submitting (rest : List Request)
  /-- The end of the session is waited for. -/
  | waiting
  | parting
  | cancelling
  /-- The tasks of the session are waited for. -/
  | joining
  | counting
  | finished
  deriving DecidableEq

/-- Whose turn it is. The main task may meet something while it connects. -/
inductive Pace where
  | main (met : Encounter)
  | task (deed : Deed)
  | sessionEnds
  | interrupt
  deriving DecidableEq

/-- Where the main task stands behind a step of its call that connects. -/
def Place.behind : Stage → Place
  | .failing e => .failing e
  | .acknowledged => .reporting
  | _ => .connecting

end Runner

/-- A run under way. A run makes one attempt to connect, the first one. -/
structure Runner where
  traffic : Traffic := {}
  place : Runner.Place := .fresh
  log : List Runner.Output := []

/-- What is told behind a step, of the session and of requests without a session. -/
def Traffic.news (t t' : Traffic) : List Notice :=
  ((t'.lines 1).told.drop (t.lines 1).told.length).map Prod.snd ++
    t'.outside.drop t.outside.length

namespace Traffic

theorem news_eq {t t' : Traffic} {told : List (Teller × Notice)} {outside : List Notice}
    (htold : (t'.lines 1).told = (t.lines 1).told ++ told)
    (houtside : t'.outside = t.outside ++ outside) :
    t.news t' = told.map Prod.snd ++ outside := by
  rw [news, htold, houtside, List.drop_left, List.drop_left]

theorem news_of_told {t t' : Traffic} (htold : (t'.lines 1).told = (t.lines 1).told)
    (houtside : t'.outside = t.outside) : t.news t' = [] := by
  rw [news, htold, houtside, List.drop_length, List.drop_length]
  rfl

theorem news_act {t t' : Traffic} {deed : Deed} (h : t.act 1 deed = some t') :
    t.news t' = (deed.tells (t.lines 1) t.counters).map Prod.snd := by
  have htold : (t'.lines 1).told = (t.lines 1).told ++ deed.tells (t.lines 1) t.counters := by
    obtain ⟨-, rfl⟩ := act_eq_some h
    rw [← (t.lines 1).told_after 1]
    dsimp only
    rw [Function.update_self]
  have houtside : t'.outside = t.outside ++ [] := by rw [outside_act h, List.append_nil]
  rw [news_eq htold houtside, List.append_nil]

end Traffic

namespace Runner

/-- All that was told, in order. -/
def callbacks (r : Runner) : List Notice :=
  r.log.filterMap Output.notice?

/-- All that was printed, in order. -/
def printed (r : Runner) : List Record :=
  r.log.filterMap Output.record?

/-- The session of a run. -/
def line (r : Runner) : Line :=
  r.traffic.lines 1

/-- A step of all that goes on, with the main task at `place` behind it. -/
def move (r : Runner) (place : Place) (move : Move) : Option Runner :=
  (r.traffic.step move).map fun t => ⟨t, place, r.log ++ (r.traffic.news t).map .told⟩

/-- A step of the call that connects. It tells what it owes before it goes on, sends what opens the
conversation while it waits for the answer, and waits for the task that writes before it fails. -/
def connect (s : Settings) (r : Runner) (met : Encounter) : Option Runner :=
  match r.traffic.world.calls 1 with
  | none => none
  | some call =>
    if r.line.due.isSome then r.move .connecting (.task 1 .pay)
    else
      match call.stage, met with
      | .opening, .nothing => r.move .connecting (.task 1 (.greet (Run.options s)))
      | .joining e, met =>
        if r.line.isOpen then none
        else r.move (.behind (.joining e)) (.call (.advance 1 met))
      | stage, met => r.move (.behind stage) (.call (.advance 1 met))

/-- The next step of the main task. -/
def proceed (s : Settings) (r : Runner) (met : Encounter) : Option Runner :=
  match r.place with
  | .fresh =>
    if r.traffic.world.client.shutDown then
      some { r with
        place := .failed Client.refusal
        log := r.log ++ [.told (Client.refusal.notice ClientError.noRequest)] }
    else some { r with place := .starting }
  | .starting => r.move .connecting (.call (.connect s.clientId))
  | .connecting => r.connect s met
  | .failing e => r.move (.failed e) (.task 1 .pay)
  | .failed _ => none
  | .reporting =>
    some { r with
      place := .asking (Run.requests s)
      log := r.log ++ [.reported (Run.opened r.traffic.world.client)] }
  | .asking [] => some { r with place := .waiting }
  | .asking (q :: rest) => r.move (.submitting rest) (.issue q)
  | .submitting rest => r.move (.asking rest) (.submit 0)
  | .waiting =>
    if r.traffic.world.client.session.all fun x => r.traffic.world.client.isCancelled x.attempt
    then some { r with place := .parting }
    else none
  | .parting => r.move .cancelling (.call .disconnect)
  | .cancelling => r.move .joining (.call (.farewell 0))
  | .joining =>
    if r.line.isOpen || !r.line.isHushed then none else r.move .counting (.call (.farewell 0))
  | .counting =>
    some { r with
      place := .finished
      log := r.log ++ [.reported (.stats r.traffic.counters)] }
  | .finished => none

/-- One step. The tasks of the session and the user take theirs wherever the main task stands. -/
def step (s : Settings) (r : Runner) : Pace → Option Runner
  | .main met => r.proceed s met
  | .task deed => if deed.isTask then r.move r.place (.task 1 deed) else none
  | .sessionEnds => r.move r.place (.call (.sessionEnds 1))
  | .interrupt => r.move r.place (.call .shutdown)

def run (s : Settings) (r : Runner) : List Pace → Option Runner
  | [] => some r
  | pace :: paces => (r.step s pace).bind fun next => next.run s paces

/-- What a run with some settings comes to. -/
def Reachable (s : Settings) (r : Runner) : Prop :=
  ∃ paces, run s {} paces = some r

variable {s : Settings}

/-- What a run comes to is reachable. -/
theorem reachable_of_run {α : Type} (paces : List Pace) {f : Runner → α} {a : α}
    (h : (run s {} paces).map f = some a) : ∃ r : Runner, r.Reachable s ∧ f r = a := by
  obtain ⟨r, hrun, hresult⟩ := Option.map_eq_some_iff.mp h
  exact ⟨r, ⟨paces, hrun⟩, hresult⟩

theorem run_append (r : Runner) (paces later : List Pace) :
    r.run s (paces ++ later) = (r.run s paces).bind fun next => next.run s later := by
  induction paces generalizing r with
  | nil => rfl
  | cons pace paces ih =>
    rw [List.cons_append, run, run, Option.bind_assoc]
    exact congrArg _ (funext ih)

theorem run_singleton (r : Runner) (pace : Pace) : r.run s [pace] = r.step s pace := by
  rw [run]
  exact Option.bind_fun_some _

theorem Reachable.step {r r' : Runner} {pace : Pace} (h : r.Reachable s)
    (hs : r.step s pace = some r') : r'.Reachable s := by
  obtain ⟨paces, hr⟩ := h
  refine ⟨paces ++ [pace], ?_⟩
  rw [run_append, hr, Option.bind_some, run_singleton, hs]

/-- What every step keeps holds behind a run. -/
theorem run_induction {P : Runner → Prop} {r r' : Runner} {paces : List Pace}
    (hstep : ∀ {v v' : Runner} {pace : Pace}, P v → v.step s pace = some v' → P v')
    (h : P r) (hr : r.run s paces = some r') : P r' := by
  induction paces generalizing r with
  | nil =>
    cases hr
    exact h
  | cons pace paces ih =>
    obtain ⟨next, hnext, hrest⟩ := Option.bind_eq_some_iff.mp hr
    exact ih (hstep h hnext) hrest

theorem move_eq_some {r r' : Runner} {place : Place} {move : Move}
    (h : r.move place move = some r') :
    ∃ t, r.traffic.step move = some t ∧
      r' = ⟨t, place, r.log ++ (r.traffic.news t).map .told⟩ := by
  obtain ⟨t, hs, rfl⟩ := Option.map_eq_some_iff.mp h
  exact ⟨t, hs, rfl⟩

theorem callbacks_told (notices : List Notice) :
    (notices.map Output.told).filterMap Output.notice? = notices := by
  rw [List.filterMap_map]
  exact List.filterMap_some

theorem printed_told (notices : List Notice) :
    (notices.map Output.told).filterMap Output.record? = Run.records notices := by
  rw [List.filterMap_map]
  rfl

/-- All that was told of the session, and of requests without one, is logged once, and in order. -/
structure Logs (r : Runner) : Prop where
  session : (r.line.told.map Prod.snd).Sublist r.callbacks
  outside : r.traffic.outside.Sublist r.callbacks
  perm : r.callbacks.Perm (r.line.told.map Prod.snd ++ r.traffic.outside)

theorem logs_fresh : ({} : Runner).Logs :=
  ⟨List.nil_sublist _, List.nil_sublist _, List.Perm.nil⟩

theorem Logs.reported {r : Runner} (h : r.Logs) (place : Place) (record : Record) :
    Logs { r with place := place, log := r.log ++ [.reported record] } := by
  have hsame : callbacks { r with place := place, log := r.log ++ [.reported record] } =
      r.callbacks := by
    rw [callbacks, List.filterMap_append]
    exact List.append_nil _
  refine ⟨?_, ?_, ?_⟩
  · rw [hsame]
    exact h.session
  · rw [hsame]
    exact h.outside
  · rw [hsame]
    exact h.perm

theorem Logs.move {r r' : Runner} (h : r.Logs) {place : Place} {move : Move}
    (hm : r.move place move = some r') : r'.Logs := by
  obtain ⟨t, hs, rfl⟩ := move_eq_some hm
  obtain ⟨htold, houtside⟩ := Traffic.told_step hs 1
  obtain ⟨told, htold⟩ := htold
  obtain ⟨outside, houtside⟩ : ∃ outside, t.outside = r.traffic.outside ++ outside := by
    obtain hsame | ⟨notice, -, hmore⟩ := houtside
    · exact ⟨[], hsame.trans (List.append_nil _).symm⟩
    · exact ⟨[notice], hmore⟩
  have hnews : r.traffic.news t = told.map Prod.snd ++ outside :=
    Traffic.news_eq htold.symm houtside
  have hcallbacks : callbacks ⟨t, place, r.log ++ (r.traffic.news t).map .told⟩ =
      r.callbacks ++ (told.map Prod.snd ++ outside) := by
    rw [callbacks, List.filterMap_append, callbacks_told, hnews, callbacks]
  have hline : (t.lines 1).told.map Prod.snd = r.line.told.map Prod.snd ++ told.map Prod.snd := by
    rw [← htold, List.map_append, line]
  refine ⟨?_, ?_, ?_⟩
  · rw [hcallbacks, line, hline]
    exact h.session.append (List.sublist_append_left _ _)
  · rw [hcallbacks, houtside]
    exact h.outside.append (List.sublist_append_right _ _)
  · rw [hcallbacks, line, hline, houtside]
    refine (h.perm.append_right _).trans ?_
    simp only [List.append_assoc]
    refine List.Perm.append_left _ ?_
    rw [← List.append_assoc, ← List.append_assoc]
    exact List.perm_append_comm.append_right _

/-- What a step can do: take all that goes on a step further, take only the main task further,
perhaps with a report, or tell that the client is shut down. -/
theorem step_cases {r r' : Runner} {pace : Pace} (hs : r.step s pace = some r') :
    (∃ place move, r.move place move = some r') ∨
    (∃ place, r' = { r with place := place }) ∨
    (∃ place record, r' = { r with place := place, log := r.log ++ [.reported record] }) ∨
    (r.place = .fresh ∧ r' = { r with
      place := .failed Client.refusal
      log := r.log ++ [.told (Client.refusal.notice ClientError.noRequest)] }) := by
  cases pace with
  | task deed =>
    simp only [step] at hs
    split at hs
    · exact .inl ⟨_, _, hs⟩
    · cases hs
  | sessionEnds => exact .inl ⟨_, _, hs⟩
  | interrupt => exact .inl ⟨_, _, hs⟩
  | main met =>
    simp only [step, proceed] at hs
    split at hs
    · next hplace =>
      split at hs
      · cases hs
        exact .inr (.inr (.inr ⟨hplace, rfl⟩))
      · cases hs
        exact .inr (.inl ⟨_, rfl⟩)
    · exact .inl ⟨_, _, hs⟩
    · simp only [connect] at hs
      split at hs
      · cases hs
      split at hs
      · exact .inl ⟨_, _, hs⟩
      split at hs
      · exact .inl ⟨_, _, hs⟩
      · split at hs
        · cases hs
        · exact .inl ⟨_, _, hs⟩
      · exact .inl ⟨_, _, hs⟩
    · exact .inl ⟨_, _, hs⟩
    · cases hs
    · cases hs
      exact .inr (.inr (.inl ⟨_, _, rfl⟩))
    · cases hs
      exact .inr (.inl ⟨_, rfl⟩)
    · exact .inl ⟨_, _, hs⟩
    · exact .inl ⟨_, _, hs⟩
    · split at hs
      · cases hs
        exact .inr (.inl ⟨_, rfl⟩)
      · cases hs
    · exact .inl ⟨_, _, hs⟩
    · exact .inl ⟨_, _, hs⟩
    · split at hs
      · cases hs
      · exact .inl ⟨_, _, hs⟩
    · cases hs
      exact .inr (.inr (.inl ⟨_, _, rfl⟩))
    · cases hs

theorem Reachable.traffic {r : Runner} (h : r.Reachable s) : r.traffic.Reachable := by
  obtain ⟨paces, hr⟩ := h
  refine run_induction (P := fun r => r.traffic.Reachable) ?_ ⟨[], rfl⟩ hr
  intro v v' pace hv hs
  obtain ⟨place, move, hm⟩ | ⟨place, rfl⟩ | ⟨place, record, rfl⟩ | ⟨-, rfl⟩ := step_cases hs
  · obtain ⟨t, ht, rfl⟩ := move_eq_some hm
    exact hv.step ht
  · exact hv
  · exact hv
  · exact hv

/-- All that is told is logged, but that the client was shut down before the run began. -/
theorem Reachable.logs {r : Runner} (h : r.Reachable s) :
    (∃ e, r.place = .failed e) ∨ r.Logs := by
  obtain ⟨paces, hr⟩ := h
  refine run_induction (P := fun r => (∃ e, r.place = .failed e) ∨ r.Logs) ?_ (.inr logs_fresh) hr
  intro v v' pace hv hs
  obtain ⟨e, hfailed⟩ | hlogs := hv
  · refine .inl ⟨e, ?_⟩
    have hmove {move : Move} (hm : v.move v.place move = some v') : v'.place = .failed e := by
      obtain ⟨t, -, rfl⟩ := move_eq_some hm
      exact hfailed
    cases pace with
    | main met =>
      simp only [Runner.step, proceed, hfailed] at hs
      cases hs
    | task deed =>
      simp only [Runner.step] at hs
      split at hs
      · exact hmove hs
      · cases hs
    | sessionEnds => exact hmove hs
    | interrupt => exact hmove hs
  · obtain ⟨place, move, hm⟩ | ⟨place, rfl⟩ | ⟨place, record, rfl⟩ | ⟨-, rfl⟩ := step_cases hs
    · exact .inr (hlogs.move hm)
    · exact .inr ⟨hlogs.session, hlogs.outside, hlogs.perm⟩
    · exact .inr (hlogs.reported place record)
    · exact .inl ⟨_, rfl⟩

end Runner

end BrokerWire
