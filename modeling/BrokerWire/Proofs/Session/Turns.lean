import BrokerWire.Proofs.Session.Interleaving
import BrokerWire.Proofs.Session.Line

namespace BrokerWire

/-- Whether the session of an attempt is installed and not cancelled. -/
def Client.holds (c : Client) (number : Nat) : Bool :=
  c.session.any (fun s => s.attempt = number) && !c.isCancelled number

/-- What a call that connects does with its session when it goes from where it stands to `next`. -/
def ConnectCall.deed? (call : ConnectCall) (next : Stage) (lives : Bool) : Encounter → Option Deed
  | .answer chunks => some (.hearAnswer chunks)
  | .stoppedWriter => some .findClosed
  | .nothing =>
    match call.stage, next with
    | .opened _, .queueing _ => some .start
    | .queueing agreed, _ => some (.queueStart agreed call.clientId call.capabilities)
    | .installing _, .acknowledged => some (.owe .connectAck)
    | .failing e, _ => some (.owe (e.notice ClientError.noRequest))
    | .acknowledged, _ => some (.listen lives)
    | _, _ => none
  | _ => none

/-- The deed that goes with a step of the calls from one world to the next, and the session it is
done with. A session ends on its own only when its receiving side has ended. -/
def World.deed? (w w' : World) : Action → Option (Nat × Deed)
  | .advance number met =>
    match w.calls number, w'.calls number with
    | some call, some next =>
      (call.deed? next.stage (w'.client.holds number) met).map fun deed => (number, deed)
    | _, _ => none
  | .sessionEnds number => some (number, .findSpent)
  | _ => none

/-- Whether the message that starts the session is still to come. -/
def Stage.isEarly : Stage → Bool
  | .replacing _ => true
  | .settling => true
  | .opening => true
  | .opened _ => true
  | .queueing _ => true
  | _ => false

/-- Whether the message that starts the session stands in the queue and the call goes on. -/
def Stage.hasStarted : Stage → Bool
  | .installing _ => true
  | .acknowledged => true
  | _ => false

/-- How a call that connects takes a step: the client and where the call stands behind it, and the
deed. -/
inductive ConnectCall.Turn (call : ConnectCall) (number : Nat) (c : Client) :
    Client → Stage → Option Deed → Prop
  | plain {c' : Client} {next : Stage} (hclient : c' = c ∨ ∃ token, c' = c.cancel token)
    (hcall : call.stage.isDone = false) (hnext : next.isDone = false)
    (hstarted : next.hasStarted = false) (hagreed : next.agreed? = none)
    (hearly : next.isEarly = true → call.stage.isEarly = true) : Turn call number c c' next none
  | answered {chunks rest : List Bytes} {agreed : Handshake} {left : Scanner}
    (hstage : call.stage = .opening)
    (hawait : Handshake.await {} chunks = (some (.ok agreed), left, rest)) :
    Turn call number c c (.opened agreed) (some (.hearAnswer chunks))
  | turnedAway {chunks : List Bytes} {e : ApiError} (hstage : call.stage = .opening) :
    Turn call number c c (.failing e) (some (.hearAnswer chunks))
  | started {agreed : Handshake} (hstage : call.stage = .opened agreed) :
    Turn call number c c (.queueing agreed) (some .start)
  | queued {agreed : Handshake} (hstage : call.stage = .queueing agreed) :
    Turn call number c c (.installing agreed)
      (some (.queueStart agreed call.clientId call.capabilities))
  | stopped {agreed : Handshake} {e : ApiError} (hstage : call.stage = .queueing agreed) :
    Turn call number c c (.withdrawing e) (some .findClosed)
  | installed {agreed : Handshake} {s : Session} {c' : Client}
    (hstage : call.stage = .installing agreed) (hnumber : s.attempt = number)
    (hinstall : c.install? s = some c') :
    Turn call number c c' .acknowledged (some (.owe .connectAck))
  | failed {e : ApiError} (hstage : call.stage = .failing e) :
    Turn call number c (c.fail number (Client.phaseAfter e)) .ended
      (some (.owe (e.notice ClientError.noRequest)))
  | ended {lives : Bool} (hstage : call.stage = .acknowledged) :
    Turn call number c c .ended (some (.listen lives))

namespace ConnectCall

theorem Turn.late {call : ConnectCall} {number : Nat} {c c' : Client} {next : Stage}
    (hclient : c' = c ∨ ∃ token, c' = c.cancel token) (hcall : call.stage.isDone = false)
    (hnext : next.isDone = false) (hstarted : next.hasStarted = false)
    (hagreed : next.agreed? = none) (hlate : next.isEarly = false) :
    call.Turn number c c' next none := by
  refine .plain hclient hcall hnext hstarted hagreed fun hearly => ?_
  rw [hlate] at hearly
  cases hearly

theorem turn_of_advance {call : ConnectCall} {number : Nat} {c c' : Client} {met : Encounter}
    {next : Stage} (h : call.advance number c met = some (c', next)) (lives : Bool) :
    call.Turn number c c' next (call.deed? next lives met) := by
  obtain ⟨clientId, capabilities, stage⟩ := call
  cases met with
  | nothing =>
    cases stage with
    | replacing stale =>
      cases stale with
      | none =>
        cases h
        exact .plain (.inl rfl) rfl rfl rfl rfl fun _ => rfl
      | some stale =>
        cases h
        exact .plain (.inr ⟨stale, rfl⟩) rfl rfl rfl rfl fun _ => rfl
    | settling =>
      cases h
      exact .plain (.inl rfl) rfl rfl rfl rfl fun _ => rfl
    | opening => cases h
    | opened agreed =>
      simp only [advance] at h
      split at h
      · cases h
        exact .plain (.inl rfl) rfl rfl rfl rfl fun _ => rfl
      split at h
      · cases h
        exact .plain (.inl rfl) rfl rfl rfl rfl fun _ => rfl
      · cases h
        exact .started rfl
    | queueing agreed =>
      cases h
      exact .queued rfl
    | installing agreed =>
      simp only [advance] at h
      split at h
      · next installed hinstall =>
        cases h
        exact .installed rfl rfl hinstall
      · cases h
        exact .late (.inl rfl) rfl rfl rfl rfl rfl
    | withdrawing e =>
      cases h
      exact .late (.inr ⟨number, rfl⟩) rfl rfl rfl rfl rfl
    | joining e =>
      cases h
      exact .late (.inl rfl) rfl rfl rfl rfl rfl
    | failing e =>
      cases h
      exact .failed rfl
    | acknowledged =>
      cases h
      exact .ended rfl
    | ended => cases h
  | cancellation =>
    simp only [advance] at h
    split at h
    · next hopening =>
      cases h
      obtain ⟨rfl, -⟩ := hopening
      exact .late (.inl rfl) rfl rfl rfl rfl rfl
    · cases h
  | answer chunks =>
    simp only [advance] at h
    split at h
    · next hopening =>
      subst hopening
      split at h
      · next agreed hawait =>
        cases h
        exact .answered rfl (Prod.ext hawait rfl)
      · cases h
        exact .turnedAway rfl
      · cases h
    · cases h
  | failure e =>
    simp only [advance] at h
    split at h
    · next hopening =>
      subst hopening
      cases h
      exact .late (.inl rfl) rfl rfl rfl rfl rfl
    · cases h
  | stoppedWriter =>
    cases stage with
    | queueing agreed =>
      cases h
      exact .stopped rfl
    | _ => cases h

end ConnectCall

def Client.KeepsCancelled (c c' : Client) : Prop :=
  ∀ number, c.isCancelled number = true → c'.isCancelled number = true

namespace Client

theorem keepsCancelled_of_subset {c c' : Client} (hdown : c.shutDown = true → c'.shutDown = true)
    (htokens : c.cancelled ⊆ c'.cancelled) : c.KeepsCancelled c' := by
  intro number h
  unfold isCancelled at h ⊢
  rw [Bool.or_eq_true, List.contains_iff_mem] at h ⊢
  exact h.imp hdown fun hm => htokens hm

theorem keepsCancelled_cancel (c : Client) (token : Nat) : c.KeepsCancelled (c.cancel token) :=
  keepsCancelled_of_subset id (List.subset_cons_self token c.cancelled)

theorem keepsCancelled_fail (c : Client) (number : Nat) (phase : Phase) :
    c.KeepsCancelled (c.fail number phase) := by
  unfold fail
  split
  · exact keepsCancelled_of_subset id (List.Subset.refl _)
  · exact fun _ => id

theorem keepsCancelled_turn {call : ConnectCall} {number : Nat} {c c' : Client} {next : Stage}
    {deed : Option Deed} (h : call.Turn number c c' next deed) : c.KeepsCancelled c' := by
  cases h with
  | plain hclient _ _ _ _ _ =>
    obtain rfl | ⟨token, rfl⟩ := hclient
    · exact fun _ => id
    · exact c.keepsCancelled_cancel token
  | installed _ _ hinstall =>
    obtain ⟨-, -, rfl⟩ := install?_eq_some hinstall
    exact keepsCancelled_of_subset id (List.Subset.refl _)
  | failed _ => exact c.keepsCancelled_fail number _
  | _ => exact fun _ => id

end Client

namespace World

theorem keepsCancelled_step {w w' : World} {action : Action} (hs : w.step action = some w') :
    w.client.KeepsCancelled w'.client := by
  cases action with
  | connect clientId =>
    simp only [step] at hs
    split at hs
    · cases hs
      exact fun _ => id
    · next started hstart =>
      obtain ⟨-, rfl⟩ := Client.start?_eq_some hstart
      cases hs
      exact Client.keepsCancelled_of_subset id (List.Subset.refl _)
  | advance number met =>
    simp only [step] at hs
    split at hs
    · cases hs
    · obtain ⟨⟨c', next⟩, hadvance, rfl⟩ := Option.map_eq_some_iff.mp hs
      exact Client.keepsCancelled_turn (ConnectCall.turn_of_advance hadvance false)
  | disconnect =>
    cases hs
    exact Client.keepsCancelled_of_subset id (List.subset_append_right _ _)
  | farewell index =>
    simp only [step, sayFarewell] at hs
    split at hs <;> cases hs
    · exact w.client.keepsCancelled_cancel _
    · exact fun _ => id
  | sessionEnds number =>
    simp only [step] at hs
    split at hs <;> cases hs
    exact w.client.keepsCancelled_cancel number
  | shutdown =>
    cases hs
    exact Client.keepsCancelled_of_subset (fun _ => rfl) (List.Subset.refl _)
  | setCapabilities text =>
    cases hs
    exact Client.keepsCancelled_of_subset id (List.Subset.refl _)

/-- A session is stored because it was, or because the call of its attempt has installed it. -/
theorem stored_step {w w' : World} {action : Action} (hs : w.step action = some w') {s : Session}
    (hstored : w'.client.session = some s) :
    w.client.session = some s ∨
      ∃ call, w.calls s.attempt = some call ∧ call.stage.hasStarted = true := by
  obtain ⟨tokens, down, capabilities, farewells, -, rfl⟩ | ⟨clientId, call, -, -, rfl⟩ |
    ⟨farewells, -, rfl⟩ | ⟨number, met, call, c', stage, -, hcall, hadvance, rfl⟩ := step_cases hs
  · exact .inl hstored
  · cases hstored
  · cases hstored
  · obtain ⟨⟨tokens, rfl⟩, -, -⟩ | ⟨agreed, session, hstage, -, -, rfl, hinstall⟩ |
      ⟨e, -, -, rfl⟩ := ConnectCall.advance_cases hadvance
    · exact .inl hstored
    · obtain ⟨-, -, rfl⟩ := Client.install?_eq_some hinstall
      cases hstored
      refine .inr ⟨call, hcall, ?_⟩
      rw [hstage]
      rfl
    · unfold Client.fail at hstored
      split at hstored <;> exact .inl hstored

/-- What a step does with the calls that connect: nothing, start one, or take one a step further,
and the last comes with a deed of its session. -/
theorem calls_step {w w' : World} {action : Action} (hs : w.step action = some w') :
    (w'.calls = w.calls ∧ (w.deed? w' action = none ∨
      ∃ number, w.deed? w' action = some (number, .findSpent))) ∨
    (w.deed? w' action = none ∧ ∃ call stale, call.stage = .replacing stale ∧
      w'.calls = Function.update w.calls (w.client.attempt + 1) (some call)) ∨
    (∃ number call next deed, w.calls number = some call ∧
      call.Turn number w.client w'.client next deed ∧
      w'.calls = Function.update w.calls number (some { call with stage := next }) ∧
      w.deed? w' action = deed.map fun d => (number, d)) := by
  cases action with
  | connect clientId =>
    simp only [step] at hs
    split at hs
    · cases hs
      exact .inl ⟨rfl, .inl rfl⟩
    · next started hstart =>
      obtain ⟨-, rfl⟩ := Client.start?_eq_some hstart
      cases hs
      exact .inr (.inl ⟨rfl, _, _, rfl, rfl⟩)
  | advance number met =>
    simp only [step] at hs
    split at hs
    · cases hs
    · next call hcall =>
      obtain ⟨⟨c', next⟩, hadvance, rfl⟩ := Option.map_eq_some_iff.mp hs
      refine .inr (.inr ⟨number, call, next, _, hcall,
        ConnectCall.turn_of_advance hadvance (c'.holds number), rfl, ?_⟩)
      simp only [deed?, hcall, Function.update_self]
  | disconnect =>
    cases hs
    exact .inl ⟨rfl, .inl rfl⟩
  | farewell index =>
    simp only [step, sayFarewell] at hs
    split at hs <;> cases hs <;> exact .inl ⟨rfl, .inl rfl⟩
  | sessionEnds number =>
    simp only [step] at hs
    split at hs <;> cases hs
    exact .inl ⟨rfl, .inr ⟨number, rfl⟩⟩
  | shutdown =>
    cases hs
    exact .inl ⟨rfl, .inl rfl⟩
  | setCapabilities text =>
    cases hs
    exact .inl ⟨rfl, .inl rfl⟩

end World

end BrokerWire
