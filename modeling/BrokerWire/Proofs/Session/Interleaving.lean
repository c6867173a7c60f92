import BrokerWire.Proofs.Session.Reachable
import BrokerWire.Proofs.Session.Verdict
import Mathlib.Logic.Function.Basic

/-!
Calls that overlap. Connecting and disconnecting take several steps each, and between two steps of a
call any other call may do some of its own. Each section that holds the lock, each cancelling and
each wait for tasks is one step here; tasks may end a session and the client may be shut down at any
point. Main statement: whatever the order of the steps, the state of the client is coherent, and
only the latest attempt changes it (`interleaving_safe`).
-/

namespace BrokerWire

/-- Where a call that connects stands. -/
inductive Stage where
  /-- The session that gave way, if any, is to be ended. -/
  | replacing (stale : Option Nat)
  /-- The tasks of the session that gave way are waited for. -/
  | settling
  /-- The client dials and waits for the server's answer. -/
  | opening
  | opened (agreed : Handshake)
  /-- The message that starts the session is to be queued. -/
  | queueing (agreed : Handshake)
  | installing (agreed : Handshake)
  /-- The call is to cancel its own attempt. -/
  | withdrawing (e : ApiError)
  /-- The task that writes is waited for. -/
  | joining (e : ApiError)
  | failing (e : ApiError)
  /-- The application knows of the session, and the task that reads is to start. -/
  | acknowledged
  | ended
  deriving DecidableEq

/-- A call that connects: what it took from its arguments and from the client when it started, and
where it stands. -/
structure ConnectCall where
  clientId : Int32
  capabilities : Option String
  stage : Stage
  deriving DecidableEq

/-- What a call that connects meets in its next step. Chunks are what the server sends while it is
waited for. -/
inductive Encounter where
  | nothing
  | cancellation
  | answer (chunks : List Bytes)
  | failure (e : ApiError)
  | stoppedWriter
  deriving DecidableEq

/-- Where a call that disconnects stands behind its section. -/
inductive Farewell where
  | ending (session : Nat)
  | joining
  | ended
  deriving DecidableEq

/-- The failure of an attempt whose writing task has stopped. -/
def writerStopped : ApiError :=
  .disconnected "writer stopped before START_API"

/-- The next step of the call of an attempt: the client behind it, and where the call stands then. -/
def ConnectCall.advance (call : ConnectCall) (number : Nat) (c : Client) :
    Encounter → Option (Client × Stage)
  | .nothing =>
    match call.stage with
    | .replacing none => some (c, .opening)
    | .replacing (some stale) => some (c.cancel stale, .settling)
    | .settling => some (c, .opening)
    | .opening => none
    | .opened agreed =>
      match (Handshake.startApi agreed.serverVersion call.clientId call.capabilities).encode with
      | .error fault => some (c, .failing (.ofFrame fault))
      | .ok _ =>
        if c.isCancelled number then some (c, .failing Client.abandoned)
        else some (c, .queueing agreed)
    | .queueing agreed => some (c, .installing agreed)
    | .installing agreed =>
      match c.install?
        ⟨number, agreed.serverVersion, agreed.connectionTime, call.clientId⟩ with
      | some installed => some (installed, .acknowledged)
      | none => some (c, .withdrawing Client.abandoned)
    | .withdrawing e => some (c.cancel number, .joining e)
    | .joining e => some (c, .failing e)
    | .failing e => some (c.fail number (Client.phaseAfter e), .ended)
    | .acknowledged => some (c, .ended)
    | .ended => none
  | .cancellation =>
    if call.stage = .opening ∧ c.isCancelled number then some (c, .failing Client.abandoned)
    else none
  | .answer chunks =>
    if call.stage = .opening then
      match (Handshake.await {} chunks).1 with
      | some (.ok agreed) => some (c, .opened agreed)
      | some (.error e) => some (c, .failing e)
      | none => none
    else none
  | .failure e => if call.stage = .opening then some (c, .failing e) else none
  | .stoppedWriter =>
    match call.stage with
    | .queueing _ => some (c, .withdrawing writerStopped)
    | _ => none

/-- A client and the calls under way, those that connect by the number of their attempt. -/
structure World where
  client : Client := {}
  calls : Nat → Option ConnectCall := fun _ => none
  farewells : List Farewell := []

/-- Whose turn it is, and what happens. -/
inductive Action where
  | connect (clientId : Int32)
  | advance (number : Nat) (met : Encounter)
  | disconnect
  | farewell (index : Nat)
  | sessionEnds (number : Nat)
  | shutdown
  | setCapabilities (text : String)
  deriving DecidableEq

namespace World

/-- The next step of a call that disconnects. -/
def sayFarewell (w : World) (index : Nat) : Option World :=
  match w.farewells[index]? with
  | some (.ending session) =>
    some { w with
      client := w.client.cancel session
      farewells := w.farewells.set index .joining }
  | some .joining => some { w with farewells := w.farewells.set index .ended }
  | _ => none

/-- One step. A call that connects starts with the section that takes the number of its attempt; the
client may have been shut down since the call looked. -/
def step (w : World) : Action → Option World
  | .connect clientId =>
    match w.client.start? with
    | none => some w
    | some started =>
      some { w with
        client := started
        calls := Function.update w.calls started.attempt (some
          { clientId := clientId
            capabilities := w.client.capabilities
            stage := .replacing (w.client.session.map Session.attempt) }) }
  | .advance number met =>
    match w.calls number with
    | none => none
    | some call =>
      (call.advance number w.client met).map fun r =>
        { w with
          client := r.1
          calls := Function.update w.calls number (some { call with stage := r.2 }) }
  | .disconnect =>
    some { w with
      client := w.client.disconnect
      farewells := w.farewells ++ (w.client.session.map fun s => .ending s.attempt).toList }
  | .farewell index => w.sayFarewell index
  | .sessionEnds number =>
    if number ≤ w.client.attempt then some { w with client := w.client.cancel number } else none
  | .shutdown => some { w with client := w.client.shutdown }
  | .setCapabilities text =>
    some { w with client := { w.client with capabilities := some text } }

def run (w : World) : List Action → Option World
  | [] => some w
  | action :: actions => (w.step action).bind fun next => next.run actions

/-- The worlds that a fresh client leads to. -/
def Reachable (w : World) : Prop :=
  ∃ actions, run {} actions = some w

end World

/-- What the server and the client have agreed on so far. -/
def Stage.agreed? : Stage → Option Handshake
  | .opened agreed => some agreed
  | .queueing agreed => some agreed
  | .installing agreed => some agreed
  | _ => none

/-- Whether a call changes the client no more. -/
def Stage.isDone : Stage → Bool
  | .acknowledged => true
  | .ended => true
  | _ => false

/-- Whether a version is one that the client speaks. -/
def ServerVersion.IsSpoken (sv : ServerVersion) : Prop :=
  100 ≤ sv ∧ sv ≤ 200

theorem Handshake.isSpoken_await {s : Scanner} {chunks : List Bytes} {agreed : Handshake}
    (h : (Handshake.await s chunks).1 = some (.ok agreed)) : agreed.serverVersion.IsSpoken := by
  have hjudge {version second : String}
      (hj : some (Handshake.judge version second) = some (.ok agreed)) :
      agreed.serverVersion.IsSpoken := by
    have hjudged := Handshake.judged_judge version second
    rw [Option.some.inj hj] at hjudged
    cases hjudged with
    | supported _ hlow hhigh => exact ⟨hlow, hhigh⟩
  induction chunks generalizing s with
  | nil =>
    unfold Handshake.await at h
    split at h
    · cases h
    · exact hjudge h
    · cases h
  | cons chunk chunks ih =>
    unfold Handshake.await at h
    split at h
    · cases h
    · exact hjudge h
    · exact ih h

namespace ConnectCall

/-- What a step of a call can do: cancel tokens, install the session of the latest attempt, or leave
the attempt. -/
theorem advance_cases {call : ConnectCall} {number : Nat} {c c' : Client} {met : Encounter}
    {stage : Stage} (h : call.advance number c met = some (c', stage)) :
    ((∃ tokens, c' = { c with cancelled := tokens }) ∧
      (call.stage.isDone = true → stage.isDone = true) ∧
      ∀ agreed ∈ stage.agreed?,
        agreed ∈ call.stage.agreed? ∨ agreed.serverVersion.IsSpoken) ∨
    (∃ agreed session, call.stage = .installing agreed ∧ stage = .acknowledged ∧
      session.serverVersion = agreed.serverVersion ∧ session.attempt = number ∧
      c.install? session = some c') ∨
    (∃ e, call.stage = .failing e ∧ stage = .ended ∧
      c' = c.fail number (Client.phaseAfter e)) := by
  obtain ⟨clientId, capabilities, place⟩ := call
  cases met with
  | nothing =>
    cases place with
    | replacing stale =>
      cases stale <;> cases h <;> exact .inl ⟨⟨_, rfl⟩, nofun, nofun⟩
    | settling =>
      cases h
      exact .inl ⟨⟨_, rfl⟩, nofun, nofun⟩
    | opening => cases h
    | opened agreed =>
      simp only [advance] at h
      split at h
      · cases h
        exact .inl ⟨⟨_, rfl⟩, nofun, nofun⟩
      split at h
      · cases h
        exact .inl ⟨⟨_, rfl⟩, nofun, nofun⟩
      · cases h
        exact .inl ⟨⟨_, rfl⟩, nofun, fun _ hm => .inl hm⟩
    | queueing agreed =>
      cases h
      exact .inl ⟨⟨_, rfl⟩, nofun, fun _ hm => .inl hm⟩
    | installing agreed =>
      simp only [advance] at h
      split at h
      · next installed hinstall =>
        cases h
        exact .inr (.inl ⟨agreed, _, rfl, rfl, rfl, rfl, hinstall⟩)
      · cases h
        exact .inl ⟨⟨_, rfl⟩, nofun, nofun⟩
    | withdrawing e =>
      cases h
      exact .inl ⟨⟨_, rfl⟩, nofun, nofun⟩
    | joining e =>
      cases h
      exact .inl ⟨⟨_, rfl⟩, nofun, nofun⟩
    | failing e =>
      cases h
      exact .inr (.inr ⟨e, rfl, rfl, rfl⟩)
    | acknowledged =>
      cases h
      exact .inl ⟨⟨_, rfl⟩, fun _ => rfl, nofun⟩
    | ended => cases h
  | cancellation =>
    simp only [advance] at h
    split at h
    · next hopening =>
      cases h
      obtain ⟨rfl, -⟩ := hopening
      exact .inl ⟨⟨_, rfl⟩, nofun, nofun⟩
    · cases h
  | answer chunks =>
    simp only [advance] at h
    split at h
    · next hopening =>
      subst hopening
      split at h
      · next agreed hawait =>
        cases h
        refine .inl ⟨⟨_, rfl⟩, nofun, fun other hm => .inr ?_⟩
        cases hm
        exact Handshake.isSpoken_await hawait
      · cases h
        exact .inl ⟨⟨_, rfl⟩, nofun, nofun⟩
      · cases h
    · cases h
  | failure e =>
    simp only [advance] at h
    split at h
    · next hopening =>
      subst hopening
      cases h
      exact .inl ⟨⟨_, rfl⟩, nofun, nofun⟩
    · cases h
  | stoppedWriter =>
    cases place with
    | queueing agreed =>
      cases h
      exact .inl ⟨⟨_, rfl⟩, nofun, nofun⟩
    | _ => cases h

end ConnectCall

namespace World

/-- What a step can do: leave phase, session and calls as they are, start an attempt, disconnect, or
take a call a step further. -/
theorem step_cases {w w' : World} {action : Action} (hs : w.step action = some w') :
    (∃ tokens down capabilities farewells, (w.client.shutDown = true → down = true) ∧
      w' = ⟨{ w.client with cancelled := tokens, shutDown := down, capabilities := capabilities },
        w.calls, farewells⟩) ∨
    (∃ clientId call, action = .connect clientId ∧ call.stage.agreed? = none ∧
      w' = ⟨{ w.client with
          phase := .connecting
          attempt := w.client.attempt + 1
          pending := some (w.client.attempt + 1)
          session := none },
        Function.update w.calls (w.client.attempt + 1) (some call), w.farewells⟩) ∨
    (∃ farewells, action = .disconnect ∧ w' = ⟨w.client.disconnect, w.calls, farewells⟩) ∨
    (∃ number met call c' stage, action = .advance number met ∧ w.calls number = some call ∧
      call.advance number w.client met = some (c', stage) ∧
      w' = ⟨c', Function.update w.calls number (some { call with stage := stage }),
        w.farewells⟩) := by
  cases action with
  | connect clientId =>
    simp only [step] at hs
    split at hs
    · cases hs
      exact .inl ⟨_, _, _, _, id, rfl⟩
    · next started hstart =>
      obtain ⟨-, rfl⟩ := Client.start?_eq_some hstart
      cases hs
      exact .inr (.inl ⟨clientId, _, rfl, rfl, rfl⟩)
  | advance number met =>
    simp only [step] at hs
    split at hs
    · cases hs
    · next call hcall =>
      obtain ⟨⟨c', stage⟩, hadvance, rfl⟩ := Option.map_eq_some_iff.mp hs
      exact .inr (.inr (.inr ⟨number, met, call, c', stage, rfl, hcall, hadvance, rfl⟩))
  | disconnect =>
    cases hs
    exact .inr (.inr (.inl ⟨_, rfl, rfl⟩))
  | farewell index =>
    simp only [step, sayFarewell] at hs
    split at hs <;> cases hs <;> exact .inl ⟨_, _, _, _, id, rfl⟩
  | sessionEnds number =>
    simp only [step] at hs
    split at hs <;> cases hs
    exact .inl ⟨_, _, _, _, id, rfl⟩
  | shutdown =>
    cases hs
    exact .inl ⟨_, _, _, _, fun _ => rfl, rfl⟩
  | setCapabilities text =>
    cases hs
    exact .inl ⟨_, _, _, _, id, rfl⟩

/-- What every step keeps: the phase tells what is stored, and only the call of the latest attempt is
still to change it. -/
structure Coherent (w : World) : Prop where
  connected_iff : w.client.session.isSome = true ↔ w.client.phase = .connected
  connecting_iff : w.client.pending.isSome = true ↔ w.client.phase = .connecting
  spoken : ∀ s ∈ w.client.session, s.serverVersion.IsSpoken
  number_le : ∀ n call, w.calls n = some call → n ≤ w.client.attempt
  current : ∀ call, w.calls w.client.attempt = some call → call.stage.isDone = false →
    w.client.phase = .connecting
  agreed : ∀ n call, w.calls n = some call → ∀ agreed ∈ call.stage.agreed?,
    agreed.serverVersion.IsSpoken

theorem coherent_initial : Coherent {} where
  connected_iff := by decide
  connecting_iff := by decide
  spoken := nofun
  number_le := nofun
  current := nofun
  agreed := nofun

section Update

variable {w : World} {number : Nat} {call : ConnectCall}

/-- Taking a call further keeps what holds of the numbers of all calls. -/
theorem numbers_update {P : Nat → Prop} (h : ∀ n call, w.calls n = some call → P n)
    (hnumber : P number) (n : Nat) (other : ConnectCall)
    (hother : Function.update w.calls number (some call) n = some other) : P n := by
  rw [Function.update_apply] at hother
  split at hother
  · next hn => exact hn ▸ hnumber
  · exact h n other hother

theorem agreed_update (h : w.Coherent)
    (hcall : ∀ agreed ∈ call.stage.agreed?, agreed.serverVersion.IsSpoken) (n : Nat)
    (other : ConnectCall) (hother : Function.update w.calls number (some call) n = some other) :
    ∀ agreed ∈ other.stage.agreed?, agreed.serverVersion.IsSpoken := by
  rw [Function.update_apply] at hother
  split at hother
  · cases hother
    exact hcall
  · exact h.agreed n other hother

end Update

/-- The client is connecting while the call of its latest attempt runs. -/
theorem Coherent.connecting {w : World} (h : w.Coherent) {number : Nat} {call : ConnectCall}
    (hcall : w.calls number = some call) (hlatest : w.client.attempt = number)
    (hrunning : call.stage.isDone = false) :
    w.client.phase = .connecting ∧ w.client.session = none := by
  have hphase : w.client.phase = .connecting := h.current call (by rw [hlatest, hcall]) hrunning
  refine ⟨hphase, ?_⟩
  rw [← Option.not_isSome_iff_eq_none, h.connected_iff, hphase]
  exact nofun

theorem phaseAfter_ne (e : ApiError) :
    Client.phaseAfter e ≠ .connected ∧ Client.phaseAfter e ≠ .connecting := by
  cases e <;> exact ⟨nofun, nofun⟩

theorem coherent_advance {w : World} (h : w.Coherent) {number : Nat} {met : Encounter}
    {call : ConnectCall} (hcall : w.calls number = some call) {c' : Client} {stage : Stage}
    (hadvance : call.advance number w.client met = some (c', stage)) :
    Coherent ⟨c', Function.update w.calls number (some { call with stage := stage }),
      w.farewells⟩ := by
  have hle := h.number_le number call hcall
  obtain ⟨⟨tokens, rfl⟩, hdone, hagreed⟩ | ⟨agreed, session, hstage, rfl, hversion, rfl, hinstall⟩ |
    ⟨e, hstage, rfl, rfl⟩ := ConnectCall.advance_cases hadvance
  · refine ⟨h.connected_iff, h.connecting_iff, h.spoken, numbers_update h.number_le hle, ?_,
      agreed_update h fun other hm => ?_⟩
    · -- A call that is running behind the step was running before it.
      intro other hother hrunning
      simp only [Function.update_apply] at hother
      split at hother
      · next hlatest =>
        cases hother
        refine (h.connecting hcall hlatest ?_).1
        exact Bool.eq_false_iff.mpr fun hover => Bool.eq_false_iff.mp hrunning (hdone hover)
      · exact h.current other hother hrunning
    · obtain hold | hspoken := hagreed other hm
      · exact h.agreed number call hcall other hold
      · exact hspoken
  · obtain ⟨hlatest, -, rfl⟩ := Client.install?_eq_some hinstall
    refine ⟨by simp, by simp, ?_, numbers_update h.number_le hle, ?_, agreed_update h nofun⟩
    · rintro _ ⟨⟩
      rw [hversion]
      refine h.agreed _ call hcall agreed ?_
      rw [hstage]
      rfl
    · intro other hother hrunning
      simp only [hlatest, Function.update_self] at hother
      cases hother
      cases hrunning
  · unfold Client.fail
    split
    · next hlatest =>
      obtain ⟨-, hnone⟩ := h.connecting hcall hlatest (by rw [hstage]; rfl)
      have hphase := phaseAfter_ne e
      refine ⟨by simp [hnone, hphase], by simp [hphase], ?_, numbers_update h.number_le hle, ?_,
        agreed_update h nofun⟩
      · rintro s hs
        rw [hnone] at hs
        cases hs
      · intro other hother hrunning
        simp only [hlatest, Function.update_self] at hother
        cases hother
        cases hrunning
    · next hlatest =>
      refine ⟨h.connected_iff, h.connecting_iff, h.spoken, numbers_update h.number_le hle, ?_,
        agreed_update h nofun⟩
      intro other hother hrunning
      simp only [Function.update_of_ne hlatest] at hother
      exact h.current other hother hrunning

theorem coherent_step {w w' : World} (h : w.Coherent) {action : Action}
    (hs : w.step action = some w') : w'.Coherent := by
  obtain ⟨tokens, down, capabilities, farewells, -, rfl⟩ | ⟨clientId, call, -, hfresh, rfl⟩ |
    ⟨farewells, -, rfl⟩ | ⟨number, met, call, c', stage, -, hcall, hadvance, rfl⟩ := step_cases hs
  · exact ⟨h.connected_iff, h.connecting_iff, h.spoken, h.number_le, h.current, h.agreed⟩
  · refine ⟨by simp, by simp, nofun, ?_, fun _ _ _ => rfl, agreed_update h ?_⟩
    · exact numbers_update (fun n other hm => Nat.le_succ_of_le (h.number_le n other hm))
        (Nat.le_refl _)
    · rw [hfresh]
      exact nofun
  · -- The number that a disconnect takes belongs to no call.
    refine ⟨by simp [Client.disconnect], by simp [Client.disconnect], nofun, ?_, ?_, h.agreed⟩
    · intro n other hother
      exact Nat.le_succ_of_le (h.number_le n other hother)
    · intro other hother
      exact absurd (h.number_le _ other hother) (Nat.not_succ_le_self _)
  · exact coherent_advance h hcall hadvance

/-- What every step keeps holds behind a run. -/
theorem run_induction {P : World → Prop} {w w' : World} {actions : List Action}
    (hstep : ∀ {v v' : World} {action : Action}, action ∈ actions → P v →
      v.step action = some v' → P v')
    (h : P w) (hr : w.run actions = some w') : P w' := by
  induction actions generalizing w with
  | nil =>
    cases hr
    exact h
  | cons action actions ih =>
    obtain ⟨next, hnext, hrest⟩ := Option.bind_eq_some_iff.mp hr
    refine ih (fun hm => hstep (List.mem_cons_of_mem action hm)) ?_ hrest
    exact hstep List.mem_cons_self h hnext

theorem Reachable.coherent {w : World} (h : w.Reachable) : w.Coherent := by
  obtain ⟨actions, hr⟩ := h
  exact run_induction (fun _ hv hs => coherent_step hv hs) coherent_initial hr

/-- A session that is stored stays as it is until it is given up. -/
theorem session_step {w w' : World} (h : w.Coherent) {action : Action}
    (hs : w.step action = some w') {s : Session} (hstored : w.client.session = some s) :
    w'.client.session = some s ∨ w'.client.session = none := by
  obtain ⟨tokens, down, capabilities, farewells, -, rfl⟩ | ⟨clientId, call, -, -, rfl⟩ |
    ⟨farewells, -, rfl⟩ | ⟨number, met, call, c', stage, -, hcall, hadvance, rfl⟩ := step_cases hs
  · exact .inl hstored
  · exact .inr rfl
  · exact .inr rfl
  · obtain ⟨⟨tokens, rfl⟩, -, -⟩ | ⟨agreed, session, hstage, -, -, rfl, hinstall⟩ |
      ⟨e, -, -, rfl⟩ := ConnectCall.advance_cases hadvance
    · exact .inl hstored
    · -- The call that installs is that of the latest attempt, and so no session is stored yet.
      have hlatest := (Client.install?_eq_some hinstall).1
      have hnone := (h.connecting hcall hlatest (by rw [hstage]; rfl)).2
      rw [hstored] at hnone
      cases hnone
    · unfold Client.fail
      split <;> exact .inl hstored

/-- A call of an attempt that is not the latest does nothing but cancel. -/
theorem outdated_advance {call : ConnectCall} {number : Nat} {c c' : Client} {met : Encounter}
    {stage : Stage} (h : call.advance number c met = some (c', stage)) (hold : number ≠ c.attempt) :
    ∃ tokens, c' = { c with cancelled := tokens } := by
  obtain ⟨htokens, -, -⟩ | ⟨agreed, session, -, -, -, rfl, hinstall⟩ | ⟨e, -, -, rfl⟩ :=
    ConnectCall.advance_cases h
  · exact htokens
  · exact absurd (Client.install?_eq_some hinstall).1.symm hold
  · exact ⟨c.cancelled, if_neg hold.symm⟩

theorem outdated_step {w w' : World} {number : Nat} {met : Encounter}
    (hs : w.step (.advance number met) = some w') (hold : number ≠ w.client.attempt) :
    w'.client.session = w.client.session ∧ w'.client.phase = w.client.phase := by
  obtain ⟨tokens, down, capabilities, farewells, -, rfl⟩ | ⟨clientId, call, hother, -, -⟩ |
    ⟨farewells, hother, -⟩ | ⟨n, other, call, c', stage, haction, -, hadvance, rfl⟩ :=
      step_cases hs
  · exact ⟨rfl, rfl⟩
  · cases hother
  · cases hother
  · cases haction
    obtain ⟨tokens, rfl⟩ := outdated_advance hadvance hold
    exact ⟨rfl, rfl⟩

/-- Whether a client is disconnected and no call under way is to change that. -/
structure Idle (w : World) : Prop where
  disconnected : w.client.phase = .disconnected
  session_eq : w.client.session = none
  outdated : ∀ n call, w.calls n = some call → n + 1 ≤ w.client.attempt

theorem idle_step {w w' : World} (h : w.Idle) {action : Action}
    (hcalls : ∀ clientId, action ≠ .connect clientId) (hs : w.step action = some w') :
    w'.Idle := by
  obtain ⟨tokens, down, capabilities, farewells, -, rfl⟩ | ⟨clientId, call, rfl, -, -⟩ |
    ⟨farewells, -, rfl⟩ | ⟨number, met, call, c', stage, -, hcall, hadvance, rfl⟩ := step_cases hs
  · exact ⟨h.disconnected, h.session_eq, h.outdated⟩
  · exact absurd rfl (hcalls clientId)
  · refine ⟨rfl, rfl, fun n other hother => ?_⟩
    exact Nat.le_succ_of_le (h.outdated n other hother)
  · have hlt := h.outdated number call hcall
    obtain ⟨tokens, rfl⟩ := outdated_advance hadvance (Nat.ne_of_lt hlt)
    exact ⟨h.disconnected, h.session_eq, numbers_update h.outdated hlt⟩

theorem shutDown_step {w w' : World} (h : w.client.shutDown = true) {action : Action}
    (hs : w.step action = some w') : w'.client.shutDown = true := by
  obtain ⟨tokens, down, capabilities, farewells, hdown, rfl⟩ | ⟨clientId, call, -, -, rfl⟩ |
    ⟨farewells, -, rfl⟩ | ⟨number, met, call, c', stage, -, hcall, hadvance, rfl⟩ := step_cases hs
  · exact hdown h
  · exact h
  · exact h
  · obtain ⟨⟨tokens, rfl⟩, -, -⟩ | ⟨agreed, session, -, -, -, -, hinstall⟩ | ⟨e, -, -, rfl⟩ :=
      ConnectCall.advance_cases hadvance
    · exact h
    · obtain ⟨-, -, rfl⟩ := Client.install?_eq_some hinstall
      exact h
    · unfold Client.fail
      split <;> exact h

theorem visiblePhase_ne_connected {w : World} (h : w.Coherent) (hdown : w.client.shutDown = true) :
    w.client.visiblePhase ≠ .connected := by
  unfold Client.visiblePhase
  split
  · next hs => simp [Client.isCancelled, hdown]
  · next hnot =>
    intro hphase
    obtain ⟨s, hs⟩ := Option.isSome_iff_exists.mp (h.connected_iff.mpr hphase)
    exact hnot s hphase hs

/-- Whatever the order in which calls take their steps, the phase of the client tells what is stored,
a stored session keeps its version, and an outdated attempt neither installs a session nor changes
the phase. A client that was disconnected stays so until an attempt starts, and one that was shut
down is never seen connected again. -/
theorem interleaving_safe {w : World} (h : w.Reachable) :
    (w.client.session.isSome = true ↔ w.client.phase = .connected) ∧
    (w.client.pending.isSome = true ↔ w.client.phase = .connecting) ∧
    (∀ s ∈ w.client.session, 100 ≤ s.serverVersion ∧ s.serverVersion ≤ 200) ∧
    (∀ action w', w.step action = some w' → ∀ s ∈ w.client.session,
      w'.client.session = some s ∨ w'.client.session = none) ∧
    (∀ number met w', w.step (.advance number met) = some w' → number ≠ w.client.attempt →
      w'.client.session = w.client.session ∧ w'.client.phase = w.client.phase) ∧
    (∀ w', w.step .disconnect = some w' → ∀ actions w'',
      (∀ clientId, Action.connect clientId ∉ actions) → w'.run actions = some w'' →
      w''.client.phase = .disconnected ∧ w''.client.session = none) ∧
    (w.client.shutDown = true → ∀ actions w', w.run actions = some w' →
      w'.client.visiblePhase ≠ .connected) := by
  have hw := h.coherent
  refine ⟨hw.connected_iff, hw.connecting_iff, hw.spoken,
    fun action w' hs s hstored => session_step hw hs hstored,
    fun number met w' hs hold => outdated_step hs hold, ?_, ?_⟩
  · intro w' hs actions w'' hcalls hr
    have hidle : w'.Idle := by
      cases hs
      exact ⟨rfl, rfl, fun n call hcall => Nat.succ_le_succ (hw.number_le n call hcall)⟩
    have hlater : w''.Idle := run_induction
      (fun hm hv hs => idle_step hv (fun clientId he => hcalls clientId (he ▸ hm)) hs) hidle hr
    exact ⟨hlater.disconnected, hlater.session_eq⟩
  · intro hdown actions w' hr
    obtain ⟨hcoherent, hstill⟩ := run_induction
      (P := fun v => v.Coherent ∧ v.client.shutDown = true)
      (fun _ hv hs => ⟨coherent_step hv.1 hs, shutDown_step hv.2 hs⟩) ⟨hw, hdown⟩ hr
    exact visiblePhase_ne_connected hcoherent hstill

/-- A client connects, is disconnected while it waits for the answer, and connects once more; the
first call comes to its end meanwhile and leaves the session of the second one alone. -/
theorem interleaving_safe_reconnected :
    ∃ w : World, w.Reachable ∧
      w.client.session = some ⟨3, 100, "t", 8⟩ ∧ w.client.phase = .connected := by
  have hr : ∃ w, run {} [.connect 7, .advance 1 .nothing, .disconnect, .connect 8,
      .advance 3 .nothing, .advance 1 (.answer [[0x31, 0x30, 0x30, 0, 0x74, 0]]),
      .advance 3 (.answer [[0x31, 0x30, 0x30], [0, 0x74, 0]]), .advance 3 .nothing,
      .advance 3 .nothing, .advance 3 .nothing, .advance 1 .nothing, .advance 1 .nothing] = some w ∧
      w.client.session = some ⟨3, 100, "t", 8⟩ := ⟨_, rfl, rfl⟩
  obtain ⟨w, hw, hsession⟩ := hr
  have hreachable : w.Reachable := ⟨_, hw⟩
  exact ⟨w, hreachable, hsession, (interleaving_safe hreachable).1.mp (by rw [hsession]; rfl)⟩

end World

end BrokerWire
