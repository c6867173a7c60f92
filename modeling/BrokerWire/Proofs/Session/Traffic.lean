import BrokerWire.Proofs.Session.Turns

/-!
All that goes on at a client: the calls that connect and disconnect, the calls that issue requests,
and the tasks of every session, one step of one of them at a time. A call that issues a request
looks at the client once, when it begins, and puts its frame into the queue later, as soon as there
is room. Main statement: what one step can do (`step_cases`).
-/

namespace BrokerWire

/-- A call that issues a request, with the client that it looked at. -/
structure Asking where
  request : Request
  seen : Client

/-- A client with all that goes on at it. -/
structure Traffic where
  world : World := {}
  counters : Counters := {}
  lines : Nat → Line := fun _ => {}
  /-- The requests under way. -/
  asked : List Asking := []
  /-- What was told of requests without a session. -/
  outside : List Notice := []
  ledger : List Entry := []

/-- Whose turn it is. -/
inductive Move where
  | call (action : Action)
  | issue (r : Request)
  | submit (index : Nat)
  /-- A task of a session does a deed of its own. -/
  | task (number : Nat) (deed : Deed)
  /-- The application sets the counters back. -/
  | reset

namespace Traffic

def act (t : Traffic) (number : Nat) (deed : Deed) : Option Traffic :=
  if (t.lines number).can deed then
    let o := (t.lines number).after number t.counters deed
    some { t with
      lines := Function.update t.lines number o.line
      counters := o.counters
      ledger := t.ledger ++ o.entries }
  else none

/-- Whether a task may do a deed. Stopping, and telling that the session is over, comes behind its
cancellation. -/
def permits (t : Traffic) (number : Nat) : Deed → Bool
  | .greet _ => (t.world.calls number).any fun call => call.stage = .opening
  | .pay => true
  | .take => true
  | .finish _ => true
  | .stop _ => t.world.client.isCancelled number
  | .fill _ => true
  | .receive => true
  | .lose _ => true
  | .say =>
    (t.lines number).saying.head? != some .connectionClosed || t.world.client.isCancelled number
  | .hush => t.world.client.isCancelled number
  | _ => false

/-- One step. -/
def step (t : Traffic) : Move → Option Traffic
  | .call action =>
    (t.world.step action).bind fun world =>
      match t.world.deed? world action with
      | none => some { t with world := world }
      | some (number, deed) => { t with world := world }.act number deed
  | .issue r => some { t with asked := t.asked ++ [⟨r, t.world.client⟩] }
  | .submit index =>
    match t.asked[index]? with
    | none => none
    | some asking =>
      let rest := { t with asked := t.asked.eraseIdx index }
      match asking.seen.live? with
      | none =>
        match asking.seen.request true asking.request with
        | .error notice => some { rest with outside := t.outside ++ [notice] }
        | .ok _ => none
      | some s =>
        match asking.seen.request (t.lines s.attempt).isOpen asking.request with
        | .error notice => rest.act s.attempt (.refuse notice)
        | .ok frame => rest.act s.attempt (.enqueue frame)
  | .task number deed => if t.permits number deed then t.act number deed else none
  | .reset => some { t with counters := {}, ledger := t.ledger ++ [.reset] }

def run (t : Traffic) : List Move → Option Traffic
  | [] => some t
  | move :: moves => (t.step move).bind fun next => next.run moves

/-- What a fresh client leads to. -/
def Reachable (t : Traffic) : Prop :=
  ∃ moves, run {} moves = some t

theorem run_append (t : Traffic) (moves later : List Move) :
    t.run (moves ++ later) = (t.run moves).bind fun next => next.run later := by
  induction moves generalizing t with
  | nil => rfl
  | cons move moves ih =>
    rw [List.cons_append, run, run, Option.bind_assoc]
    exact congrArg _ (funext ih)

theorem run_singleton (t : Traffic) (move : Move) : t.run [move] = t.step move := by
  rw [run]
  exact Option.bind_fun_some _

theorem Reachable.step {t t' : Traffic} {move : Move} (h : t.Reachable)
    (hs : t.step move = some t') : t'.Reachable := by
  obtain ⟨moves, hr⟩ := h
  refine ⟨moves ++ [move], ?_⟩
  rw [run_append, hr, Option.bind_some, run_singleton, hs]

/-- What a run leads to is reachable. -/
theorem reachable_of_run {α : Type} (moves : List Move) {f : Traffic → α} {a : α}
    (h : (run {} moves).map f = some a) : ∃ t : Traffic, t.Reachable ∧ f t = a := by
  obtain ⟨t, hrun, hresult⟩ := Option.map_eq_some_iff.mp h
  exact ⟨t, ⟨moves, hrun⟩, hresult⟩

/-- What every step keeps holds behind a run. -/
theorem run_induction {P : Traffic → Prop} {t t' : Traffic} {moves : List Move}
    (hstep : ∀ {v v' : Traffic} {move : Move}, P v → v.step move = some v' → P v')
    (h : P t) (hr : t.run moves = some t') : P t' := by
  induction moves generalizing t with
  | nil =>
    cases hr
    exact h
  | cons move moves ih =>
    obtain ⟨next, hnext, hrest⟩ := Option.bind_eq_some_iff.mp hr
    exact ih (hstep h hnext) hrest

theorem act_eq_some {t t' : Traffic} {number : Nat} {deed : Deed}
    (h : t.act number deed = some t') :
    (t.lines number).can deed = true ∧
      t' = { t with
        lines := Function.update t.lines number
          ((t.lines number).after number t.counters deed).line
        counters := ((t.lines number).after number t.counters deed).counters
        ledger := t.ledger ++ ((t.lines number).after number t.counters deed).entries } := by
  unfold act at h
  split at h
  · next hcan =>
    cases h
    exact ⟨hcan, rfl⟩
  · cases h

/-- What a step can do: take a call further, perhaps with a deed; note a request, or tell of one
that has no session; carry a request out; do a deed of a task; or set the counters back. -/
theorem step_cases {t t' : Traffic} {move : Move} (hs : t.step move = some t') :
    (∃ action world, t.world.step action = some world ∧
      (t.world.deed? world action = none ∧ t' = { t with world := world } ∨
        ∃ number deed, t.world.deed? world action = some (number, deed) ∧
          { t with world := world }.act number deed = some t')) ∨
    (∃ asked outside, t' = { t with asked := asked, outside := outside } ∧
      ∀ asking ∈ asked, asking ∈ t.asked ∨ asking.seen = t.world.client) ∨
    (∃ asking ∈ t.asked, ∃ s asked deed, asking.seen.live? = some s ∧ asked ⊆ t.asked ∧
      ((∃ notice, deed = .refuse notice ∧
          asking.seen.request (t.lines s.attempt).isOpen asking.request = .error notice) ∨
        (∃ frame, deed = .enqueue frame ∧
          asking.seen.request (t.lines s.attempt).isOpen asking.request = .ok frame)) ∧
      { t with asked := asked }.act s.attempt deed = some t') ∨
    (∃ number deed, t.permits number deed = true ∧ t.act number deed = some t') ∨
    (move = .reset ∧ t' = { t with counters := {}, ledger := t.ledger ++ [.reset] }) := by
  cases move with
  | call action =>
    obtain ⟨world, hworld, hdeed⟩ := Option.bind_eq_some_iff.mp hs
    refine .inl ⟨action, world, hworld, ?_⟩
    split at hdeed
    · next hnone =>
      cases hdeed
      exact .inl ⟨hnone, rfl⟩
    · next number deed hsome => exact .inr ⟨number, deed, hsome, hdeed⟩
  | issue r =>
    cases hs
    refine .inr (.inl ⟨_, t.outside, rfl, fun asking hm => ?_⟩)
    obtain hm | hm := List.mem_append.mp hm
    · exact .inl hm
    · rw [List.mem_singleton.mp hm]
      exact .inr rfl
  | submit index =>
    simp only [step] at hs
    split at hs
    · cases hs
    next asking hasking =>
    have hmem := List.mem_of_getElem? hasking
    have hrest := List.eraseIdx_subset (l := t.asked) (k := index)
    split at hs
    · split at hs
      · cases hs
        exact .inr (.inl ⟨_, _, rfl, fun other hm => .inl (hrest hm)⟩)
      · cases hs
    · next s hlive =>
      split at hs
      · next notice hrequest =>
        exact .inr (.inr (.inl
          ⟨asking, hmem, s, _, _, hlive, hrest, .inl ⟨notice, rfl, hrequest⟩, hs⟩))
      · next frame hrequest =>
        exact .inr (.inr (.inl
          ⟨asking, hmem, s, _, _, hlive, hrest, .inr ⟨frame, rfl, hrequest⟩, hs⟩))
  | task number deed =>
    simp only [step] at hs
    split at hs
    · next hpermits => exact .inr (.inr (.inr (.inl ⟨number, deed, hpermits, hs⟩)))
    · cases hs
  | reset =>
    cases hs
    exact .inr (.inr (.inr (.inr ⟨rfl, rfl⟩)))

end Traffic

end BrokerWire
