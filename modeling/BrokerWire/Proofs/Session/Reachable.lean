import BrokerWire.Session.Scenario
import Mathlib.Tactic.Common

namespace BrokerWire

namespace Client

/-- No number that a client keeps is later than its latest attempt. -/
structure Bounded (c : Client) : Prop where
  cancelled_le : ∀ n ∈ c.cancelled, n ≤ c.attempt
  pending_le : ∀ n ∈ c.pending, n ≤ c.attempt
  session_le : ∀ s ∈ c.session, s.attempt ≤ c.attempt

theorem bounded_cancel {c : Client} (h : c.Bounded) {n : Nat} (hn : n ≤ c.attempt) :
    (c.cancel n).Bounded := by
  refine ⟨?_, h.pending_le, h.session_le⟩
  intro m hm
  obtain rfl | hm := List.mem_cons.mp hm
  · exact hn
  · exact h.cancelled_le m hm

/-- What a new attempt changes. -/
theorem start?_eq_some {c c' : Client} (hs : c.start? = some c') :
    c.isBusy = false ∧
      c' = { c with
        phase := .connecting
        attempt := c.attempt + 1
        pending := some (c.attempt + 1)
        session := none } := by
  unfold start? at hs
  split at hs
  · cases hs
  · next hbusy =>
    cases hs
    exact ⟨Bool.eq_false_iff.mpr hbusy, rfl⟩

theorem bounded_start? {c c' : Client} (h : c.Bounded) (hs : c.start? = some c') :
    c'.Bounded := by
  obtain ⟨-, rfl⟩ := start?_eq_some hs
  refine ⟨?_, ?_, nofun⟩
  · intro n hn
    exact Nat.le_succ_of_le (h.cancelled_le n hn)
  · intro n hn
    cases hn
    exact Nat.le_refl _

/-- A new attempt is not cancelled as long as the client is not shut down. -/
theorem start?_not_cancelled {c c' : Client} (h : c.Bounded) (hs : c.start? = some c')
    (hdown : c.shutDown = false) : c'.isCancelled c'.attempt = false := by
  obtain ⟨-, rfl⟩ := start?_eq_some hs
  have hfresh : c.attempt + 1 ∉ c.cancelled := by
    intro hm
    have hle := h.cancelled_le _ hm
    omega
  simp [isCancelled, hdown, hfresh]

/-- A session is installed for the latest attempt only, and only while that is not cancelled. -/
theorem install?_eq_some {c c' : Client} {s : Session} (hs : c.install? s = some c') :
    c.attempt = s.attempt ∧ c.isCancelled s.attempt = false ∧
      c' = { c with phase := .connected, pending := none, session := some s } := by
  unfold install? at hs
  split at hs
  · next hcurrent =>
    cases hs
    exact ⟨hcurrent.1, Bool.eq_false_iff.mpr fun hc => by simp [hc] at hcurrent, rfl⟩
  · cases hs

theorem bounded_install? {c c' : Client} {s : Session} (h : c.Bounded)
    (hs : c.install? s = some c') : c'.Bounded := by
  obtain ⟨hcurrent, -, rfl⟩ := install?_eq_some hs
  refine ⟨h.cancelled_le, nofun, ?_⟩
  intro other hm
  cases hm
  exact Nat.le_of_eq hcurrent.symm

theorem bounded_fail {c : Client} (h : c.Bounded) (attempt : Nat) (phase : Phase) :
    (c.fail attempt phase).Bounded := by
  unfold fail
  split
  · exact ⟨h.cancelled_le, nofun, h.session_le⟩
  · exact h

theorem bounded_disconnect {c : Client} (h : c.Bounded) : c.disconnect.Bounded := by
  refine ⟨?_, nofun, nofun⟩
  intro n hn
  obtain hn | hn := List.mem_append.mp hn
  · exact Nat.le_succ_of_le (h.pending_le n (Option.mem_toList.mp hn))
  · exact Nat.le_succ_of_le (h.cancelled_le n hn)

theorem bounded_shutdown {c : Client} (h : c.Bounded) : c.shutdown.Bounded :=
  ⟨h.cancelled_le, h.pending_le, h.session_le⟩

end Client

namespace Scenario

theorem bounded_settle {st : State} (h : st.client.Bounded) : st.settle.client.Bounded := by
  unfold State.settle
  split
  · next inbox s _ hs =>
    split
    · exact Client.bounded_cancel h (h.session_le s hs)
    · exact h
  · exact h

theorem bounded_receive {st : State} (h : st.client.Bounded) (chunks : List Bytes) :
    (st.receive chunks).2.client.Bounded := by
  unfold State.receive
  split
  · exact h
  · exact bounded_settle h

theorem bounded_serverCloses {st : State} (h : st.client.Bounded) :
    st.serverCloses.2.client.Bounded := by
  unfold State.serverCloses
  dsimp only
  split
  · exact h
  · exact bounded_settle h

theorem bounded_disconnect {st : State} (h : st.client.Bounded) :
    st.disconnect.client.Bounded := by
  unfold State.disconnect
  dsimp only
  split
  · next s hs =>
    refine Client.bounded_cancel (Client.bounded_disconnect h) ?_
    exact Nat.le_succ_of_le (h.session_le s hs)
  · exact Client.bounded_disconnect h

theorem bounded_interrupt {st : State} (h : st.client.Bounded) (interruption : Interruption) :
    (st.interrupt interruption).2.2.client.Bounded := by
  cases interruption with
  | disconnect => exact bounded_disconnect h
  | shutdown => exact Client.bounded_shutdown h
  | connect => exact bounded_disconnect h

theorem bounded_open {st : State} (h : st.client.Bounded) (d : Dial) (request : Bytes)
    (agreed : Handshake) (left : Scanner) (chunks : List Bytes) (leaves : Bool) :
    (st.open d request agreed left chunks leaves).2.client.Bounded := by
  unfold State.open
  dsimp only
  split
  · exact Client.bounded_fail h _ _
  · split
    · exact Client.bounded_fail h _ _
    · next client hinstall =>
      have hclient := Client.bounded_install? h hinstall
      cases leaves with
      | true => exact bounded_serverCloses (bounded_receive hclient ([] :: chunks))
      | false => exact bounded_receive hclient ([] :: chunks)

theorem bounded_await {st : State} (h : st.client.Bounded) (d : Dial) (request : Bytes)
    (reply : List Bytes) (leaves : Bool) (meanwhile : Option Interruption) :
    (st.await d request reply leaves meanwhile).2.client.Bounded := by
  unfold State.await
  dsimp only
  split
  · exact bounded_open h d request _ _ _ leaves
  · split
    · exact Client.bounded_fail h _ _
    · exact Client.bounded_fail (bounded_interrupt h _) _ _
    · exact Client.bounded_fail h _ _

theorem bounded_connect {st : State} (h : st.client.Bounded) (d : Dial) :
    (st.connect d).2.client.Bounded := by
  unfold State.connect
  dsimp only
  split
  · exact h
  · split
    · exact h
    · next client hstart =>
      have hclient := Client.bounded_start? h hstart
      split
      · exact Client.bounded_fail hclient _ _
      · exact Client.bounded_fail hclient _ _
      · split
        · exact Client.bounded_fail hclient _ _
        · exact bounded_await hclient d _ _ _ _

/-- The states that steps of the application and of servers lead to, in any order. -/
inductive Reachable : State → Prop
  | initial : Reachable {}
  | connect {st : State} (h : Reachable st) (d : Dial) : Reachable (st.connect d).2
  | request {st : State} (h : Reachable st) (r : Request) : Reachable (st.request r).2
  | receive {st : State} (h : Reachable st) (chunks : List Bytes) :
    Reachable (st.receive chunks).2
  | serverCloses {st : State} (h : Reachable st) : Reachable st.serverCloses.2
  | serverLetsGo {st : State} (h : Reachable st) : Reachable { st with serverHolds := false }
  | disconnect {st : State} (h : Reachable st) : Reachable st.disconnect
  | shutdown {st : State} (h : Reachable st) : Reachable st.shutdown
  | setCapabilities {st : State} (h : Reachable st) (text : String) :
    Reachable { st with client := { st.client with capabilities := some text } }
  | resetCounters {st : State} (h : Reachable st) : Reachable { st with counters := {} }

theorem Reachable.bounded {st : State} (h : Reachable st) : st.client.Bounded := by
  induction h with
  | initial => exact ⟨nofun, nofun, nofun⟩
  | connect _ d ih => exact bounded_connect ih d
  | request _ r ih =>
    unfold State.request
    split
    · exact ih
    · exact ih
  | receive _ chunks ih => exact bounded_receive ih chunks
  | serverCloses _ ih => exact bounded_serverCloses ih
  | serverLetsGo _ ih => exact ih
  | disconnect _ ih => exact bounded_disconnect ih
  | shutdown _ ih => exact Client.bounded_shutdown ih
  | setCapabilities _ text ih => exact ⟨ih.cancelled_le, ih.pending_le, ih.session_le⟩
  | resetCounters _ ih => exact ih

end Scenario

end BrokerWire
