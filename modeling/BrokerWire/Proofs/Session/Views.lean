import BrokerWire.Proofs.Session.Interleaving

namespace BrokerWire

namespace Client

variable {c : Client} {s : Session}

/-- The session that requests go to is the stored one, as long as it is not cancelled. -/
theorem live?_eq_some_iff :
    c.live? = some s ↔
      c.phase = .connected ∧ c.session = some s ∧ c.isCancelled s.attempt = false := by
  unfold live?
  split
  · next stored hphase hsession =>
    rw [hsession, Option.some.injEq]
    by_cases hc : c.isCancelled stored.attempt = true
    · rw [if_pos hc]
      refine iff_of_false nofun ?_
      rintro ⟨-, rfl, hnot⟩
      rw [hc] at hnot
      cases hnot
    · rw [if_neg hc, Option.some.injEq]
      constructor
      · rintro rfl
        exact ⟨hphase, rfl, Bool.eq_false_iff.mpr hc⟩
      · rintro ⟨-, he, -⟩
        exact he
  · next hnone =>
    refine iff_of_false nofun ?_
    rintro ⟨hphase, hsession, -⟩
    exact hnone s hphase hsession

/-- A client that stores a session while it is connected is seen as connected exactly when requests
find that session. -/
theorem isConnected_iff (h : c.session.isSome = true ↔ c.phase = .connected) :
    c.isConnected = true ↔ c.live?.isSome = true := by
  rw [isConnected, decide_eq_true_iff]
  unfold visiblePhase live?
  split
  · split <;> simp
  · next hnone =>
    refine iff_of_false ?_ (by simp)
    intro hphase
    obtain ⟨s, hs⟩ := Option.isSome_iff_exists.mp (h.mpr hphase)
    exact hnone s hphase hs

end Client

namespace World

variable {w w' : World}

/-- A session that is cancelled while it is stored: one that ended and was not given up. -/
def HasEnded (w : World) : Prop :=
  ∃ s ∈ w.client.session, w.client.isCancelled s.attempt = true

theorem hasEnded_iff (h : w.Coherent) :
    w.HasEnded ↔ w.client.session.isSome = true ∧ w.client.isConnected = false := by
  rw [Bool.eq_false_iff, Ne, Client.isConnected_iff h.connected_iff]
  constructor
  · rintro ⟨s, hs, hc⟩
    refine ⟨Option.isSome_of_mem hs, fun hlive => ?_⟩
    obtain ⟨live, hl⟩ := Option.isSome_iff_exists.mp hlive
    obtain ⟨-, hstored, hnot⟩ := Client.live?_eq_some_iff.mp hl
    rw [Option.mem_def, hstored] at hs
    cases hs
    rw [hc] at hnot
    cases hnot
  · rintro ⟨hstored, hlive⟩
    obtain ⟨s, hs⟩ := Option.isSome_iff_exists.mp hstored
    refine ⟨s, hs, ?_⟩
    by_contra hnot
    have hl := Client.live?_eq_some_iff.mpr
      ⟨h.connected_iff.mp hstored, hs, Bool.eq_false_iff.mpr hnot⟩
    exact hlive (Option.isSome_iff_exists.mpr ⟨s, hl⟩)

/-- Only a step of the application makes a client forget a session. -/
theorem session_kept (h : w.Coherent) {action : Action} (hs : w.step action = some w')
    (hstays : action ≠ .disconnect) (hconnect : ∀ clientId, action ≠ .connect clientId)
    {s : Session} (hstored : w.client.session = some s) : w'.client.session = some s := by
  refine (session_step h hs hstored).resolve_right fun hgone => ?_
  obtain ⟨tokens, down, capabilities, farewells, -, rfl⟩ | ⟨clientId, call, rfl, -, -⟩ |
    ⟨farewells, rfl, -⟩ | ⟨number, met, call, c', stage, -, -, hadvance, rfl⟩ := step_cases hs
  · cases hstored.symm.trans hgone
  · exact hconnect clientId rfl
  · exact hstays rfl
  · obtain ⟨⟨tokens, rfl⟩, -, -⟩ | ⟨agreed, session, -, -, -, -, hinstall⟩ | ⟨e, -, -, rfl⟩ :=
      ConnectCall.advance_cases hadvance
    · cases hstored.symm.trans hgone
    · obtain ⟨-, -, rfl⟩ := Client.install?_eq_some hinstall
      cases hgone
    · unfold Client.fail at hgone
      split at hgone <;> cases hstored.symm.trans hgone

/-- A client is connected exactly when requests find a session. The version, the time and the number
are those of the stored session: of the live one, or of one that has ended, until the application
disconnects or connects again. -/
theorem views_of_reachable {w : World} (h : w.Reachable) :
    (w.client.isConnected = true ↔ w.client.live?.isSome = true) ∧
    (∀ s, w.client.live? = some s →
      w.client.serverVersion? = some s.serverVersion ∧
      w.client.connectionTime? = some s.connectionTime ∧
      w.client.clientId? = some s.clientId) ∧
    ((w.client.serverVersion?.isSome = true ↔ w.client.isConnected = true ∨ w.HasEnded) ∧
      (w.client.connectionTime?.isSome = true ↔ w.client.isConnected = true ∨ w.HasEnded) ∧
      (w.client.clientId?.isSome = true ↔ w.client.isConnected = true ∨ w.HasEnded)) ∧
    ¬ (w.client.isConnected = true ∧ w.HasEnded) ∧
    ∀ s ∈ w.client.session, ∀ actions w', .disconnect ∉ actions →
      (∀ clientId, .connect clientId ∉ actions) → w.run actions = some w' →
        w'.client.session = some s := by
  have hw := h.coherent
  have hconnected := Client.isConnected_iff hw.connected_iff
  have hended := hasEnded_iff hw
  have hstored : w.client.session.isSome = true ↔ w.client.isConnected = true ∨ w.HasEnded := by
    constructor
    · intro hsome
      cases hc : w.client.isConnected with
      | true => exact .inl rfl
      | false => exact .inr (hended.mpr ⟨hsome, hc⟩)
    · rintro (hc | hends)
      · obtain ⟨s, hs⟩ := Option.isSome_iff_exists.mp (hconnected.mp hc)
        exact Option.isSome_of_mem (Client.live?_eq_some_iff.mp hs).2.1
      · exact (hended.mp hends).1
  refine ⟨hconnected, ?_, ?_, ?_, ?_⟩
  · intro s hs
    obtain ⟨-, hsession, -⟩ := Client.live?_eq_some_iff.mp hs
    simp only [Client.serverVersion?, Client.connectionTime?, Client.clientId?, hsession,
      Option.map_some, and_self]
  · simp only [Client.serverVersion?, Client.connectionTime?, Client.clientId?,
      Option.isSome_map]
    exact ⟨hstored, hstored, hstored⟩
  · rintro ⟨hc, hends⟩
    rw [(hended.mp hends).2] at hc
    cases hc
  · intro s hs actions w' hstays hconnect hr
    have hkept := run_induction (P := fun v => v.Coherent ∧ v.client.session = some s)
      (fun hm hv hstep => ⟨coherent_step hv.1 hstep, session_kept hv.1 hstep
        (fun he => hstays (he ▸ hm)) (fun clientId he => hconnect clientId (he ▸ hm)) hv.2⟩)
      ⟨hw, hs⟩ hr
    exact hkept.2

/-- The steps of a client that connects to a server of version 100, up to the session. -/
def sessionSteps : List Action :=
  [.connect 7, .advance 1 .nothing, .advance 1 (.answer [[0x31, 0x30, 0x30, 0, 0x74, 0]]),
    .advance 1 .nothing, .advance 1 .nothing, .advance 1 .nothing]

/-- A session that is live, and kept behind its end. -/
theorem views_of_reachable_ended :
    ∃ w w' : World, w.Reachable ∧ w.client.isConnected = true ∧ w.client.clientId? = some 7 ∧
      w.run [.sessionEnds 1] = some w' ∧ w'.client.isConnected = false ∧
      w'.client.session = some ⟨1, 100, "t", 7⟩ := by
  obtain ⟨w, w', hw, hlive, hends, hc⟩ : ∃ w w', run {} sessionSteps = some w ∧
      w.client.live? = some ⟨1, 100, "t", 7⟩ ∧ w.run [.sessionEnds 1] = some w' ∧
      w'.client.isConnected = false := ⟨_, _, rfl, rfl, rfl, rfl⟩
  have hreachable : w.Reachable := ⟨_, hw⟩
  obtain ⟨hconnected, hvalues, -, -, hkept⟩ := views_of_reachable hreachable
  have hsession := (Client.live?_eq_some_iff.mp hlive).2.1
  refine ⟨w, w', hreachable, ?_, (hvalues _ hlive).2.2, hends, hc, ?_⟩
  · rw [hconnected, hlive]
    rfl
  · exact hkept _ hsession [.sessionEnds 1] w' (by decide) (by simp) hends

/-- So a client may answer with a version, a time and a number although it is not connected. -/
theorem views_disagree :
    ¬ ∀ w : World, w.Reachable →
      (w.client.serverVersion?.isSome = true ↔ w.client.isConnected = true) := by
  intro hall
  obtain ⟨w, hw, hversion, hc⟩ : ∃ w, run {} (sessionSteps ++ [.sessionEnds 1]) = some w ∧
      w.client.serverVersion? = some 100 ∧ w.client.isConnected = false := ⟨_, rfl, rfl, rfl⟩
  have hconnected := (hall w ⟨_, hw⟩).mp (by rw [hversion]; rfl)
  rw [hc] at hconnected
  cases hconnected

end World

end BrokerWire
