import BrokerWire.Proofs.Session.Accounting

namespace BrokerWire

/-- Whether the task that writes has not started, and the call that connects is not about to fail. -/
def Stage.isUnstarted : Stage → Bool
  | .replacing _ => true
  | .settling => true
  | .opening => true
  | .opened _ => true
  | _ => false

/-- A call that has ended does nothing more. -/
theorem ConnectCall.running_of_advance {call : ConnectCall} {number : Nat} {c c' : Client}
    {met : Encounter} {next : Stage} (h : call.advance number c met = some (c', next)) :
    call.stage ≠ .ended := by
  intro hended
  obtain ⟨clientId, capabilities, stage⟩ := call
  cases hended
  cases met <;> cases h

theorem ConnectCall.isUnstarted_of_advance {call : ConnectCall} {number : Nat} {c c' : Client}
    {met : Encounter} {next : Stage} (h : call.advance number c met = some (c', next))
    (hnext : next.isUnstarted = true) : call.stage.isUnstarted = true := by
  obtain ⟨clientId, capabilities, stage⟩ := call
  cases met with
  | nothing =>
    cases stage with
    | replacing _ | settling | opening | opened _ => rfl
    | installing agreed =>
      simp only [advance] at h
      split at h <;> cases h <;> cases hnext
    | ended => cases h
    | _ =>
      cases h
      cases hnext
  | stoppedWriter =>
    cases stage with
    | queueing agreed =>
      cases h
      cases hnext
    | _ => cases h
  | cancellation =>
    simp only [advance] at h
    split at h
    · next hopening =>
      rw [hopening.1]
      rfl
    · cases h
  | answer chunks =>
    simp only [advance] at h
    split at h
    · next hopening =>
      rw [hopening]
      rfl
    · cases h
  | failure e =>
    simp only [advance] at h
    split at h
    · next hopening =>
      rw [hopening]
      rfl
    · cases h

namespace Line

theorem isOpen_enqueue (line : Line) (frame : Bytes) :
    (line.enqueue frame).isOpen = line.isOpen ∧ (line.enqueue frame).writing = line.writing := by
  unfold enqueue
  split <;> exact ⟨rfl, rfl⟩

/-- Only the call that connects starts the task that writes. -/
theorem isOpen_after {line : Line} (h : line.isOpen = false) {deed : Deed}
    (hdeed : deed ≠ .start) (number : Nat) (c : Counters) :
    (line.after number c deed).line.isOpen = false := by
  cases deed with
  | start => exact absurd rfl hdeed
  | greet options =>
    simp only [after]
    split <;> exact h
  | hearAnswer chunks =>
    simp only [after]
    split <;> exact h
  | queueStart agreed clientId capabilities =>
    simp only [after]
    split
    · exact h
    · exact (line.isOpen_enqueue _).1.trans h
  | enqueue frame => exact (line.isOpen_enqueue frame).1.trans h
  | receive =>
    simp only [after]
    split <;> exact h
  | lose reason =>
    simp only [after]
    split <;> exact h
  | stop count => rfl
  | _ => exact h

/-- A task that has stopped writes nothing. -/
theorem writing_after {line : Line} (h : line.isOpen = false → line.writing = none) {deed : Deed}
    (hcan : line.can deed = true) (number : Nat) (c : Counters)
    (hopen : (line.after number c deed).line.isOpen = false) :
    (line.after number c deed).line.writing = none := by
  cases deed with
  | greet options =>
    simp only [after] at hopen ⊢
    split at hopen <;> exact h hopen
  | hearAnswer chunks =>
    simp only [after] at hopen ⊢
    split at hopen <;> exact h hopen
  | start => cases hopen
  | queueStart agreed clientId capabilities =>
    simp only [after] at hopen ⊢
    split at hopen
    · exact h hopen
    · next frame _ =>
      obtain ⟨hsame, hwriting⟩ := line.isOpen_enqueue frame
      rw [hwriting]
      exact h (hsame.symm.trans hopen)
  | enqueue frame =>
    obtain ⟨hsame, hwriting⟩ := line.isOpen_enqueue frame
    exact hwriting.trans (h (hsame.symm.trans hopen))
  | take =>
    have hopen : line.isOpen = false := hopen
    rw [can, hopen] at hcan
    cases hcan
  | finish write => rfl
  | stop count => rfl
  | receive =>
    simp only [after] at hopen ⊢
    split at hopen <;> exact h hopen
  | lose reason =>
    simp only [after] at hopen ⊢
    split at hopen <;> exact h hopen
  | _ => exact h hopen

/-- What the tasks and the requests do adds to what was read. -/
theorem heard_after {deed : Deed} (hown : deed.isOwn = true) (line : Line) (number : Nat)
    (c : Counters) : line.heard <+: (line.after number c deed).line.heard := by
  by_cases hdeaf : deed.isDeaf = true
  · have hsame := (isDeaf_after deed hdeaf line number c).2.1
    exact hsame ▸ List.prefix_rfl
  cases deed with
  | hearAnswer chunks => cases hown
  | fill chunk => exact List.prefix_append _ _
  | receive =>
    simp only [after]
    split <;> exact List.prefix_rfl
  | lose reason =>
    simp only [after]
    split <;> exact List.prefix_rfl
  | _ => exact absurd rfl hdeaf

/-- The task that reads is not there yet, and nothing was taken off the stream. -/
structure IsUnheard (line : Line) : Prop where
  listening : line.isListening = false
  saying : line.saying = []
  ending : ∀ inbox ∈ line.inbox, inbox.ending = none

/-- The server has given an answer that leads to what was agreed on. -/
def HasHeard (line : Line) (agreed : Handshake) : Prop :=
  ∃ answer, Handshake.Accepts answer agreed ∧ answer <+: line.heard

theorem HasHeard.mono {line line' : Line} {agreed : Handshake} (h : line.HasHeard agreed)
    (hheard : line.heard <+: line'.heard) : line'.HasHeard agreed := by
  obtain ⟨answer, haccepts, hprefix⟩ := h
  exact ⟨answer, haccepts, hprefix.trans hheard⟩

theorem isUnheard_enqueue {line : Line} (h : line.IsUnheard) (frame : Bytes) :
    (line.enqueue frame).IsUnheard := by
  unfold enqueue
  split
  · exact h
  · exact ⟨h.listening, h.saying, h.ending⟩

/-- Without the task that reads, no deed takes anything off the stream. -/
theorem IsUnheard.after {line : Line} (h : line.IsUnheard) {deed : Deed}
    (hdeed : ∀ lives, deed ≠ .listen lives) (hcan : line.can deed = true) (number : Nat)
    (c : Counters) : (line.after number c deed).line.IsUnheard := by
  have hreading : line.isReading = false := by rw [isReading, h.listening]; rfl
  cases deed with
  | listen lives => exact absurd rfl (hdeed lives)
  | fill _ | receive | lose _ | hush =>
    rw [can, hreading] at hcan
    cases hcan
  | say =>
    rw [can, h.saying] at hcan
    cases hcan
  | greet options =>
    simp only [Line.after]
    split <;> exact ⟨h.listening, h.saying, h.ending⟩
  | hearAnswer chunks =>
    simp only [Line.after]
    split
    · refine ⟨h.listening, h.saying, ?_⟩
      rintro _ ⟨⟩
      rfl
    · exact ⟨h.listening, h.saying, h.ending⟩
  | queueStart agreed clientId capabilities =>
    simp only [Line.after]
    split
    · exact h
    · exact isUnheard_enqueue h _
  | enqueue frame => exact isUnheard_enqueue h frame
  | _ => exact ⟨h.listening, h.saying, h.ending⟩

end Line

namespace Traffic

theorem Reachable.writing_none {t : Traffic} (h : t.Reachable) (n : Nat)
    (hopen : (t.lines n).isOpen = false) : (t.lines n).writing = none :=
  h.line_induction (P := fun line => line.isOpen = false → line.writing = none) (fun _ => rfl)
    (fun hline hcan _ => Line.writing_after hline hcan _ _) n hopen

/-- While the call that connects goes on, the task that reads is not there. -/
theorem Reachable.unheard {t : Traffic} (h : t.Reachable) {n : Nat} {call : ConnectCall}
    (hcall : t.world.calls n = some call) (hstage : call.stage ≠ .ended) :
    (t.lines n).IsUnheard := by
  have hall := h.stride_induction
    (Q := fun call line _ => (∀ other ∈ call, other.stage ≠ .ended) → line.IsUnheard)
    (fun _ => ⟨rfl, rfl, nofun⟩) ?_ ?_ ?_ n
  · refine hall fun other hother => ?_
    rw [hcall] at hother
    cases hother
    exact hstage
  · intro call stale line entries hline _ _
    exact hline nofun
  · intro call number c c' next met lives line k entries hline hadvance hcan hnext
    have hnext : next ≠ .ended := hnext _ rfl
    have hunheard : line.IsUnheard := by
      apply hline
      intro other hother
      cases hother
      exact ConnectCall.running_of_advance hadvance
    have hturn := ConnectCall.turn_of_advance hadvance lives
    cases hdeed : call.deed? next lives met with
    | none => exact hunheard
    | some deed =>
      refine hunheard.after (fun lives' hlisten => ?_) (hcan deed hdeed) number k
      rw [hdeed, hlisten] at hturn
      cases hturn
      exact hnext rfl
  · intro call number deed line k entries hline hown hcan hrunning
    refine (hline hrunning).after (fun lives hlisten => ?_) hcan number k
    rw [hlisten] at hown
    cases hown

/-- What a call goes by was agreed on with the server. -/
theorem Reachable.hasHeard {t : Traffic} (h : t.Reachable) {n : Nat} {call : ConnectCall}
    (hcall : t.world.calls n = some call) {agreed : Handshake}
    (hagreed : agreed ∈ call.stage.agreed?) : (t.lines n).HasHeard agreed := by
  have hall := h.stride_induction
    (Q := fun call line _ => ∀ other ∈ call, ∀ agreed ∈ other.stage.agreed?, line.HasHeard agreed)
    nofun ?_ ?_ ?_ n
  · exact hall call hcall agreed hagreed
  · rintro call stale line entries - hstage _ ⟨⟩ agreed hm
    rw [hstage] at hm
    cases hm
  · rintro call number c c' next met lives line k entries hline hadvance hcan _ ⟨⟩ agreed hm
    have hturn := ConnectCall.turn_of_advance hadvance lives
    have hcarried (hold : agreed ∈ call.stage.agreed?)
        (hdeaf : ∀ deed ∈ call.deed? next lives met, deed.isDeaf = true) :
        ((call.deed? next lives met).elim line fun deed =>
          (line.after number k deed).line).HasHeard agreed := by
      refine (hline call rfl agreed hold).mono ?_
      cases hdeed : call.deed? next lives met with
      | none => exact List.prefix_rfl
      | some deed =>
        have hsame := (Line.isDeaf_after deed (hdeaf deed hdeed) line number k).2.1
        exact hsame ▸ List.prefix_rfl
    revert hcarried
    revert hturn
    generalize call.deed? next lives met = deed
    intro hturn hcarried
    cases hturn with
    | plain _ _ _ _ hnone _ =>
      rw [hnone] at hm
      cases hm
    | answered hstage hawait =>
      cases hm
      obtain ⟨answer, haccepts, hbuffer⟩ := Handshake.await_eq_ok hawait
      refine ⟨answer, haccepts, ?_⟩
      simp only [Option.elim_some, Line.after, hawait]
      exact ⟨_, hbuffer.symm⟩
    | started hstage =>
      refine hcarried ?_ ?_
      · rw [hstage]
        exact hm
      · rintro _ ⟨⟩
        rfl
    | queued hstage =>
      refine hcarried ?_ ?_
      · rw [hstage]
        exact hm
      · rintro _ ⟨⟩
        rfl
    | _ => cases hm
  · intro call number deed line k entries hline hown _ other hother agreed hm
    exact (hline other hother agreed hm).mono (Line.heard_after hown line number k)

/-- The task that writes does not run before the server has answered. -/
theorem Reachable.unstarted {t : Traffic} (h : t.Reachable) {n : Nat} {call : ConnectCall}
    (hcall : t.world.calls n = some call) (hstage : call.stage.isUnstarted = true) :
    (t.lines n).isOpen = false := by
  have hall := h.stride_induction
    (Q := fun call line _ =>
      (∀ other ∈ call, other.stage.isUnstarted = true) → line.isOpen = false)
    (fun _ => rfl) ?_ ?_ ?_ n
  · refine hall fun other hother => ?_
    rw [hcall] at hother
    cases hother
    exact hstage
  · intro call stale line entries hline _ _
    exact hline nofun
  · intro call number c c' next met lives line k entries hline hadvance hcan hnext
    have hnext : next.isUnstarted = true := hnext _ rfl
    have hbefore := ConnectCall.isUnstarted_of_advance hadvance hnext
    have hopen := hline (by intro other hother; cases hother; exact hbefore)
    cases hdeed : call.deed? next lives met with
    | none => exact hopen
    | some deed =>
      refine Line.isOpen_after hopen (fun hstart => ?_) number k
      have hturn := ConnectCall.turn_of_advance hadvance lives
      rw [hdeed, hstart] at hturn
      cases hturn
      cases hnext
  · intro call number deed line k entries hline hown _ hunstarted
    refine Line.isOpen_after (hline hunstarted) (fun hstart => ?_) number k
    rw [hstart] at hown
    cases hown

end Traffic

end BrokerWire
