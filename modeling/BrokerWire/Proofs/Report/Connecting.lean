import BrokerWire.Proofs.Report.Runner
import BrokerWire.Proofs.Session.Sending

namespace BrokerWire

/-- A step of the call that connects to `next`, with the client behind it, and all that it leaves. -/
structure Advances (t t' : Traffic) (call : ConnectCall) (c : Client) (next : Stage) : Prop where
  calls : t'.world.calls 1 = some { call with stage := next }
  client : t'.world.client = c
  farewells : t'.world.farewells = t.world.farewells
  asked : t'.asked = t.asked
  outside : t'.outside = t.outside
  told : (t'.lines 1).told = (t.lines 1).told

/-- A step of the call that connects: where it goes, and what that does with its session. -/
theorem advance_step {t t' : Traffic} {call : ConnectCall} {met : Encounter}
    (hcall : t.world.calls 1 = some call) (hs : t.step (.call (.advance 1 met)) = some t') :
    ∃ c next lives, call.advance 1 t.world.client met = some (c, next) ∧
      (∀ deed ∈ call.deed? next lives met, (t.lines 1).can deed = true) ∧
      Advances t t' call c next ∧
      t'.lines 1 = (call.deed? next lives met).elim (t.lines 1) fun deed =>
        ((t.lines 1).after 1 t.counters deed).line := by
  obtain ⟨world, hworld, hdeed⟩ := Option.bind_eq_some_iff.mp hs
  simp only [World.step, hcall] at hworld
  obtain ⟨⟨c, next⟩, hadvance, rfl⟩ := Option.map_eq_some_iff.mp hworld
  simp only [World.deed?, hcall, Function.update_self] at hdeed
  refine ⟨c, next, c.holds 1, hadvance, ?_⟩
  have hcalls : Function.update t.world.calls 1 (some { call with stage := next }) 1 =
      some { call with stage := next } := Function.update_self _ _ _
  cases hd : call.deed? next (c.holds 1) met with
  | none =>
    rw [hd] at hdeed
    cases hdeed
    exact ⟨fun other hm => absurd hm (Option.not_mem_none other), ⟨hcalls, rfl, rfl, rfl, rfl, rfl⟩,
      rfl⟩
  | some deed =>
    rw [hd] at hdeed
    obtain ⟨hcan, rfl⟩ := Traffic.act_eq_some hdeed
    refine ⟨?_, ⟨hcalls, rfl, rfl, rfl, rfl, ?_⟩, ?_⟩
    · intro other hother
      cases hother
      exact hcan
    · dsimp only
      rw [Function.update_self, Line.told_after, ConnectCall.tells_deed? hd, List.append_nil]
    · dsimp only
      rw [Function.update_self, Option.elim_some]

/-- Whether a call that connects is under way: it neither replaces an older session nor is about to
tell how it ended. -/
def Stage.isMidway : Stage → Bool
  | .replacing (some _) => false
  | .failing _ => false
  | .acknowledged => false
  | .ended => false
  | _ => true

/-- What holds where a call that connects stands, when there is no older session to replace. -/
def Stage.Holds (t : Traffic) (clientId : Int32) : Stage → Prop
  | .replacing (some _) => False
  | .failing _ => (t.lines 1).isOpen = false
  | .acknowledged => ∃ agreed, (t.lines 1).HasHeard agreed ∧
    t.world.client.session = some ⟨1, agreed.serverVersion, agreed.connectionTime, clientId⟩
  | .ended => False
  | _ => True

/-- How far a call that connects comes with its session when nobody interrupts it. -/
def Stage.IsUndisturbed (line : Line) : Stage → Prop
  | .queueing _ => line.isOpen = true
  | .withdrawing _ => False
  | .joining _ => False
  | .failing _ => line.queued = []
  | _ => True

/-- A run while its call that connects goes on. -/
structure Connects (t : Traffic) (call : ConnectCall) : Prop where
  calls : t.world.calls 1 = some call
  attempt : t.world.client.attempt = 1
  farewells : t.world.farewells = []
  asked : t.asked = []
  outside : t.outside = []
  callers : ∀ entry ∈ (t.lines 1).told, entry.1 ≠ .caller
  holds : call.stage.Holds t call.clientId
  undisturbed : t.world.client.shutDown = false →
    t.world.client.cancelled = [] ∧ call.stage.IsUndisturbed (t.lines 1)

/-- A run whose call that connects has failed and is about to tell why. -/
structure Fails (t : Traffic) (e : ApiError) : Prop where
  idle : (t.lines 1).isIdle = true
  due : (t.lines 1).due = some (e.notice ClientError.noRequest)
  outside : t.outside = []
  writers : ∀ entry ∈ (t.lines 1).told, entry.1 = .writer
  undisturbed : t.world.client.shutDown = false → (t.lines 1).told = []

namespace Connects

variable {t t' : Traffic} {call : ConnectCall}

theorem running (h : Connects t call) : call.stage ≠ .ended := by
  intro hended
  have hholds := h.holds
  rw [hended] at hholds
  exact hholds

/-- A deed that neither starts nor stops the task that writes, and puts nothing into the queue,
leaves a run that connects as it is. -/
theorem act (h : Connects t call) {deed : Deed} (hact : t.act 1 deed = some t')
    (hown : deed.isOwn = true) (htells : ∀ entry ∈ deed.tells (t.lines 1) t.counters,
      entry.1 ≠ .caller)
    (hqueued : ((t.lines 1).after 1 t.counters deed).line.queued = (t.lines 1).queued)
    (hopen : t.world.client.shutDown = false → (t.lines 1).isOpen = true →
      ((t.lines 1).after 1 t.counters deed).line.isOpen = true) : Connects t' call := by
  obtain ⟨-, rfl⟩ := Traffic.act_eq_some hact
  have hclosed : (t.lines 1).isOpen = false →
      ((t.lines 1).after 1 t.counters deed).line.isOpen = false := by
    intro hno
    refine Line.isOpen_after hno (fun hstart => ?_) 1 t.counters
    rw [hstart] at hown
    cases hown
  refine ⟨h.calls, h.attempt, h.farewells, h.asked, h.outside, ?_, ?_, ?_⟩
  · dsimp only
    rw [Function.update_self, Line.told_after]
    intro entry hm
    obtain hm | hm := List.mem_append.mp hm
    · exact h.callers entry hm
    · exact htells entry hm
  · have hholds := h.holds
    revert hholds
    cases call.stage with
    | failing e =>
      simp only [Stage.Holds, Function.update_self]
      exact hclosed
    | acknowledged =>
      intro hholds
      obtain ⟨agreed, hheard, hsession⟩ := hholds
      refine ⟨agreed, ?_, hsession⟩
      dsimp only
      rw [Function.update_self]
      exact hheard.mono (Line.heard_after hown _ 1 _)
    | replacing stale => cases stale <;> exact id
    | _ => exact id
  · intro hdown
    obtain ⟨hcancelled, hstage⟩ := h.undisturbed hdown
    refine ⟨hcancelled, ?_⟩
    dsimp only
    rw [Function.update_self]
    revert hstage
    cases call.stage with
    | queueing agreed => exact hopen hdown
    | failing e => exact fun hnil => hqueued.trans hnil
    | _ => exact id

theorem isCancelled_eq (h : Connects t call) (hdown : t.world.client.shutDown = false) :
    t.world.client.isCancelled 1 = false := by
  rw [Client.isCancelled, hdown, (h.undisturbed hdown).1]
  rfl

/-- While the call that connects goes on, only the task that writes does something. -/
theorem task (hreachable : t.Reachable) (h : Connects t call) {deed : Deed}
    (htask : deed.isTask = true) (hpermits : t.permits 1 deed = true)
    (hact : t.act 1 deed = some t') : Connects t' call := by
  have hunheard := hreachable.unheard h.calls h.running
  have hreading : (t.lines 1).isReading = false := by
    rw [Line.isReading, hunheard.listening]
    rfl
  have hcan := (Traffic.act_eq_some hact).1
  cases deed with
  | fill _ | receive | lose _ | hush =>
    rw [Line.can, hreading] at hcan
    cases hcan
  | say =>
    rw [Line.can, hunheard.saying] at hcan
    cases hcan
  | take => exact h.act hact rfl (fun entry hm => absurd hm List.not_mem_nil) rfl fun _ => id
  | finish write =>
    refine h.act hact rfl ?_ rfl fun _ => id
    intro entry hm
    obtain ⟨notice, -, rfl⟩ := List.mem_map.mp hm
    intro he
    cases he
  | stop count =>
    refine h.act hact rfl (fun entry hm => absurd hm List.not_mem_nil) rfl fun hdown _ => ?_
    have hcancelled : t.world.client.isCancelled 1 = true := hpermits
    rw [h.isCancelled_eq hdown] at hcancelled
    cases hcancelled
  | _ => cases htask

theorem interrupt (h : Connects t call) :
    Connects { t with world := { t.world with client := t.world.client.shutdown } } call := by
  refine ⟨h.calls, h.attempt, h.farewells, h.asked, h.outside, h.callers, ?_, fun hdown => ?_⟩
  · have hholds := h.holds
    revert hholds
    cases call.stage with
    | replacing stale => cases stale <;> exact id
    | _ => exact id
  · cases hdown

theorem moves {c : Client} {next : Stage} (h : Connects t call) (ha : Advances t t' call c next)
    (hattempt : c.attempt = 1) (hholds : next.Holds t' call.clientId)
    (hundisturbed : c.shutDown = false → c.cancelled = [] ∧ next.IsUndisturbed (t'.lines 1)) :
    Connects t' { call with stage := next } := by
  obtain ⟨hcalls, rfl, hfarewells, hasked, houtside, htold⟩ := ha
  refine ⟨hcalls, hattempt, hfarewells.trans h.farewells, hasked.trans h.asked,
    houtside.trans h.outside, ?_, hholds, hundisturbed⟩
  rw [htold]
  exact h.callers

/-- A call that is about to fail has told nothing, nor has any task but the one that writes. -/
theorem writers_of_failing (hreachable : t.Reachable) (h : Connects t call)
    (hdone : call.stage.isDone = false) : ∀ entry ∈ (t.lines 1).told, entry.1 = .writer := by
  have hopener := (hreachable.sound.follows h.calls).opener_nil hdone
  have hnone : (t.lines 1).toldBy .opener = [] := (List.append_eq_nil_iff.mp hopener).1
  have htold (notice : Notice) : (.opener, notice) ∉ (t.lines 1).told := by
    intro hm
    have hmem := Line.mem_toldBy.mpr hm
    rw [hnone] at hmem
    cases hmem
  intro entry hm
  obtain ⟨before, behind, hsplit⟩ := List.append_of_mem hm
  have hfits := (hreachable.tells 1).fits before entry behind hsplit
  cases hfits with
  | acknowledged _ => exact absurd hm (htold _)
  | failed e _ => exact absurd hm (htold _)
  | unwritten reason => rfl
  | refused _ => exact absurd rfl (h.callers _ hm)
  | received hopen _ =>
    refine absurd ?_ (htold .connectAck)
    rw [hsplit]
    exact List.mem_append_left _ hopen

theorem told_nil_of_queued (hreachable : t.Reachable) (hqueued : (t.lines 1).queued = [])
    (hwriters : ∀ entry ∈ (t.lines 1).told, entry.1 = .writer) : (t.lines 1).told = [] := by
  have hsends := hreachable.sends 1
  have hconserved := (hsends.conserved (.inr hqueued)).1
  rw [hqueued] at hconserved
  have htried : (t.lines 1).tried = [] :=
    List.map_eq_nil_iff.mp (List.append_eq_nil_iff.mp hconserved.symm).1
  have hfailures : (t.lines 1).toldBy .writer = [] := by
    rw [hsends.failed, Line.failures, htried]
    rfl
  refine List.eq_nil_iff_forall_not_mem.mpr fun entry hm => ?_
  obtain ⟨teller, notice⟩ := entry
  obtain rfl : teller = .writer := hwriters _ hm
  have hmem := Line.mem_toldBy.mpr hm
  rw [hfailures] at hmem
  cases hmem

theorem fails (hreachable : t.Reachable) {e : ApiError} (h : Connects t call)
    (hstage : call.stage = .failing e) (houtside : t'.outside = t.outside)
    (hdown : t'.world.client.shutDown = t.world.client.shutDown)
    (hline : t'.lines 1 = { t.lines 1 with due := some (e.notice ClientError.noRequest) }) :
    Fails t' e := by
  have hunheard := hreachable.unheard h.calls h.running
  have hopen : (t.lines 1).isOpen = false := by
    have hholds := h.holds
    rw [hstage] at hholds
    exact hholds
  have hwriters := h.writers_of_failing hreachable (by rw [hstage]; rfl)
  refine ⟨?_, ?_, houtside.trans h.outside, ?_, ?_⟩
  · rw [hline]
    simp [Line.isIdle, Line.isHushed, Line.isReading, hopen, hreachable.writing_none 1 hopen,
      hunheard.listening, hunheard.saying]
  · rw [hline]
  · rw [hline]
    exact hwriters
  · intro hquiet
    rw [hdown] at hquiet
    have hundisturbed := (h.undisturbed hquiet).2
    rw [hstage] at hundisturbed
    rw [hline]
    exact told_nil_of_queued hreachable hundisturbed hwriters

end Connects

/-- A run whose session was opened, before the run gives it up. -/
structure Opened (t : Traffic) (agreed : Handshake) : Prop where
  heard : (t.lines 1).HasHeard agreed
  session : ∃ clientId, t.world.client.session =
    some ⟨1, agreed.serverVersion, agreed.connectionTime, clientId⟩
  farewells : t.world.farewells = []

/-- Where a step of the call that connects leads a run. -/
inductive Leads (t' : Traffic) : Stage → Prop
  | connects {stage : Stage} {call : ConnectCall} (h : Connects t' call)
    (hmidway : stage.isMidway = true) : Leads t' stage
  | fails {e : ApiError} (h : Fails t' e) : Leads t' (.failing e)
  | opens {agreed : Handshake} (h : Opened t' agreed) (hasked : t'.asked = []) :
    Leads t' .acknowledged

namespace Connects

variable {t t' : Traffic} {call : ConnectCall}

/-- As long as the task that writes has not started, the call may fail at any time. -/
theorem leads_failing (hreachable : t.Reachable) (h : Connects t call) {e : ApiError}
    (ha : Advances t t' call t.world.client (.failing e)) (hstage : call.stage.isUnstarted = true)
    (hmidway : call.stage.isMidway = true) (hopen : (t'.lines 1).isOpen = (t.lines 1).isOpen)
    (hqueued : (t'.lines 1).queued = (t.lines 1).queued) : Leads t' call.stage := by
  have hclosed := hreachable.unstarted h.calls hstage
  have hearly : call.stage.isEarly = true := by
    revert hstage
    cases call.stage with
    | replacing _ | settling | opening | opened _ => exact fun _ => rfl
    | _ =>
      intro hstage
      cases hstage
  have hnothing := (hreachable.sound.follows h.calls).queued_nil hearly
  exact .connects (h.moves ha h.attempt (hopen.trans hclosed)
    fun hdown => ⟨(h.undisturbed hdown).1, hqueued.trans hnothing⟩) hmidway

/-- The session is installed, unless the call was interrupted. -/
theorem leads_installing (hreachable : t.Reachable) {clientId : Int32}
    {capabilities : Option String} {agreed : Handshake}
    (h : Connects t ⟨clientId, capabilities, .installing agreed⟩) {c : Client} {next : Stage}
    (hadvance : ConnectCall.advance ⟨clientId, capabilities, .installing agreed⟩ 1
      t.world.client .nothing = some (c, next))
    (ha : Advances t t' ⟨clientId, capabilities, .installing agreed⟩ c next)
    (hheard : (t.lines 1).heard <+: (t'.lines 1).heard) : Leads t' (.installing agreed) := by
  simp only [ConnectCall.advance] at hadvance
  split at hadvance
  · next installed hinstall =>
    cases hadvance
    obtain ⟨-, -, rfl⟩ := Client.install?_eq_some hinstall
    have hagreed : agreed ∈ (Stage.installing agreed).agreed? := rfl
    have hholds := (hreachable.hasHeard h.calls hagreed).mono hheard
    have hsession : t'.world.client.session =
        some ⟨1, agreed.serverVersion, agreed.connectionTime, clientId⟩ := by rw [ha.client]
    exact .connects (h.moves ha h.attempt ⟨agreed, hholds, hsession⟩
      fun hdown => ⟨(h.undisturbed hdown).1, trivial⟩) rfl
  · next hinstall =>
    cases hadvance
    -- Only an interruption keeps the session from being installed.
    refine .connects (h.moves ha h.attempt trivial fun hdown => ?_) rfl
    rw [Client.install?, if_pos ⟨h.attempt, by rw [h.isCancelled_eq hdown]; rfl⟩] at hinstall
    cases hinstall

theorem leads_nothing (hreachable : t.Reachable) (h : Connects t call)
    (hjoined : ∀ e, call.stage = .joining e → (t.lines 1).isOpen = false) {c : Client}
    {next : Stage} {lives : Bool}
    (hadvance : call.advance 1 t.world.client .nothing = some (c, next))
    (ha : Advances t t' call c next)
    (hline : t'.lines 1 = (call.deed? next lives .nothing).elim (t.lines 1) fun deed =>
      ((t.lines 1).after 1 t.counters deed).line) : Leads t' call.stage := by
  obtain ⟨clientId, capabilities, stage⟩ := call
  cases stage with
  | replacing stale =>
    cases stale with
    | some stale => exact absurd h.holds id
    | none =>
      cases hadvance
      exact .connects (h.moves ha h.attempt trivial
        fun hdown => ⟨(h.undisturbed hdown).1, trivial⟩) rfl
  | settling =>
    cases hadvance
    exact .connects (h.moves ha h.attempt trivial
      fun hdown => ⟨(h.undisturbed hdown).1, trivial⟩) rfl
  | opening => cases hadvance
  | opened agreed =>
    simp only [ConnectCall.advance] at hadvance
    split at hadvance
    · cases hadvance
      exact h.leads_failing hreachable ha rfl rfl (by rw [hline]; rfl) (by rw [hline]; rfl)
    split at hadvance
    · cases hadvance
      exact h.leads_failing hreachable ha rfl rfl (by rw [hline]; rfl) (by rw [hline]; rfl)
    · cases hadvance
      have hopen : (t'.lines 1).isOpen = true := by
        rw [hline]
        rfl
      exact .connects (h.moves ha h.attempt trivial
        fun hdown => ⟨(h.undisturbed hdown).1, hopen⟩) rfl
  | queueing agreed =>
    cases hadvance
    exact .connects (h.moves ha h.attempt trivial
      fun hdown => ⟨(h.undisturbed hdown).1, trivial⟩) rfl
  | installing agreed =>
    refine h.leads_installing hreachable hadvance ha ?_
    rw [hline]
    cases next <;> exact List.prefix_rfl
  | withdrawing e =>
    cases hadvance
    exact .connects (h.moves ha h.attempt trivial
      fun hdown => absurd (h.undisturbed hdown).2 id) rfl
  | joining e =>
    cases hadvance
    have hopen : (t'.lines 1).isOpen = false := by
      rw [hline]
      exact hjoined e rfl
    exact .connects (h.moves ha h.attempt hopen
      fun hdown => absurd (h.undisturbed hdown).2 id) rfl
  | failing e =>
    cases hadvance
    refine .fails (h.fails hreachable rfl ha.outside ?_ hline)
    rw [ha.client, Client.fail]
    split <;> rfl
  | acknowledged =>
    cases hadvance
    obtain ⟨agreed, hheard, hsession⟩ := h.holds
    have hopened : Opened t' agreed := by
      refine ⟨?_, ⟨clientId, ?_⟩, ha.farewells.trans h.farewells⟩
      · rw [hline]
        exact hheard
      · rw [ha.client]
        exact hsession
    exact .opens hopened (ha.asked.trans h.asked)
  | ended => cases hadvance

theorem leads_encounter (hreachable : t.Reachable) (h : Connects t call) {met : Encounter}
    (hmet : met ≠ .nothing) {c : Client} {next : Stage} {lives : Bool}
    (hadvance : call.advance 1 t.world.client met = some (c, next))
    (hcan : ∀ deed ∈ call.deed? next lives met, (t.lines 1).can deed = true)
    (ha : Advances t t' call c next)
    (hline : t'.lines 1 = (call.deed? next lives met).elim (t.lines 1) fun deed =>
      ((t.lines 1).after 1 t.counters deed).line) : Leads t' call.stage := by
  obtain ⟨clientId, capabilities, stage⟩ := call
  cases met with
  | nothing => exact absurd rfl hmet
  | cancellation =>
    simp only [ConnectCall.advance] at hadvance
    split at hadvance
    · next hopening =>
      obtain ⟨rfl, -⟩ := hopening
      cases hadvance
      exact h.leads_failing hreachable ha rfl rfl (by rw [hline]; rfl) (by rw [hline]; rfl)
    · cases hadvance
  | answer chunks =>
    simp only [ConnectCall.advance] at hadvance
    split at hadvance
    · next hopening =>
      subst hopening
      have hkept : (t'.lines 1).isOpen = (t.lines 1).isOpen ∧
          (t'.lines 1).queued = (t.lines 1).queued := by
        rw [hline]
        simp only [ConnectCall.deed?, Option.elim_some, Line.after]
        split <;> exact ⟨rfl, rfl⟩
      split at hadvance
      · cases hadvance
        exact .connects (h.moves ha h.attempt trivial
          fun hdown => ⟨(h.undisturbed hdown).1, trivial⟩) rfl
      · cases hadvance
        exact h.leads_failing hreachable ha rfl rfl hkept.1 hkept.2
      · cases hadvance
    · cases hadvance
  | failure e =>
    simp only [ConnectCall.advance] at hadvance
    split at hadvance
    · next hopening =>
      subst hopening
      cases hadvance
      exact h.leads_failing hreachable ha rfl rfl (by rw [hline]; rfl) (by rw [hline]; rfl)
    · cases hadvance
  | stoppedWriter =>
    cases stage with
    | queueing agreed =>
      cases hadvance
      have hstopped := hcan .findClosed rfl
      refine .connects (h.moves ha h.attempt trivial fun hdown => ?_) rfl
      have hopen : (t.lines 1).isOpen = true := (h.undisturbed hdown).2
      rw [Line.can, hopen] at hstopped
      cases hstopped
    | _ => cases hadvance

/-- A step of the call leaves it running, fails it or opens its session, and tells nothing. -/
theorem advance (hreachable : t.Reachable) (h : Connects t call) {met : Encounter}
    (hjoined : ∀ e, call.stage = .joining e → (t.lines 1).isOpen = false)
    (hs : t.step (.call (.advance 1 met)) = some t') :
    Leads t' call.stage ∧ t.news t' = [] := by
  obtain ⟨c, next, lives, hadvance, hcan, ha, hline⟩ := advance_step h.calls hs
  refine ⟨?_, Traffic.news_of_told ha.told ha.outside⟩
  by_cases hmet : met = .nothing
  · subst hmet
    exact h.leads_nothing hreachable hjoined hadvance ha hline
  · exact h.leads_encounter hreachable hmet hadvance hcan ha hline

end Connects

end BrokerWire
