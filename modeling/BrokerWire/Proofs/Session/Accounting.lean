import BrokerWire.Proofs.Session.Delivery
import BrokerWire.Proofs.Session.Opening

namespace BrokerWire

/-- Whether an entry is about a session. -/
def Entry.isOf (number : Nat) : Entry → Bool
  | .sent session _ => session = number
  | .received session _ => session = number
  | .reset => false

/-- The size of a frame that was received, if that is what an entry is about. -/
def Entry.received? : Entry → Option Nat
  | .sent _ _ => none
  | .received _ size => some size
  | .reset => none

/-- Whether a deed is one of a task or of a request, and not of the call that connects. -/
def Deed.isOwn : Deed → Bool
  | .hearAnswer _ => false
  | .start => false
  | .queueStart _ _ _ => false
  | .findClosed => false
  | .owe _ => false
  | .listen _ => false
  | .findSpent => false
  | _ => true

/-- Whether a deed leaves what a session reads. -/
def Deed.isDeaf : Deed → Bool
  | .hearAnswer _ => false
  | .fill _ => false
  | .receive => false
  | .lose _ => false
  | _ => true

/-- Whether the server's answer is still to come. -/
def Stage.isWaiting : Stage → Bool
  | .replacing _ => true
  | .settling => true
  | .opening => true
  | _ => false

namespace ConnectCall

theorem isWaiting_of_advance {call : ConnectCall} {number : Nat} {c c' : Client} {met : Encounter}
    {next : Stage} (h : call.advance number c met = some (c', next))
    (hnext : next.isWaiting = true) (lives : Bool) :
    call.stage.isWaiting = true ∧ call.deed? next lives met = none := by
  obtain ⟨clientId, capabilities, stage⟩ := call
  cases met with
  | nothing =>
    cases stage with
    | replacing stale =>
      cases stale <;> cases h <;> exact ⟨rfl, rfl⟩
    | settling =>
      cases h
      exact ⟨rfl, rfl⟩
    | opening => cases h
    | opened agreed =>
      simp only [advance] at h
      split at h
      · cases h
        cases hnext
      split at h <;> cases h <;> cases hnext
    | installing agreed =>
      simp only [advance] at h
      split at h <;> cases h <;> cases hnext
    | ended => cases h
    | _ =>
      cases h
      cases hnext
  | cancellation =>
    simp only [advance] at h
    split at h <;> cases h
    cases hnext
  | answer chunks =>
    simp only [advance] at h
    split at h
    · split at h <;> cases h <;> cases hnext
    · cases h
  | failure e =>
    simp only [advance] at h
    split at h <;> cases h
    cases hnext
  | stoppedWriter =>
    cases stage with
    | queueing agreed =>
      cases h
      cases hnext
    | _ => cases h

/-- The call that connects enters nothing itself. -/
theorem entries_of_deed? {call : ConnectCall} {next : Stage} {lives : Bool} {met : Encounter}
    {deed : Deed} (h : call.deed? next lives met = some deed) (line : Line) (number : Nat)
    (c : Counters) : (line.after number c deed).entries = [] := by
  unfold deed? at h
  split at h
  · cases h
    simp only [Line.after]
    split <;> rfl
  · cases h
    rfl
  · split at h
    · cases h
      rfl
    · cases h
      simp only [Line.after]
      split <;> rfl
    · cases h
      rfl
    · cases h
      rfl
    · cases h
      rfl
    · cases h
  · cases h

end ConnectCall

namespace Traffic

/-- What was entered for a session, in order. -/
def entriesOf (t : Traffic) (number : Nat) : List Entry :=
  t.ledger.filter (Entry.isOf number)

/-- How a step looks from one session: nothing happens to it, the call that is to open it begins or
goes on, or one of its tasks or a request does a deed. -/
inductive Stride (t t' : Traffic) (n : Nat) : Prop
  | rests (hcall : t'.world.calls n = t.world.calls n) (hline : t'.lines n = t.lines n)
    (hentries : t'.entriesOf n = t.entriesOf n)
  | begins {call : ConnectCall} {stale : Option Nat} (hnone : t.world.calls n = none)
    (hcall : t'.world.calls n = some call) (hstage : call.stage = .replacing stale)
    (hline : t'.lines n = t.lines n) (hentries : t'.entriesOf n = t.entriesOf n)
  | turns (lives : Bool) {call : ConnectCall} {next : Stage} {met : Encounter}
    (hbefore : t.world.calls n = some call)
    (hadvance : call.advance n t.world.client met = some (t'.world.client, next))
    (hcan : ∀ deed ∈ call.deed? next lives met, (t.lines n).can deed = true)
    (hcall : t'.world.calls n = some { call with stage := next })
    (hline : t'.lines n = (call.deed? next lives met).elim (t.lines n) fun deed =>
      ((t.lines n).after n t.counters deed).line)
    (hentries : t'.entriesOf n = t.entriesOf n)
  | acts {call : ConnectCall} {deed : Deed} (hbefore : t.world.calls n = some call)
    (hown : deed.isOwn = true) (hcan : (t.lines n).can deed = true)
    (hcall : t'.world.calls n = some call)
    (hline : t'.lines n = ((t.lines n).after n t.counters deed).line)
    (hentries : t'.entriesOf n =
      t.entriesOf n ++ ((t.lines n).after n t.counters deed).entries)

theorem isOwn_of_permits {t : Traffic} {number : Nat} {deed : Deed}
    (h : t.permits number deed = true) : deed.isOwn = true := by
  cases deed <;> first | rfl | cases h

theorem entriesOf_append {t t' : Traffic} {entries : List Entry}
    (h : t'.ledger = t.ledger ++ entries) (n : Nat) :
    t'.entriesOf n = t.entriesOf n ++ entries.filter (Entry.isOf n) := by
  rw [entriesOf, h, List.filter_append, entriesOf]

/-- A deed of one session enters things for that session only. -/
theorem filter_entries (line : Line) (number : Nat) (c : Counters) (deed : Deed) (n : Nat) :
    (line.after number c deed).entries.filter (Entry.isOf n) =
      if n = number then (line.after number c deed).entries else [] := by
  have hentries := line.entries_after number c deed
  split
  · next hn =>
    refine List.filter_eq_self.mpr fun entry hm => ?_
    obtain ⟨octets, rfl⟩ | ⟨size, rfl⟩ := hentries entry hm
    · exact decide_eq_true hn.symm
    · exact decide_eq_true hn.symm
  · next hn =>
    refine List.filter_eq_nil_iff.mpr fun entry hm => ?_
    have hother : ¬ number = n := fun he => hn he.symm
    obtain ⟨octets, rfl⟩ | ⟨size, rfl⟩ := hentries entry hm
    · simpa [Entry.isOf] using hother
    · simpa [Entry.isOf] using hother

theorem entriesOf_act {t t' : Traffic} {number : Nat} {deed : Deed}
    (h : t.act number deed = some t') (n : Nat) :
    t'.entriesOf n = t.entriesOf n ++
      if n = number then ((t.lines number).after number t.counters deed).entries else [] := by
  obtain ⟨-, rfl⟩ := act_eq_some h
  rw [← filter_entries]
  exact entriesOf_append rfl n

/-- A deed that a task or a request does with some session, as seen from each session. -/
theorem stride_act {t t' : Traffic} {number : Nat} {deed : Deed} {call : ConnectCall}
    (hcall : t.world.calls number = some call) (hown : deed.isOwn = true)
    (hact : t.act number deed = some t') (n : Nat) : Stride t t' n := by
  have hentries := entriesOf_act hact n
  obtain ⟨hcan, rfl⟩ := act_eq_some hact
  by_cases hn : n = number
  · subst hn
    rw [if_pos rfl] at hentries
    exact .acts hcall hown hcan hcall (Function.update_self _ _ _) hentries
  · rw [if_neg hn, List.append_nil] at hentries
    exact .rests rfl (Function.update_of_ne hn _ _) hentries

theorem stride_call {t t' : Traffic} (h : t.Sound) {action : Action} {world : World}
    (hworld : t.world.step action = some world)
    (hdeed : t.world.deed? world action = none ∧ t' = { t with world := world } ∨
      ∃ number deed, t.world.deed? world action = some (number, deed) ∧
        { t with world := world }.act number deed = some t') (n : Nat) : Stride t t' n := by
  -- All actions but two leave the calls as they are and come with no deed.
  have hquiet (hcalls : world.calls = t.world.calls)
      (hnone : t.world.deed? world action = none) : Stride t t' n := by
    obtain ⟨-, rfl⟩ | ⟨number, deed, hsome, -⟩ := hdeed
    · exact .rests (congrFun hcalls n) rfl rfl
    · rw [hnone] at hsome
      cases hsome
  cases action with
  | connect clientId =>
    simp only [World.step] at hworld
    split at hworld
    · cases hworld
      exact hquiet rfl rfl
    · next started hstart =>
      obtain ⟨-, rfl⟩ := Client.start?_eq_some hstart
      cases hworld
      obtain ⟨-, rfl⟩ | ⟨number, deed, hsome, -⟩ := hdeed
      · by_cases hn : n = t.world.client.attempt + 1
        · subst hn
          have hfresh : t.world.calls (t.world.client.attempt + 1) = none :=
            Option.eq_none_iff_forall_not_mem.mpr fun other hother =>
              Nat.not_succ_le_self _ (h.coherent.number_le _ other hother)
          exact .begins hfresh (Function.update_self _ _ _) rfl rfl rfl
        · exact .rests (Function.update_of_ne hn _ _) rfl rfl
      · cases hsome
  | advance number met =>
    simp only [World.step] at hworld
    split at hworld
    · cases hworld
    next call hcall =>
    obtain ⟨⟨c', next⟩, hadvance, rfl⟩ := Option.map_eq_some_iff.mp hworld
    simp only [World.deed?, hcall, Function.update_self] at hdeed
    have hothers {n : Nat} (hn : n ≠ number) :
        Function.update t.world.calls number (some { call with stage := next }) n =
          t.world.calls n := Function.update_of_ne hn _ _
    obtain ⟨hnone, rfl⟩ | ⟨other, deed, hsome, hact⟩ := hdeed
    · rw [Option.map_eq_none_iff] at hnone
      by_cases hn : n = number
      · subst hn
        refine .turns (c'.holds n) hcall hadvance ?_ (Function.update_self _ _ _) ?_ rfl
        · rw [hnone]
          exact fun _ hm => absurd hm (Option.not_mem_none _)
        · rw [hnone]
          rfl
      · exact .rests (hothers hn) rfl rfl
    · obtain ⟨_, hdeed, he⟩ := Option.map_eq_some_iff.mp hsome
      cases he
      have hentries : t'.entriesOf n = t.entriesOf n := by
        rw [entriesOf_act hact n, ConnectCall.entries_of_deed? hdeed, ite_self]
        exact List.append_nil _
      obtain ⟨hcan, rfl⟩ := act_eq_some hact
      by_cases hn : n = number
      · subst hn
        refine .turns (c'.holds n) hcall hadvance ?_ (Function.update_self _ _ _) ?_
          hentries
        · rw [hdeed]
          rintro _ ⟨⟩
          exact hcan
        · rw [hdeed]
          exact Function.update_self _ _ _
      · exact .rests (hothers hn) (Function.update_of_ne hn _ _) hentries
  | sessionEnds number =>
    simp only [World.step] at hworld
    split at hworld <;> cases hworld
    obtain ⟨hnone, -⟩ | ⟨other, deed, hsome, hact⟩ := hdeed
    · cases hnone
    · cases hsome
      rw [act_findSpent hact]
      exact .rests rfl rfl rfl
  | disconnect =>
    cases hworld
    exact hquiet rfl rfl
  | farewell index =>
    simp only [World.step, World.sayFarewell] at hworld
    split at hworld <;> cases hworld <;> exact hquiet rfl rfl
  | shutdown =>
    cases hworld
    exact hquiet rfl rfl
  | setCapabilities text =>
    cases hworld
    exact hquiet rfl rfl

/-- Every step is one of these strides for each session. -/
theorem stride_step {t t' : Traffic} {move : Move} (h : t.Sound) (hs : t.step move = some t')
    (n : Nat) : Stride t t' n := by
  obtain ⟨action, world, hworld, hdeed⟩ | ⟨asked, outside, rfl, -⟩ |
    ⟨asking, hasking, s, asked, deed, hlive, -, hdeed, hact⟩ | ⟨number, deed, hpermits, hact⟩ |
    ⟨-, rfl⟩ := step_cases hs
  · exact stride_call h hworld hdeed n
  · exact .rests rfl rfl rfl
  · obtain ⟨call, hcall⟩ : ∃ call, t.world.calls s.attempt = some call := by
      refine Option.ne_none_iff_exists'.mp fun hnone => h.seen asking hasking s hlive ?_
      rw [h.fresh _ hnone]
    have hown : deed.isOwn = true := by
      obtain ⟨notice, rfl, -⟩ | ⟨frame, rfl, -⟩ := hdeed <;> rfl
    have hstride := stride_act (t := { t with asked := asked }) hcall hown hact n
    cases hstride with
    | rests hcall hline hentries => exact .rests hcall hline hentries
    | begins hnone hcall hstage hline hentries => exact .begins hnone hcall hstage hline hentries
    | turns lives hbefore hadvance hcan hcall hline hentries =>
      exact .turns lives hbefore hadvance hcan hcall hline hentries
    | acts hbefore hown hcan hcall hline hentries =>
      exact .acts hbefore hown hcan hcall hline hentries
  · obtain ⟨call, hcall⟩ := calls_of_permits h hpermits (act_eq_some hact).1
    exact stride_act hcall (isOwn_of_permits hpermits) hact n
  · refine .rests rfl rfl ?_
    rw [entriesOf_append (t := t) rfl n]
    exact List.append_nil _

/-- What no stride takes from a session holds of every session, whatever goes on. -/
theorem Reachable.stride_induction {Q : Option ConnectCall → Line → List Entry → Prop}
    (hfresh : Q none {} [])
    (hbegin : ∀ {call : ConnectCall} {stale : Option Nat} {line : Line} {entries : List Entry},
      Q none line entries → call.stage = .replacing stale → Q (some call) line entries)
    (hturn : ∀ {call : ConnectCall} {number : Nat} {c c' : Client} {next : Stage}
      {met : Encounter} {lives : Bool} {line : Line} {k : Counters} {entries : List Entry},
      Q (some call) line entries → call.advance number c met = some (c', next) →
      (∀ deed ∈ call.deed? next lives met, line.can deed = true) →
      Q (some { call with stage := next })
        ((call.deed? next lives met).elim line fun deed => (line.after number k deed).line) entries)
    (hact : ∀ {call : ConnectCall} {number : Nat} {deed : Deed} {line : Line} {k : Counters}
      {entries : List Entry}, Q (some call) line entries → deed.isOwn = true →
      line.can deed = true →
      Q (some call) (line.after number k deed).line
        (entries ++ (line.after number k deed).entries))
    {t : Traffic} (h : t.Reachable) (n : Nat) :
    Q (t.world.calls n) (t.lines n) (t.entriesOf n) := by
  obtain ⟨moves, hr⟩ := h
  have hall : t.Sound ∧ Q (t.world.calls n) (t.lines n) (t.entriesOf n) := by
    refine run_induction
      (P := fun t => t.Sound ∧ Q (t.world.calls n) (t.lines n) (t.entriesOf n)) ?_
      ⟨sound_initial, hfresh⟩ hr
    intro v v' move hv hs
    obtain ⟨hsound, hQ⟩ := hv
    refine ⟨sound_step hsound hs, ?_⟩
    cases stride_step hsound hs n with
    | rests hcall hline hentries =>
      rw [hcall, hline, hentries]
      exact hQ
    | begins hnone hcall hstage hline hentries =>
      rw [hnone] at hQ
      rw [hcall, hline, hentries]
      exact hbegin hQ hstage
    | turns lives hbefore hadvance hcan hcall hline hentries =>
      rw [hbefore] at hQ
      rw [hcall, hline, hentries]
      exact hturn hQ hadvance hcan
    | acts hbefore hown hcan hcall hline hentries =>
      rw [hbefore] at hQ
      rw [hcall, hline, hentries]
      exact hact hQ hown hcan
  exact hall.2

end Traffic

/-- What is taken off the stream is a whole frame with the size that is told of it, or nothing. -/
theorem Inbox.takeFrame?_conserves {i next : Inbox} {notices : List Notice} {sizes : List Nat}
    (h : i.takeFrame? = some (notices, sizes, next)) :
    next.version = i.version ∧
      ∃ payloads : List Bytes,
        i.scanner.buffer = payloads.flatMap Frame.octets ++ next.scanner.buffer ∧
        sizes = payloads.map fun payload => headerLength + payload.length := by
  refine ⟨version_takeFrame? h, ?_⟩
  unfold takeFrame? at h
  split at h
  · cases h
  obtain ⟨n, -, -, hn⟩ | ⟨-, -, hn⟩ | ⟨payload, rest, -, hs, hn⟩ := Scanner.next_cases i.scanner
  · rw [hn] at h
    cases h
    exact ⟨[], rfl, rfl⟩
  · rw [hn] at h
    cases h
  · rw [hn] at h
    cases h
    exact ⟨[payload], hs.trans (by simp), rfl⟩

namespace Line

theorem isDeaf_after (deed : Deed) (hdeed : deed.isDeaf = true) (line : Line) (number : Nat)
    (c : Counters) :
    (line.after number c deed).line.inbox = line.inbox ∧
      (line.after number c deed).line.heard = line.heard ∧
      (line.after number c deed).entries.filterMap Entry.received? = [] := by
  have henqueue (frame : Bytes) :
      (line.enqueue frame).inbox = line.inbox ∧ (line.enqueue frame).heard = line.heard := by
    unfold enqueue
    split <;> exact ⟨rfl, rfl⟩
  cases deed with
  | hearAnswer chunks | fill chunk | receive | lose reason => cases hdeed
  | greet options =>
    simp only [after]
    split <;> exact ⟨rfl, rfl, rfl⟩
  | queueStart agreed clientId capabilities =>
    simp only [after]
    split
    · exact ⟨rfl, rfl, rfl⟩
    · exact ⟨(henqueue _).1, (henqueue _).2, rfl⟩
  | enqueue frame => exact ⟨(henqueue frame).1, (henqueue frame).2, rfl⟩
  | finish write =>
    refine ⟨rfl, rfl, List.filterMap_eq_nil_iff.mpr fun entry hm => ?_⟩
    obtain ⟨octets, -, rfl⟩ := List.mem_map.mp hm
    rfl
  | _ => exact ⟨rfl, rfl, rfl⟩

/-- What has become of all that a session has read: the answer that opened it, the frames that were
taken and entered, and what the scanner holds. -/
structure Hears (line : Line) (entries : List Entry) : Prop where
  silent : line.inbox = none → entries.filterMap Entry.received? = []
  accounts : ∀ inbox ∈ line.inbox,
    ∃ (answer : Bytes) (agreed : Handshake) (payloads : List Bytes),
    Handshake.Accepts answer agreed ∧ inbox.version = agreed.serverVersion ∧
      line.heard = answer ++ (payloads.flatMap Frame.octets ++ inbox.scanner.buffer) ∧
      entries.filterMap Entry.received? =
        payloads.map fun payload => headerLength + payload.length

variable {line : Line} {entries : List Entry}

theorem hears_fresh : ({} : Line).Hears [] where
  silent _ := rfl
  accounts _ hm := nomatch hm

theorem Hears.deaf (h : line.Hears entries) {deed : Deed} (hdeed : deed.isDeaf = true)
    (number : Nat) (c : Counters) :
    (line.after number c deed).line.Hears
      (entries ++ (line.after number c deed).entries) := by
  obtain ⟨hinbox, hheard, hentries⟩ := isDeaf_after deed hdeed line number c
  refine ⟨fun hnone => ?_, fun inbox hm => ?_⟩
  · rw [List.filterMap_append, hentries, List.append_nil]
    rw [hinbox] at hnone
    exact h.silent hnone
  · rw [List.filterMap_append, hentries, List.append_nil, hheard]
    rw [hinbox] at hm
    exact h.accounts inbox hm

theorem Hears.fill (h : line.Hears entries) (number : Nat) (c : Counters) (chunk : Bytes) :
    (line.after number c (.fill chunk)).line.Hears entries := by
  simp only [after]
  refine ⟨fun hnone => h.silent (Option.map_eq_none_iff.mp hnone), fun inbox hm => ?_⟩
  obtain ⟨before, hbefore, rfl⟩ := Option.map_eq_some_iff.mp hm
  obtain ⟨answer, agreed, payloads, haccepts, hversion, hheard, hsizes⟩ := h.accounts before hbefore
  refine ⟨answer, agreed, payloads, haccepts, hversion, ?_, hsizes⟩
  rw [hheard, Scanner.push, List.append_assoc, List.append_assoc]

theorem Hears.receive (h : line.Hears entries) (number : Nat) (c : Counters) :
    (line.after number c .receive).line.Hears
      (entries ++ (line.after number c .receive).entries) := by
  simp only [after]
  split
  · rw [List.append_nil]
    exact h
  next notices sizes next hframe =>
  obtain ⟨before, hbefore, htake⟩ := Option.bind_eq_some_iff.mp hframe
  obtain ⟨hversion, taken, hbuffer, hsizes⟩ := Inbox.takeFrame?_conserves htake
  obtain ⟨answer, agreed, payloads, haccepts, hagreed, hheard, hentered⟩ :=
    h.accounts before hbefore
  have hnew : (sizes.map (Entry.received number)).filterMap Entry.received? = sizes := by
    rw [List.filterMap_map]
    exact List.filterMap_some
  refine ⟨fun hnone => absurd hnone (Option.some_ne_none _), ?_⟩
  rintro _ ⟨⟩
  refine ⟨answer, agreed, payloads ++ taken, haccepts, hversion.trans hagreed, ?_, ?_⟩
  · change line.heard = _
    rw [hheard, hbuffer, List.flatMap_append, List.append_assoc]
  · rw [List.filterMap_append, hnew, hentered, hsizes, List.map_append]

theorem Hears.lose (h : line.Hears entries) (number : Nat) (c : Counters) (reason : Option String) :
    (line.after number c (.lose reason)).line.Hears entries := by
  simp only [after]
  split
  · exact h
  next before hbefore =>
  have hclose : before.close.2.scanner = before.scanner := by
    unfold Inbox.close
    split <;> rfl
  refine ⟨fun hnone => absurd hnone (Option.some_ne_none _), ?_⟩
  rintro _ ⟨⟩
  obtain ⟨answer, agreed, payloads, haccepts, hversion, hheard, hsizes⟩ := h.accounts before hbefore
  refine ⟨answer, agreed, payloads, haccepts, ?_, ?_, hsizes⟩
  · rw [Inbox.version_close]
    exact hversion
  · rw [hclose]
    exact hheard

/-- What the tasks and the requests do keeps the account of what a session has read. -/
theorem Hears.act (h : line.Hears entries) {deed : Deed} (hown : deed.isOwn = true) (number : Nat)
    (c : Counters) :
    (line.after number c deed).line.Hears
      (entries ++ (line.after number c deed).entries) := by
  cases deed with
  | hearAnswer chunks => cases hown
  | fill chunk =>
    have hfill := h.fill number c chunk
    rwa [← List.append_nil entries] at hfill
  | receive => exact h.receive number c
  | lose reason =>
    have hnone : (line.after number c (.lose reason)).entries = [] := by
      simp only [after]
      split <;> rfl
    rw [hnone, List.append_nil]
    exact h.lose number c reason
  | _ => exact h.deaf rfl number c

/-- The answer opens the account. -/
theorem hears_answer (hinbox : line.inbox = none) (h : line.Hears entries) {chunks : List Bytes}
    (hcan : line.can (.hearAnswer chunks) = true) (number : Nat) (c : Counters) :
    (line.after number c (.hearAnswer chunks)).line.Hears entries := by
  rw [can, Bool.and_eq_true, List.isEmpty_iff] at hcan
  obtain ⟨-, hrest⟩ := hcan
  simp only [after]
  split
  · next agreed left rest hawait =>
    rw [hawait] at hrest
    obtain rfl : rest = [] := hrest
    obtain ⟨answer, haccepts, hbuffer⟩ := Handshake.await_eq_ok hawait
    refine ⟨fun hnone => absurd hnone (Option.some_ne_none _), ?_⟩
    rintro _ ⟨⟩
    refine ⟨answer, agreed, [], haccepts, rfl, ?_, h.silent hinbox⟩
    simpa using hbuffer
  · refine ⟨fun _ => h.silent hinbox, fun inbox hm => ?_⟩
    have hm : inbox ∈ line.inbox := hm
    rw [hinbox] at hm
    cases hm

end Line

namespace Traffic

/-- All that a session has read is accounted for, and nothing is read into an inbox before the
answer. -/
theorem Reachable.hears {t : Traffic} (h : t.Reachable) (n : Nat) :
    (t.lines n).Hears (t.entriesOf n) := by
  have hall := h.stride_induction
    (Q := fun call line entries => line.Hears entries ∧
      ((call.all fun call => call.stage.isWaiting) = true → line.inbox = none))
    ⟨Line.hears_fresh, fun _ => rfl⟩ ?_ ?_ ?_ n
  · exact hall.1
  · rintro call stale line entries ⟨hhears, hnone⟩ -
    exact ⟨hhears, fun _ => hnone rfl⟩
  · rintro call number c c' next met lives line k entries ⟨hhears, hwaits⟩ hadvance hcan
    cases hdeed : call.deed? next lives met with
    | none =>
      refine ⟨hhears, fun hnext => hwaits ?_⟩
      exact (ConnectCall.isWaiting_of_advance hadvance hnext lives).1
    | some deed =>
      have hlate : next.isWaiting = false := by
        by_contra hnext
        have hno := ConnectCall.isWaiting_of_advance hadvance (Bool.not_eq_false _ ▸ hnext)
          lives
        rw [hdeed] at hno
        cases hno.2
      refine ⟨?_, fun hnext => ?_⟩
      · have hturn := ConnectCall.turn_of_advance hadvance lives
        have hnothing := ConnectCall.entries_of_deed? hdeed line number k
        rw [hdeed] at hturn
        have hheard (hdeaf : deed.isDeaf = true) :
            (line.after number k deed).line.Hears entries := by
          have hafter := hhears.deaf hdeaf number k
          rwa [hnothing, List.append_nil] at hafter
        have hanswer (hstage : call.stage = .opening) (chunks : List Bytes)
            (hd : deed = .hearAnswer chunks) : (line.after number k deed).line.Hears entries := by
          subst hd
          have hwaiting : call.stage.isWaiting = true := by
            rw [hstage]
            rfl
          refine Line.hears_answer (hwaits hwaiting) hhears (hcan _ ?_) number k
          exact hdeed
        cases hturn with
        | answered hstage _ => exact hanswer hstage _ rfl
        | turnedAway hstage => exact hanswer hstage _ rfl
        | _ => exact hheard rfl
      · change next.isWaiting = true at hnext
        rw [hlate] at hnext
        cases hnext
  · rintro call number deed line k entries ⟨hhears, hwaits⟩ hown hcan
    refine ⟨hhears.act hown number k, fun hwaiting => ?_⟩
    have hnone := hwaits hwaiting
    cases deed with
    | fill chunk =>
      simp only [Line.after, hnone]
      rfl
    | receive =>
      have hframe : line.nextFrame? = none := by rw [Line.nextFrame?, hnone, Option.bind_none]
      simp only [Line.after, hframe, hnone]
    | lose reason =>
      simp only [Line.after, hnone]
    | hearAnswer chunks => cases hown
    | _ => exact ((Line.isDeaf_after _ rfl line number k).1).trans hnone

theorem filterMap_sent_entriesOf (t : Traffic) (n : Nat) :
    (t.entriesOf n).filterMap Entry.sent? = t.ledger.filterMap (Entry.sentIn? n) := by
  rw [entriesOf, List.filterMap_filter]
  refine List.filterMap_congr fun entry _ => ?_
  cases entry with
  | sent session octets => simp only [Entry.isOf, Entry.sent?, Entry.sentIn?, decide_eq_true_eq]
  | received session size => simp only [Entry.sent?, Entry.sentIn?, ite_self]
  | reset => rfl

/-- What a session has sent is what was entered for it, what opened the conversation first. -/
theorem Reachable.sent_eq {t : Traffic} (h : t.Reachable) (n : Nat) :
    (t.lines n).sent = (t.entriesOf n).filterMap Entry.sent? := by
  rw [filterMap_sent_entriesOf]
  obtain ⟨moves, hr⟩ := h
  have hall : t.Reachable ∧ (t.lines n).sent = t.ledger.filterMap (Entry.sentIn? n) := by
    refine run_induction
      (P := fun t => t.Reachable ∧ (t.lines n).sent = t.ledger.filterMap (Entry.sentIn? n)) ?_
      ⟨⟨[], rfl⟩, rfl⟩ hr
    intro v v' move hv hs
    obtain ⟨hreachable, hsent⟩ := hv
    refine ⟨hreachable.step hs, ?_⟩
    by_cases hmove : move = .reset
    · subst hmove
      cases hs
      rw [List.filterMap_append, ← hsent]
      exact (List.append_nil _).symm
    · obtain ⟨entries, -, hledger, -, hline⟩ := hreachable.entries_step hs hmove
      rw [hline n, hledger, List.filterMap_append, hsent]
  exact hall.2

end Traffic

end BrokerWire
