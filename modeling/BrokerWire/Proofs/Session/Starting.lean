import BrokerWire.Proofs.Session.Issuing
import BrokerWire.Proofs.Session.Traffic

namespace BrokerWire

namespace Line

/-- How a session goes with the call that opened it: the queue begins with the message that starts
the session, and the call tells the application at its end. -/
structure Follows (line : Line) (call : ConnectCall) : Prop where
  queued_nil : call.stage.isEarly = true → line.queued = []
  queued_ne : call.stage.hasStarted = true → line.queued ≠ []
  version : ∀ agreed ∈ call.stage.agreed?,
    line.inbox.map Inbox.version = some agreed.serverVersion
  start : ∀ frame ∈ line.queued.head?, ∃ version, line.inbox.map Inbox.version = some version ∧
    (Handshake.startApi version call.clientId call.capabilities).encode = .ok frame
  opener_nil : call.stage.isDone = false → line.opener = []
  opener_ack : call.stage = .acknowledged → line.opener = [.connectAck]

variable {line : Line} {call : ConnectCall}

/-- A steady deed leaves a session with the call that opened it. -/
theorem Follows.steady (h : line.Follows call) {deed : Deed} (hdeed : deed.isSteady = true)
    (number : Nat) (c : Counters) : (line.after number c deed).line.Follows call := by
  obtain ⟨hqueued, hversion, hopener⟩ := isSteady_after deed hdeed line number c
  refine ⟨?_, ?_, ?_, ?_, ?_, ?_⟩
  · rw [hqueued]
    exact h.queued_nil
  · rw [hqueued]
    exact h.queued_ne
  · rw [hversion]
    exact h.version
  · rw [hqueued, hversion]
    exact h.start
  · rw [hopener]
    exact h.opener_nil
  · rw [hopener]
    exact h.opener_ack

/-- A request behind the first message leaves a session with the call that opened it. -/
theorem Follows.enqueue (h : line.Follows call) (hne : line.queued ≠ []) (frame : Bytes) :
    (line.enqueue frame).Follows call := by
  obtain ⟨hinbox, hopener⟩ := line.enqueue_frame frame
  obtain ⟨rest, hrest⟩ := line.queued_isPrefix_enqueue frame
  refine ⟨fun he => absurd (h.queued_nil he) hne, fun _ => ?_, ?_, ?_, ?_, ?_⟩
  · rw [← hrest]
    exact List.append_ne_nil_of_left_ne_nil hne rest
  · rw [hinbox]
    exact h.version
  · rw [← hrest, List.head?_append_of_ne_nil _ hne, hinbox]
    exact h.start
  · rw [hopener]
    exact h.opener_nil
  · rw [hopener]
    exact h.opener_ack

theorem follows_fresh {call : ConnectCall} (hagreed : call.stage.agreed? = none)
    (hstarted : call.stage.hasStarted = false) : ({} : Line).Follows call := by
  refine ⟨fun _ => rfl, ?_, ?_, nofun, fun _ => rfl, ?_⟩
  · rw [hstarted]
    exact nofun
  · rw [hagreed]
    exact nofun
  · intro hstage
    rw [hstage] at hstarted
    cases hstarted

/-- A call that fails or has ended asks little of its session. -/
theorem follows_late (hearly : call.stage.isEarly = false)
    (hstarted : call.stage.hasStarted = false) (hagreed : call.stage.agreed? = none)
    (hstart : ∀ frame ∈ line.queued.head?, ∃ version,
      line.inbox.map Inbox.version = some version ∧
        (Handshake.startApi version call.clientId call.capabilities).encode = .ok frame)
    (hopener : call.stage.isDone = false → line.opener = []) : line.Follows call := by
  refine ⟨fun he => ?_, fun hs => ?_, fun agreed hm => ?_, hstart, hopener, fun hack => ?_⟩
  · rw [hearly] at he
    cases he
  · rw [hstarted] at hs
    cases hs
  · rw [hagreed] at hm
    cases hm
  · rw [hack] at hstarted
    cases hstarted

theorem Follows.moves (h : line.Follows call) {next : Stage}
    (hearly : next.isEarly = true → call.stage.isEarly = true)
    (hstarted : next.hasStarted = true → call.stage.hasStarted = true)
    (hagreed : ∀ agreed ∈ next.agreed?, agreed ∈ call.stage.agreed?)
    (hdone : next.isDone = false → call.stage.isDone = false) (hack : next ≠ .acknowledged) :
    line.Follows { call with stage := next } where
  queued_nil he := h.queued_nil (hearly he)
  queued_ne hs := h.queued_ne (hstarted hs)
  version agreed hm := h.version agreed (hagreed agreed hm)
  start := h.start
  opener_nil hd := h.opener_nil (hdone hd)
  opener_ack he := absurd he hack

/-- A session goes on with the call that opened it when the call takes a step. -/
theorem Follows.turn {number : Nat} {c c' : Client} {next : Stage} {deed : Option Deed}
    (h : line.Follows call) (hturn : call.Turn number c c' next deed) (k : Counters)
    (hcan : ∀ d ∈ deed, line.can d = true) :
    (deed.elim line fun d => (line.after number k d).line).Follows { call with stage := next } := by
  have hsteady {d : Deed} (hd : d.isSteady = true) : (line.after number k d).line.Follows call :=
    h.steady hd number k
  cases hturn with
  | plain _ hcall hnext hstarted hagreed hearly =>
    refine h.moves hearly ?_ ?_ (fun _ => hcall) ?_
    · rw [hstarted]
      intro hs
      cases hs
    · rw [hagreed]
      intro agreed hm
      cases hm
    · rintro rfl
      cases hnext
  | answered hstage hawait =>
    have hqueued := h.queued_nil (by rw [hstage]; rfl)
    have hopener := h.opener_nil (by rw [hstage]; rfl)
    simp only [Option.elim_some, after, hawait]
    refine ⟨fun _ => hqueued, by rintro ⟨⟩, ?_, ?_, fun _ => hopener, by rintro ⟨⟩⟩
    · rintro _ ⟨⟩
      rfl
    · rw [hqueued]
      rintro _ ⟨⟩
  | turnedAway hstage =>
    have hqueued := h.queued_nil (by rw [hstage]; rfl)
    have hopener := h.opener_nil (by rw [hstage]; rfl)
    simp only [Option.elim_some, after]
    split
    all_goals
      refine follows_late rfl rfl rfl ?_ fun _ => hopener
      rw [hqueued]
      rintro _ ⟨⟩
  | started hstage =>
    refine (hsteady rfl).moves ?_ (by rintro ⟨⟩) ?_ ?_ (by rintro ⟨⟩)
    all_goals rw [hstage]
    · exact id
    · exact fun _ => id
    · exact id
  | queued hstage =>
    have hqueued := h.queued_nil (by rw [hstage]; rfl)
    have hversion := h.version _ (by rw [hstage]; rfl)
    have hopener := h.opener_nil (by rw [hstage]; rfl)
    have hroom := hcan _ rfl
    rw [can, Bool.and_eq_true] at hroom
    simp only [Option.elim_some, after]
    split
    · next fault hencode =>
      rw [hencode] at hroom
      cases hroom.2
    · next frame hencode =>
      rw [enqueue_of_hasRoom hroom.1, hqueued]
      refine ⟨by rintro ⟨⟩, fun _ => List.cons_ne_nil frame [], ?_, ?_, fun _ => hopener,
        by rintro ⟨⟩⟩
      · rintro _ ⟨⟩
        exact hversion
      · rintro _ ⟨⟩
        exact ⟨_, hversion, hencode⟩
  | stopped hstage =>
    have hopener := h.opener_nil (by rw [hstage]; rfl)
    exact follows_late rfl rfl rfl h.start fun _ => hopener
  | installed hstage _ _ =>
    have hstarted := h.queued_ne (by rw [hstage]; rfl)
    have hopener := h.opener_nil (by rw [hstage]; rfl)
    have htold : line.toldBy .opener = [] := (List.append_eq_nil_iff.mp hopener).1
    refine ⟨by rintro ⟨⟩, fun _ => hstarted, by rintro _ ⟨⟩, h.start, by rintro ⟨⟩, fun _ => ?_⟩
    change line.toldBy .opener ++ [.connectAck] = [.connectAck]
    rw [htold, List.nil_append]
  | failed hstage => exact follows_late rfl rfl rfl h.start (by rintro ⟨⟩)
  | ended hstage => exact follows_late rfl rfl rfl h.start (by rintro ⟨⟩)

end Line

namespace Traffic

/-- Sessions follow the calls that opened them, and there are none but such; a session that is
stored, or that a request has seen, has its first message in the queue. One session may be busy, and
then nothing is said of how it follows its call. -/
structure SoundBut (t : Traffic) (busy : Option Nat) : Prop where
  coherent : t.world.Coherent
  fresh : ∀ n, t.world.calls n = none → t.lines n = {}
  follows : ∀ n call, t.world.calls n = some call → busy ≠ some n → (t.lines n).Follows call
  stored : ∀ s, t.world.client.session = some s → (t.lines s.attempt).queued ≠ []
  seen : ∀ asking ∈ t.asked, ∀ s, asking.seen.live? = some s → (t.lines s.attempt).queued ≠ []

/-- What every step keeps. -/
def Sound (t : Traffic) : Prop :=
  t.SoundBut none

theorem sound_initial : Sound {} where
  coherent := World.coherent_initial
  fresh _ _ := rfl
  follows _ _ hcall := nomatch hcall
  stored _ hs := nomatch hs
  seen _ hm := absurd hm List.not_mem_nil

theorem Sound.follows {t : Traffic} (h : t.Sound) {n : Nat} {call : ConnectCall}
    (hcall : t.world.calls n = some call) : (t.lines n).Follows call :=
  SoundBut.follows h n call hcall nofun

theorem Sound.but {t : Traffic} (h : t.Sound) (number : Nat) : t.SoundBut (some number) :=
  ⟨h.coherent, h.fresh, fun _ _ hcall _ => h.follows hcall, h.stored, h.seen⟩

theorem SoundBut.sound {t : Traffic} {number : Nat} (h : t.SoundBut (some number))
    {call : ConnectCall} (hcall : t.world.calls number = some call)
    (hfollows : (t.lines number).Follows call) : t.Sound := by
  refine ⟨h.coherent, h.fresh, fun n other hother _ => ?_, h.stored, h.seen⟩
  by_cases hn : number = n
  · subst hn
    rw [hcall] at hother
    cases hother
    exact hfollows
  · exact h.follows n other hother fun he => hn (Option.some.inj he)

theorem session_of_live? {c : Client} {s : Session} (h : c.live? = some s) :
    c.session = some s := by
  unfold Client.live? at h
  split at h
  · next other _ hsession =>
    split at h
    · cases h
    · cases h
      exact hsession
  · cases h

/-- A deed that its task does needs an attempt behind it. -/
theorem calls_of_permits {t : Traffic} (h : t.Sound) {number : Nat} {deed : Deed}
    (hpermits : t.permits number deed = true) (hcan : (t.lines number).can deed = true) :
    ∃ call, t.world.calls number = some call := by
  cases hcall : t.world.calls number with
  | some call => exact ⟨call, rfl⟩
  | none =>
    rw [h.fresh number hcall] at hcan
    have hreading : ({} : Line).isReading = false := rfl
    cases deed with
    | greet options =>
      rw [permits, hcall] at hpermits
      cases hpermits
    | fill _ | receive | lose _ | hush =>
      rw [Line.can, hreading] at hcan
      cases hcan
    | pay | take | finish _ | stop _ | say => cases hcan
    | _ => cases hpermits

/-- A deed that its task does is steady. -/
theorem isSteady_of_permits {t : Traffic} {number : Nat} {deed : Deed}
    (h : t.permits number deed = true) : deed.isSteady = true := by
  cases deed <;> first | rfl | cases h

/-- The queues of all sessions only grow. -/
theorem queued_ne_act {t t' : Traffic} {number : Nat} {deed : Deed}
    (h : t.act number deed = some t') {n : Nat} (hne : (t.lines n).queued ≠ []) :
    (t'.lines n).queued ≠ [] := by
  obtain ⟨-, rfl⟩ := act_eq_some h
  dsimp only
  rw [Function.update_apply]
  split
  · next heq =>
    subst heq
    intro hnil
    have hprefix := (t.lines n).queued_isPrefix_after n t.counters deed
    rw [hnil, List.prefix_nil] at hprefix
    exact hne hprefix
  · exact hne

/-- A deed leaves a state sound if its session then goes with its call. -/
theorem SoundBut.act {t t' : Traffic} {number : Nat} (h : t.SoundBut (some number)) {deed : Deed}
    {call : ConnectCall} (hcall : t.world.calls number = some call)
    (hact : t.act number deed = some t')
    (hfollows : ((t.lines number).after number t.counters deed).line.Follows call) :
    t'.Sound := by
  have hqueued {n : Nat} (hne : (t.lines n).queued ≠ []) : (t'.lines n).queued ≠ [] :=
    queued_ne_act hact hne
  obtain ⟨-, rfl⟩ := act_eq_some hact
  have hothers (n : Nat) (hn : n ≠ number) (line : Line) :
      Function.update t.lines number line n = t.lines n := Function.update_of_ne hn _ _
  refine SoundBut.sound ⟨h.coherent, fun n hnone => ?_, fun n other hother hn => ?_,
    fun s hs => hqueued (h.stored s hs),
    fun asking hm s hlive => hqueued (h.seen asking hm s hlive)⟩ hcall ?_
  · dsimp only
    rw [hothers n ?_, h.fresh n hnone]
    rintro rfl
    rw [hcall] at hnone
    cases hnone
  · dsimp only
    rw [hothers n fun he => hn (congrArg some he.symm)]
    exact h.follows n other hother hn
  · dsimp only
    rw [Function.update_self]
    exact hfollows

theorem act_findSpent {t t' : Traffic} {number : Nat} (h : t.act number .findSpent = some t') :
    t' = t := by
  obtain ⟨-, rfl⟩ := act_eq_some h
  simp only [Line.after, Function.update_eq_self, List.append_nil]

theorem sound_call {t t' : Traffic} (h : t.Sound) {action : Action} {world : World}
    (hworld : t.world.step action = some world)
    (hdeed : t.world.deed? world action = none ∧ t' = { t with world := world } ∨
      ∃ number deed, t.world.deed? world action = some (number, deed) ∧
        { t with world := world }.act number deed = some t') : t'.Sound := by
  have hcoherent := World.coherent_step h.coherent hworld
  have hstored (s : Session) (hs : world.client.session = some s) :
      (t.lines s.attempt).queued ≠ [] := by
    obtain hold | ⟨call, hcall, hstarted⟩ := World.stored_step hworld hs
    · exact h.stored s hold
    · exact (h.follows hcall).queued_ne hstarted
  -- All sessions but that of `number` go with the calls of `world`, since those are as they were.
  have hbut {number : Nat} {call : ConnectCall}
      (hcalls : world.calls = Function.update t.world.calls number (some call)) :
      SoundBut { t with world := world } (some number) ∧ world.calls number = some call := by
    have hothers (n : Nat) (hn : n ≠ number) : world.calls n = t.world.calls n := by
      rw [hcalls, Function.update_of_ne hn]
    have hself : world.calls number = some call := by rw [hcalls, Function.update_self]
    refine ⟨⟨hcoherent, fun n hnone => h.fresh n ?_, fun n other hother hn => h.follows ?_,
      hstored, h.seen⟩, hself⟩
    · rw [← hothers n ?_]
      · exact hnone
      · rintro rfl
        rw [hself] at hnone
        cases hnone
    · rw [← hothers n fun he => hn (congrArg some he.symm)]
      exact hother
  obtain ⟨hcalls, hspent⟩ | ⟨hnone, call, stale, hstage, hcalls⟩ |
    ⟨number, call, next, deed, hcall, hturn, hcalls, hdeeds⟩ := World.calls_step hworld
  · have hsame : Sound { t with world := world } :=
      ⟨hcoherent, fun n hn => h.fresh n (hcalls ▸ hn),
        fun n call hc _ => h.follows (hcalls ▸ hc), hstored, h.seen⟩
    obtain ⟨-, rfl⟩ | ⟨number, deed, hsome, hact⟩ := hdeed
    · exact hsame
    · obtain hnone | ⟨other, hother⟩ := hspent
      · rw [hnone] at hsome
        cases hsome
      · rw [hother] at hsome
        cases hsome
        rw [act_findSpent hact]
        exact hsame
  · obtain ⟨-, rfl⟩ | ⟨number, deed, hsome, -⟩ := hdeed
    · obtain ⟨hrest, hself⟩ := hbut hcalls
      refine hrest.sound hself ?_
      have hfresh : t.world.calls (t.world.client.attempt + 1) = none :=
        Option.eq_none_iff_forall_not_mem.mpr fun other hother =>
          Nat.not_succ_le_self _ (h.coherent.number_le _ other hother)
      dsimp only
      rw [h.fresh _ hfresh]
      exact Line.follows_fresh (by rw [hstage]; rfl) (by rw [hstage]; rfl)
    · rw [hnone] at hsome
      cases hsome
  · obtain ⟨hrest, hself⟩ := hbut hcalls
    have hfollows := h.follows hcall
    rw [hdeeds] at hdeed
    cases deed with
    | none =>
      obtain ⟨-, rfl⟩ | ⟨n, d, hsome, -⟩ := hdeed
      · have hturned := hfollows.turn hturn t.counters
          fun d hd => absurd hd (Option.not_mem_none d)
        exact hrest.sound hself hturned
      · cases hsome
    | some deed =>
      obtain ⟨hnone, -⟩ | ⟨n, d, hsome, hact⟩ := hdeed
      · cases hnone
      · cases hsome
        refine hrest.act hself hact (hfollows.turn hturn t.counters ?_)
        rintro _ ⟨⟩
        exact (act_eq_some hact).1

theorem sound_step {t t' : Traffic} {move : Move} (h : t.Sound) (hs : t.step move = some t') :
    t'.Sound := by
  obtain ⟨action, world, hworld, hdeed⟩ | ⟨asked, outside, rfl, hasked⟩ |
    ⟨asking, hasking, s, asked, deed, hlive, hsubset, hdeed, hact⟩ |
    ⟨number, deed, hpermits, hact⟩ | ⟨-, rfl⟩ := step_cases hs
  · exact sound_call h hworld hdeed
  · refine ⟨h.coherent, h.fresh, fun _ _ hcall _ => h.follows hcall, h.stored,
      fun asking hm s hlive => ?_⟩
    obtain hm | hseen := hasked asking hm
    · exact h.seen asking hm s hlive
    · rw [hseen] at hlive
      exact h.stored s (session_of_live? hlive)
  · have hrest : Sound { t with asked := asked } :=
      ⟨h.coherent, h.fresh, fun _ _ hcall _ => h.follows hcall, h.stored,
        fun other hm => h.seen other (hsubset hm)⟩
    have hne := h.seen asking hasking s hlive
    obtain ⟨call, hcall⟩ : ∃ call, t.world.calls s.attempt = some call := by
      refine Option.ne_none_iff_exists'.mp fun hnone => hne ?_
      rw [h.fresh _ hnone]
    have hfollows := h.follows hcall
    refine (hrest.but s.attempt).act hcall hact ?_
    obtain ⟨notice, rfl, -⟩ | ⟨frame, rfl, -⟩ := hdeed
    · have hsteady : (Deed.refuse notice).isSteady = true := rfl
      exact hfollows.steady hsteady s.attempt t.counters
    · exact hfollows.enqueue hne frame
  · obtain ⟨call, hcall⟩ := calls_of_permits h hpermits (act_eq_some hact).1
    have hsteady := isSteady_of_permits hpermits
    exact (h.but number).act hcall hact ((h.follows hcall).steady hsteady number t.counters)
  · exact ⟨h.coherent, h.fresh, fun _ _ hcall _ => h.follows hcall, h.stored, h.seen⟩

theorem Reachable.sound {t : Traffic} (h : t.Reachable) : t.Sound := by
  obtain ⟨moves, hr⟩ := h
  exact run_induction sound_step sound_initial hr

/-- What the application is told of a request that comes to nothing. -/
def IsRefusal (notice : Notice) : Prop :=
  ∃ c queueOpen r code text, Refuses c queueOpen r code text ∧ notice = .error r.id 0 code text ""

/-- What is known of a deed that is done with a session: the task that writes starts on an empty
queue and stops only behind a cancellation, the call that connects tells one thing and goes on to
listen only if that was that the session opens, and frames are whole. -/
def Suits (line : Line) (cancelled : Bool) : Deed → Prop
  | .start => line.queued = []
  | .owe notice =>
    line.opener = [] ∧
      (notice = .connectAck ∨ ∃ e : ApiError, notice = e.notice ClientError.noRequest)
  | .listen _ => line.opener = [.connectAck]
  | .refuse notice => IsRefusal notice
  | .enqueue frame => ∃ payload, frame = Frame.octets payload
  | .stop _ => cancelled = true
  | _ => True

theorem suits_of_turn {line : Line} {call : ConnectCall} {number : Nat} {c c' : Client}
    {next : Stage} {deed : Deed} (h : line.Follows call)
    (hturn : call.Turn number c c' next (some deed)) (cancelled : Bool) :
    Suits line cancelled deed := by
  cases hturn with
  | started hstage => exact h.queued_nil (by rw [hstage]; rfl)
  | installed hstage _ _ => exact ⟨h.opener_nil (by rw [hstage]; rfl), .inl rfl⟩
  | failed hstage => exact ⟨h.opener_nil (by rw [hstage]; rfl), .inr ⟨_, rfl⟩⟩
  | ended hstage => exact h.opener_ack hstage
  | _ => trivial

theorem suits_of_permits {t : Traffic} {number : Nat} {deed : Deed}
    (h : t.permits number deed = true) :
    Suits (t.lines number) (t.world.client.isCancelled number) deed := by
  cases deed with
  | stop count => exact h
  | start | owe _ | listen _ | refuse _ | enqueue _ => cases h
  | _ => trivial

/-- What a step does with the sessions, the counters and the ledger: nothing, set the counters back,
or one deed with one session. -/
theorem step_deed {t t' : Traffic} {move : Move} (h : t.Sound) (hs : t.step move = some t') :
    t'.lines = t.lines ∧ t'.counters = t.counters ∧ t'.ledger = t.ledger ∨
    move = .reset ∧ t'.lines = t.lines ∧ t'.counters = {} ∧ t'.ledger = t.ledger ++ [.reset] ∨
    ∃ number deed, (t.lines number).can deed = true ∧
      Suits (t.lines number) (t.world.client.isCancelled number) deed ∧
      t'.lines = Function.update t.lines number
        ((t.lines number).after number t.counters deed).line ∧
      t'.counters = ((t.lines number).after number t.counters deed).counters ∧
      t'.ledger = t.ledger ++ ((t.lines number).after number t.counters deed).entries := by
  obtain ⟨action, world, hworld, hdeed⟩ | ⟨asked, outside, rfl, -⟩ |
    ⟨asking, -, s, asked, deed, -, -, hdeed, hact⟩ | ⟨number, deed, hpermits, hact⟩ | ⟨rfl, rfl⟩ :=
      step_cases hs
  · obtain ⟨-, rfl⟩ | ⟨number, deed, hsome, hact⟩ := hdeed
    · exact .inl ⟨rfl, rfl, rfl⟩
    obtain ⟨hcan, rfl⟩ := act_eq_some hact
    refine .inr (.inr ⟨number, deed, hcan, ?_, rfl, rfl, rfl⟩)
    obtain ⟨-, hnone | ⟨other, hother⟩⟩ | ⟨hnone, -⟩ |
      ⟨n, call, next, d, hcall, hturn, -, hdeeds⟩ := World.calls_step hworld
    · rw [hnone] at hsome
      cases hsome
    · rw [hother] at hsome
      cases hsome
      trivial
    · rw [hnone] at hsome
      cases hsome
    · rw [hdeeds] at hsome
      obtain ⟨d, rfl, hpair⟩ := Option.map_eq_some_iff.mp hsome
      cases hpair
      exact suits_of_turn (h.follows hcall) hturn _
  · exact .inl ⟨rfl, rfl, rfl⟩
  · obtain ⟨hcan, rfl⟩ := act_eq_some hact
    refine .inr (.inr ⟨s.attempt, deed, hcan, ?_, rfl, rfl, rfl⟩)
    obtain ⟨payload, hok, -⟩ | ⟨code, text, herror, hrefuses⟩ :=
      asking.seen.request_cases (t.lines s.attempt).isOpen asking.request
    · obtain ⟨notice, rfl, hrequest⟩ | ⟨frame, rfl, hrequest⟩ := hdeed
      · rw [hok] at hrequest
        cases hrequest
      · rw [hok] at hrequest
        cases hrequest
        exact ⟨payload, rfl⟩
    · obtain ⟨notice, rfl, hrequest⟩ | ⟨frame, rfl, hrequest⟩ := hdeed
      · rw [herror] at hrequest
        cases hrequest
        exact ⟨_, _, _, _, _, hrefuses, rfl⟩
      · rw [herror] at hrequest
        cases hrequest
  · obtain ⟨hcan, rfl⟩ := act_eq_some hact
    exact .inr (.inr ⟨number, deed, hcan, suits_of_permits hpermits, rfl, rfl, rfl⟩)
  · exact .inr (.inl ⟨rfl, rfl, rfl, rfl⟩)

/-- What no deed takes from a session holds of every session, whatever goes on. -/
theorem Reachable.line_induction {P : Line → Prop} (hfresh : P {})
    (hafter : ∀ {line : Line} {number : Nat} {c : Counters} {cancelled : Bool} {deed : Deed},
      P line → line.can deed = true → Suits line cancelled deed →
      P (line.after number c deed).line)
    {t : Traffic} (h : t.Reachable) (n : Nat) : P (t.lines n) := by
  obtain ⟨moves, hr⟩ := h
  have hall : t.Sound ∧ ∀ n, P (t.lines n) := by
    refine run_induction (P := fun t => t.Sound ∧ ∀ n, P (t.lines n)) ?_
      ⟨sound_initial, fun _ => hfresh⟩ hr
    intro v v' move hv hs
    refine ⟨sound_step hv.1 hs, fun n => ?_⟩
    obtain ⟨hlines, -, -⟩ | ⟨-, hlines, -, -⟩ | ⟨number, deed, hcan, hsuits, hlines, -, -⟩ :=
      step_deed hv.1 hs
    · rw [hlines]
      exact hv.2 n
    · rw [hlines]
      exact hv.2 n
    · rw [hlines, Function.update_apply]
      split
      · next hn => exact hafter (hv.2 number) hcan hsuits
      · exact hv.2 n
  exact hall.2 n

end Traffic

end BrokerWire
