import BrokerWire.Proofs.Report.Connecting

namespace BrokerWire

namespace Traffic

/-- What the tasks and the user leave as it is. -/
structure Drifts (t t' : Traffic) : Prop where
  farewells : t'.world.farewells = t.world.farewells
  asked : t'.asked = t.asked
  outside : t'.outside = t.outside
  session : t'.world.client.session = t.world.client.session
  down : t'.world.client.shutDown = false → t.world.client.shutDown = false
  heard : (t.lines 1).heard <+: (t'.lines 1).heard
  idle : (t.lines 1).isIdle = true → t'.lines = t.lines ∧ t'.counters = t.counters

end Traffic

namespace Runner

variable {s : Settings} {r r' : Runner}

/-- A step that is not one of the main task is one of a task of the session, or the end of the
session, or an interruption by the user. -/
theorem background_cases {pace : Pace} (hpace : ∀ met, pace ≠ .main met)
    (hs : r.step s pace = some r') :
    ∃ t, r' = ⟨t, r.place, r.log ++ (r.traffic.news t).map .told⟩ ∧
      ((∃ deed, deed.isTask = true ∧ r.traffic.permits 1 deed = true ∧
          r.traffic.act 1 deed = some t) ∨
        (r.line.isSpent = true ∧ t = { r.traffic with
          world := { r.traffic.world with client := r.traffic.world.client.cancel 1 } }) ∨
        t = { r.traffic with
          world := { r.traffic.world with client := r.traffic.world.client.shutdown } }) := by
  cases pace with
  | main met => exact absurd rfl (hpace met)
  | task deed =>
    simp only [step] at hs
    split at hs
    · next htask =>
      obtain ⟨t, ht, rfl⟩ := move_eq_some hs
      simp only [Traffic.step] at ht
      split at ht
      · next hpermits => exact ⟨t, rfl, .inl ⟨deed, htask, hpermits, ht⟩⟩
      · cases ht
    · cases hs
  | sessionEnds =>
    obtain ⟨t, ht, rfl⟩ := move_eq_some hs
    refine ⟨t, rfl, .inr (.inl ?_)⟩
    obtain ⟨world, hworld, hdeed⟩ := Option.bind_eq_some_iff.mp ht
    simp only [World.step] at hworld
    split at hworld
    · cases hworld
      have hspent := (Traffic.act_eq_some hdeed).1
      exact ⟨hspent, Traffic.act_findSpent hdeed⟩
    · cases hworld
  | interrupt =>
    obtain ⟨t, ht, rfl⟩ := move_eq_some hs
    cases ht
    exact ⟨_, rfl, .inr (.inr rfl)⟩

theorem drifts_background {pace : Pace} (hpace : ∀ met, pace ≠ .main met)
    (hs : r.step s pace = some r') :
    r.traffic.Drifts r'.traffic ∧ r'.place = r.place ∧
      r'.log = r.log ++ (r.traffic.news r'.traffic).map .told := by
  obtain ⟨t, rfl, hcases⟩ := background_cases hpace hs
  refine ⟨?_, rfl, rfl⟩
  obtain ⟨deed, htask, -, hact⟩ | ⟨-, rfl⟩ | rfl := hcases
  · obtain ⟨hcan, rfl⟩ := Traffic.act_eq_some hact
    have hown : deed.isOwn = true := by cases deed <;> first | rfl | cases htask
    refine ⟨rfl, rfl, rfl, rfl, id, ?_, fun hidle => ?_⟩
    · dsimp only
      rw [Function.update_self]
      exact Line.heard_after hown _ 1 _
    · rw [Line.can_of_isIdle hidle htask] at hcan
      cases hcan
  · exact ⟨rfl, rfl, rfl, rfl, id, List.prefix_rfl, fun _ => ⟨rfl, rfl⟩⟩
  · exact ⟨rfl, rfl, rfl, rfl, nofun, List.prefix_rfl, fun _ => ⟨rfl, rfl⟩⟩

/-- Nothing has happened yet, but that the user may have interrupted the run. -/
def IsFresh (r : Runner) : Prop :=
  r.log = [] ∧ ∃ down, r.traffic = { world := { client := { shutDown := down } } }

/-- The run has reported nothing itself. -/
def IsUnreported (r : Runner) : Prop :=
  ∃ notices : List Notice, r.log = notices.map .told

def connected (agreed : Handshake) : Output :=
  .reported (.connected (some agreed.serverVersion) (some agreed.connectionTime))

/-- The run has reported its session and nothing else. -/
def HasReported (r : Runner) (agreed : Handshake) : Prop :=
  ∃ before behind : List Notice,
    r.log = before.map .told ++ connected agreed :: behind.map .told

/-- The run has reported its session and, at the end, the counters as they are. -/
def HasFinished (r : Runner) (agreed : Handshake) : Prop :=
  ∃ before behind : List Notice,
    r.log = before.map .told ++ connected agreed :: behind.map .told ++
      [.reported (.stats r.traffic.counters)]

/-- The run was told of its failure, and before that at most of writes that failed while the user
interrupted it. -/
def HasFailed (r : Runner) (e : ApiError) : Prop :=
  r.line.isIdle = true ∧ ∃ early : List Notice,
    r.log = early.map .told ++ [.told (e.notice ClientError.noRequest)] ∧
      (∀ notice ∈ early, ∃ reason, notice = Outbox.failure reason) ∧
      (r.traffic.world.client.shutDown = false → early = [])

/-- What holds of a run, by where its main task stands. -/
def Stands (r : Runner) : Prop :=
  match r.place with
  | .fresh => r.IsFresh
  | .starting => r.IsFresh
  | .connecting => (∃ call, Connects r.traffic call) ∧ r.IsUnreported
  | .failing e => Fails r.traffic e ∧ r.IsUnreported
  | .failed e => r.HasFailed e
  | .reporting => ∃ agreed, Opened r.traffic agreed ∧ r.traffic.asked = [] ∧ r.IsUnreported
  | .asking _ => ∃ agreed, Opened r.traffic agreed ∧ r.traffic.asked = [] ∧ r.HasReported agreed
  | .submitting _ => ∃ agreed, Opened r.traffic agreed ∧
      (∃ asking, r.traffic.asked = [asking] ∧ ∀ x ∈ asking.seen.session, x.attempt = 1) ∧
      r.HasReported agreed
  | .waiting => ∃ agreed, Opened r.traffic agreed ∧ r.traffic.asked = [] ∧ r.HasReported agreed
  | .parting => ∃ agreed, Opened r.traffic agreed ∧ r.traffic.asked = [] ∧ r.HasReported agreed
  | .cancelling => ∃ agreed, r.line.HasHeard agreed ∧
      r.traffic.world.farewells = [.ending 1] ∧ r.HasReported agreed
  | .joining => ∃ agreed, r.line.HasHeard agreed ∧
      r.traffic.world.farewells = [.joining] ∧ r.HasReported agreed
  | .counting => ∃ agreed, r.line.HasHeard agreed ∧ r.line.isIdle = true ∧ r.HasReported agreed
  | .finished => ∃ agreed, r.line.HasHeard agreed ∧ r.line.isIdle = true ∧ r.HasFinished agreed

theorem IsUnreported.append (h : r.IsUnreported) {notices : List Notice}
    (hlog : r'.log = r.log ++ notices.map .told) : r'.IsUnreported := by
  obtain ⟨before, hbefore⟩ := h
  exact ⟨before ++ notices, by rw [hlog, hbefore, List.map_append]⟩

theorem HasReported.append {agreed : Handshake} (h : r.HasReported agreed)
    {notices : List Notice} (hlog : r'.log = r.log ++ notices.map .told) :
    r'.HasReported agreed := by
  obtain ⟨before, behind, hbefore⟩ := h
  refine ⟨before, behind ++ notices, ?_⟩
  rw [hlog, hbefore, List.append_assoc, List.cons_append, List.map_append]

theorem opened_drifts {t t' : Traffic} {agreed : Handshake} (h : Opened t agreed)
    (hd : t.Drifts t') : Opened t' agreed := by
  obtain ⟨clientId, hsession⟩ := h.session
  exact ⟨h.heard.mono hd.heard, ⟨clientId, hd.session.trans hsession⟩,
    hd.farewells.trans h.farewells⟩

theorem news_of_idle {t t' : Traffic} (hd : t.Drifts t') (hidle : (t.lines 1).isIdle = true) :
    t'.lines = t.lines ∧ t.news t' = [] := by
  have hlines := (hd.idle hidle).1
  refine ⟨hlines, Traffic.news_of_told ?_ hd.outside⟩
  rw [hlines]

/-- The tasks of the session and the user leave what holds of a run. -/
theorem stands_background {pace : Pace} (hreachable : r.Reachable s) (h : r.Stands)
    (hpace : ∀ met, pace ≠ .main met) (hs : r.step s pace = some r') : r'.Stands := by
  obtain ⟨hd, hplace, hlog⟩ := drifts_background hpace hs
  have hasked := hd.asked
  have hfarewells := hd.farewells
  have hheard {agreed : Handshake} (hline : r.line.HasHeard agreed) :
      r'.line.HasHeard agreed := hline.mono hd.heard
  have hfresh (hfresh : r.IsFresh) : r'.IsFresh := by
    obtain ⟨hnil, down, ht⟩ := hfresh
    obtain ⟨t, rfl, hcases⟩ := background_cases hpace hs
    rw [ht] at hcases
    obtain ⟨deed, htask, -, hact⟩ | ⟨hspent, -⟩ | rfl := hcases
    · have hcan := (Traffic.act_eq_some hact).1
      rw [Line.can_of_isIdle rfl htask] at hcan
      cases hcan
    · rw [line, ht] at hspent
      cases hspent
    · refine ⟨?_, true, rfl⟩
      rw [hnil, ht]
      rfl
  unfold Stands at h ⊢
  rw [hplace]
  split at h
  · exact hfresh h
  · exact hfresh h
  · obtain ⟨⟨call, hconnects⟩, hlogged⟩ := h
    refine ⟨⟨call, ?_⟩, hlogged.append hlog⟩
    obtain ⟨t, rfl, ⟨deed, htask, hpermits, hact⟩ | ⟨hspent, -⟩ | rfl⟩ :=
      background_cases hpace hs
    · exact hconnects.task hreachable.traffic htask hpermits hact
    · -- Nothing was received yet that could have ended the session.
      have hunheard := hreachable.traffic.unheard hconnects.calls hconnects.running
      rw [line, Line.isSpent, Bool.and_eq_true] at hspent
      cases hinbox : (r.traffic.lines 1).inbox with
      | none =>
        rw [hinbox] at hspent
        cases hspent.2
      | some inbox =>
        rw [hinbox, Option.any_some, hunheard.ending inbox hinbox] at hspent
        cases hspent.2
    · exact hconnects.interrupt
  · obtain ⟨hfails, hlogged⟩ := h
    obtain ⟨hlines, hnews⟩ := news_of_idle hd hfails.idle
    refine ⟨⟨?_, ?_, hd.outside.trans hfails.outside, ?_, ?_⟩, hlogged.append hlog⟩
    · rw [hlines]
      exact hfails.idle
    · rw [hlines]
      exact hfails.due
    · rw [hlines]
      exact hfails.writers
    · rw [hlines]
      exact fun hdown => hfails.undisturbed (hd.down hdown)
  · obtain ⟨hidle, early, hlogged, hwriters, hquiet⟩ := h
    obtain ⟨hlines, hnews⟩ := news_of_idle hd hidle
    refine ⟨?_, early, ?_, hwriters, fun hdown => hquiet (hd.down hdown)⟩
    · rw [line, hlines]
      exact hidle
    · rw [hlog, hnews, hlogged]
      exact List.append_nil _
  · obtain ⟨agreed, hopened, hnone, hlogged⟩ := h
    exact ⟨agreed, opened_drifts hopened hd, hasked.trans hnone, hlogged.append hlog⟩
  · obtain ⟨agreed, hopened, hnone, hlogged⟩ := h
    exact ⟨agreed, opened_drifts hopened hd, hasked.trans hnone, hlogged.append hlog⟩
  · obtain ⟨agreed, hopened, hasking, hlogged⟩ := h
    refine ⟨agreed, opened_drifts hopened hd, ?_, hlogged.append hlog⟩
    rw [hasked]
    exact hasking
  · obtain ⟨agreed, hopened, hnone, hlogged⟩ := h
    exact ⟨agreed, opened_drifts hopened hd, hasked.trans hnone, hlogged.append hlog⟩
  · obtain ⟨agreed, hopened, hnone, hlogged⟩ := h
    exact ⟨agreed, opened_drifts hopened hd, hasked.trans hnone, hlogged.append hlog⟩
  · obtain ⟨agreed, hline, hending, hlogged⟩ := h
    exact ⟨agreed, hheard hline, hfarewells.trans hending, hlogged.append hlog⟩
  · obtain ⟨agreed, hline, hjoining, hlogged⟩ := h
    exact ⟨agreed, hheard hline, hfarewells.trans hjoining, hlogged.append hlog⟩
  · obtain ⟨agreed, hline, hidle, hlogged⟩ := h
    refine ⟨agreed, hheard hline, ?_, hlogged.append hlog⟩
    rw [line, (news_of_idle hd hidle).1]
    exact hidle
  · obtain ⟨agreed, hline, hidle, before, behind, hlogged⟩ := h
    obtain ⟨hlines, hnews⟩ := news_of_idle hd hidle
    refine ⟨agreed, hheard hline, ?_, before, behind, ?_⟩
    · rw [line, hlines]
      exact hidle
    · rw [hlog, hnews, hlogged, (hd.idle hidle).2]
      exact List.append_nil _

theorem stands_connect {met : Encounter} (hreachable : r.Reachable s)
    (hplace : r.place = .connecting) (h : r.Stands) (hs : r.connect s met = some r') :
    r'.Stands := by
  have ht := hreachable.traffic
  unfold Stands at h
  rw [hplace] at h
  obtain ⟨⟨call, hconnects⟩, hlogged⟩ := h
  -- A deed of the call that leaves it where it stands.
  have hdeed {deed : Deed} (hm : r.move .connecting (.task 1 deed) = some r')
      (hown : deed.isOwn = true)
      (htells : ∀ entry ∈ deed.tells r.line r.traffic.counters, entry.1 ≠ .caller)
      (hqueued : (r.line.after 1 r.traffic.counters deed).line.queued = r.line.queued)
      (hopen : (r.line.after 1 r.traffic.counters deed).line.isOpen = r.line.isOpen) :
      r'.Stands := by
    obtain ⟨t, hstep, rfl⟩ := move_eq_some hm
    simp only [Traffic.step] at hstep
    split at hstep
    · have hnext := hconnects.act hstep hown htells hqueued fun _ h => hopen.trans h
      exact ⟨⟨call, hnext⟩, hlogged.append rfl⟩
    · cases hstep
  have hadvance {t : Traffic} (hstep : r.traffic.step (.call (.advance 1 met)) = some t)
      (hjoined : ∀ e, call.stage = .joining e → r.line.isOpen = false) :
      Stands ⟨t, .behind call.stage, r.log ++ (r.traffic.news t).map .told⟩ := by
    obtain ⟨hleads, hnews⟩ := hconnects.advance ht hjoined hstep
    have hlog {place : Place} :
        IsUnreported ⟨t, place, r.log ++ (r.traffic.news t).map .told⟩ := hlogged.append rfl
    generalize call.stage = stage at hleads
    cases hleads with
    | fails hfails => exact ⟨hfails, hlog⟩
    | opens hopened hasked => exact ⟨_, hopened, hasked, hlog⟩
    | connects hnext hmidway =>
      have hbehind : Place.behind stage = .connecting := by
        cases stage with
        | failing e => cases hmidway
        | acknowledged => cases hmidway
        | _ => rfl
      rw [hbehind]
      exact ⟨⟨_, hnext⟩, hlog⟩
  unfold connect at hs
  rw [hconnects.calls] at hs
  dsimp only at hs
  split at hs
  · refine hdeed hs rfl ?_ rfl rfl
    intro entry hm
    obtain ⟨notice, -, rfl⟩ := List.mem_map.mp hm
    intro he
    cases he
  split at hs
  · refine hdeed hs rfl (fun entry hm => absurd hm List.not_mem_nil) ?_ ?_
    · simp only [Line.after]
      split <;> rfl
    · simp only [Line.after]
      split <;> rfl
  · next e _ hstage =>
    split at hs
    · cases hs
    · next hclosed =>
      obtain ⟨t, hstep, rfl⟩ := move_eq_some hs
      rw [← hstage]
      exact hadvance hstep fun _ _ => Bool.eq_false_iff.mpr hclosed
  · next hjoining _ =>
    obtain ⟨t, hstep, rfl⟩ := move_eq_some hs
    exact hadvance hstep fun e he => absurd he (hjoining e)

/-- The failure is told, and behind nothing but errors of writes. -/
theorem stands_failing {e : ApiError} (hreachable : r.Reachable s) (hplace : r.place = .failing e)
    (h : r.Stands) (hs : r.move (.failed e) (.task 1 .pay) = some r') : r'.Stands := by
  have hlogs : r.Logs := by
    obtain ⟨e', hfailed⟩ | hlogs := hreachable.logs
    · rw [hplace] at hfailed
      cases hfailed
    · exact hlogs
  unfold Stands at h
  rw [hplace] at h
  obtain ⟨hfails, early, hlogged⟩ := h
  have hcallbacks : r.callbacks = early := by rw [callbacks, hlogged, callbacks_told]
  have hperm := hlogs.perm
  rw [hcallbacks, hfails.outside, List.append_nil] at hperm
  obtain ⟨t, hstep, rfl⟩ := move_eq_some hs
  have hact : r.traffic.act 1 .pay = some t := hstep
  have hnews : r.traffic.news t = [e.notice ClientError.noRequest] := by
    rw [Traffic.news_act hact, Deed.tells, hfails.due]
    rfl
  obtain ⟨-, rfl⟩ := Traffic.act_eq_some hact
  refine ⟨?_, early, ?_, fun notice hm => ?_, fun hdown => ?_⟩
  · dsimp only [line]
    rw [Function.update_self]
    exact hfails.idle
  · rw [hnews, hlogged]
    rfl
  · obtain ⟨⟨teller, told⟩, hentry, rfl⟩ := List.mem_map.mp (hperm.mem_iff.mp hm)
    obtain rfl : teller = .writer := hfails.writers _ hentry
    obtain ⟨before, behind, hsplit⟩ := List.append_of_mem hentry
    have hfits := (hreachable.traffic.tells 1).fits before _ behind hsplit
    cases hfits with
    | unwritten reason => exact ⟨reason, rfl⟩
  · rw [line, hfails.undisturbed hdown] at hperm
    exact hperm.eq_nil

/-- A request comes to its end: it is refused, or its frame is in the queue. -/
theorem opened_submit {t t' : Traffic} {agreed : Handshake} {asking : Asking}
    (hasked : t.asked = [asking]) (hseen : ∀ x ∈ asking.seen.session, x.attempt = 1)
    (hs : t.step (.submit 0) = some t') (h : Opened t agreed) :
    Opened t' agreed ∧ t'.asked = [] := by
  simp only [Traffic.step, hasked, List.getElem?_cons_zero, List.eraseIdx_cons_zero] at hs
  have hact {deed : Deed} {session : Session} (hlive : asking.seen.live? = some session)
      (hown : deed.isOwn = true)
      (hstep : { t with asked := [] }.act session.attempt deed = some t') :
      Opened t' agreed ∧ t'.asked = [] := by
    rw [hseen session (Traffic.session_of_live? hlive)] at hstep
    obtain ⟨-, rfl⟩ := Traffic.act_eq_some hstep
    refine ⟨⟨?_, h.session, h.farewells⟩, rfl⟩
    dsimp only
    rw [Function.update_self]
    exact h.heard.mono (Line.heard_after hown _ 1 _)
  split at hs
  · split at hs
    · cases hs
      exact ⟨⟨h.heard, h.session, h.farewells⟩, rfl⟩
    · cases hs
  · next session hlive =>
    split at hs
    · exact hact hlive rfl hs
    · exact hact hlive rfl hs

theorem connects_start {down : Bool} {t : Traffic}
    (hs : Traffic.step { world := { client := { shutDown := down } } }
      (.call (.connect s.clientId)) = some t) : ∃ call, Connects t call := by
  cases hs
  exact ⟨_, rfl, rfl, rfl, rfl, rfl, fun entry hm => absurd hm List.not_mem_nil, trivial,
    fun _ => ⟨rfl, trivial⟩⟩

/-- The run looks whether the client was shut down before it began. -/
theorem stands_fresh {met : Encounter} (hplace : r.place = .fresh) (h : r.Stands)
    (hs : r.proceed s met = some r') : r'.Stands := by
  rw [Stands, hplace] at h
  obtain ⟨hnil, down, ht⟩ := h
  simp only [proceed, hplace] at hs
  split at hs
  · cases hs
    refine ⟨?_, [], ?_, fun notice hm => absurd hm List.not_mem_nil, fun _ => rfl⟩
    · rw [line, ht]
      rfl
    · rw [hnil]
      rfl
  · cases hs
    exact ⟨hnil, down, ht⟩

theorem stands_starting {met : Encounter} (hplace : r.place = .starting) (h : r.Stands)
    (hs : r.proceed s met = some r') : r'.Stands := by
  rw [Stands, hplace] at h
  obtain ⟨hnil, down, ht⟩ := h
  rw [proceed, hplace] at hs
  obtain ⟨t, hstep, rfl⟩ := move_eq_some hs
  have hlog : IsUnreported ⟨t, .connecting, r.log ++ (r.traffic.news t).map .told⟩ :=
    IsUnreported.append ⟨[], hnil⟩ rfl
  rw [ht] at hstep
  exact ⟨connects_start hstep, hlog⟩

theorem stands_reporting {met : Encounter} (hplace : r.place = .reporting) (h : r.Stands)
    (hs : r.proceed s met = some r') : r'.Stands := by
  rw [Stands, hplace] at h
  obtain ⟨agreed, hopened, hasked, before, hlogged⟩ := h
  rw [proceed, hplace] at hs
  cases hs
  refine ⟨agreed, ⟨hopened.heard, hopened.session, hopened.farewells⟩, hasked, before, [], ?_⟩
  obtain ⟨clientId, hsession⟩ := hopened.session
  dsimp only
  rw [hlogged, Run.opened, Client.serverVersion?, Client.connectionTime?, hsession]
  rfl

theorem stands_asking {met : Encounter} {requests : List Request}
    (hplace : r.place = .asking requests) (h : r.Stands) (hs : r.proceed s met = some r') :
    r'.Stands := by
  rw [Stands, hplace] at h
  obtain ⟨agreed, hopened, hasked, hlogged⟩ := h
  rw [proceed, hplace] at hs
  cases requests with
  | nil =>
    cases hs
    exact ⟨agreed, hopened, hasked, hlogged⟩
  | cons q rest =>
    obtain ⟨t, hstep, rfl⟩ := move_eq_some hs
    cases hstep
    refine ⟨agreed, ⟨hopened.heard, hopened.session, hopened.farewells⟩,
      ⟨⟨q, r.traffic.world.client⟩, ?_, ?_⟩, hlogged.append rfl⟩
    · dsimp only
      rw [hasked, List.nil_append]
    · obtain ⟨clientId, hsession⟩ := hopened.session
      intro x hx
      rw [hsession] at hx
      cases hx
      rfl

/-- The run goes on behind the tasks of its session once they have stopped. -/
theorem stands_joining {met : Encounter} (hreachable : r.Reachable s) (hplace : r.place = .joining)
    (h : r.Stands) (hs : r.proceed s met = some r') : r'.Stands := by
  rw [Stands, hplace] at h
  obtain ⟨agreed, hheard, hjoining, hlogged⟩ := h
  simp only [proceed, hplace] at hs
  split at hs
  · cases hs
  next hstopped =>
  rw [Bool.or_eq_true, not_or, Bool.not_eq_true, Bool.not_eq_true', Bool.not_eq_false] at hstopped
  obtain ⟨hopen, hhushed⟩ := hstopped
  obtain ⟨t, hstep, rfl⟩ := move_eq_some hs
  simp only [Traffic.step, World.step, World.sayFarewell, hjoining] at hstep
  cases hstep
  refine ⟨agreed, hheard, ?_, hlogged.append rfl⟩
  have hwriting := hreachable.traffic.writing_none 1 hopen
  change r.line.isIdle = true
  rw [Line.isIdle, hopen, hhushed, line, hwriting]
  rfl

/-- The main task leaves what holds of a run. -/
theorem stands_main {met : Encounter} (hreachable : r.Reachable s) (h : r.Stands)
    (hs : r.proceed s met = some r') : r'.Stands := by
  cases hplace : r.place with
  | fresh => exact stands_fresh hplace h hs
  | starting => exact stands_starting hplace h hs
  | connecting =>
    rw [proceed, hplace] at hs
    exact stands_connect hreachable hplace h hs
  | failing e =>
    rw [proceed, hplace] at hs
    exact stands_failing hreachable hplace h hs
  | reporting => exact stands_reporting hplace h hs
  | asking requests => exact stands_asking hplace h hs
  | submitting rest =>
    rw [Stands, hplace] at h
    rw [proceed, hplace] at hs
    obtain ⟨agreed, hopened, ⟨asking, hasked, hseen⟩, hlogged⟩ := h
    obtain ⟨t, hstep, rfl⟩ := move_eq_some hs
    obtain ⟨hnext, hnone⟩ := opened_submit hasked hseen hstep hopened
    exact ⟨agreed, hnext, hnone, hlogged.append rfl⟩
  | waiting =>
    rw [Stands, hplace] at h
    simp only [proceed, hplace] at hs
    split at hs
    · cases hs
      exact h
    · cases hs
  | parting =>
    rw [Stands, hplace] at h
    rw [proceed, hplace] at hs
    obtain ⟨agreed, hopened, hasked, hlogged⟩ := h
    obtain ⟨t, hstep, rfl⟩ := move_eq_some hs
    cases hstep
    refine ⟨agreed, hopened.heard, ?_, hlogged.append rfl⟩
    obtain ⟨clientId, hsession⟩ := hopened.session
    dsimp only
    rw [hopened.farewells, hsession]
    rfl
  | cancelling =>
    rw [Stands, hplace] at h
    rw [proceed, hplace] at hs
    obtain ⟨agreed, hheard, hending, hlogged⟩ := h
    obtain ⟨t, hstep, rfl⟩ := move_eq_some hs
    simp only [Traffic.step, World.step, World.sayFarewell, hending] at hstep
    cases hstep
    exact ⟨agreed, hheard, rfl, hlogged.append rfl⟩
  | joining => exact stands_joining hreachable hplace h hs
  | counting =>
    rw [Stands, hplace] at h
    rw [proceed, hplace] at hs
    obtain ⟨agreed, hheard, hidle, before, behind, hlogged⟩ := h
    cases hs
    refine ⟨agreed, hheard, hidle, before, behind, ?_⟩
    rw [← hlogged]
  | failed _ | finished =>
    rw [proceed, hplace] at hs
    cases hs

/-- What every step of a run keeps. -/
theorem Reachable.stands (h : r.Reachable s) : r.Stands := by
  obtain ⟨paces, hr⟩ := h
  have hall : r.Reachable s ∧ r.Stands := by
    refine run_induction (P := fun r => r.Reachable s ∧ r.Stands) ?_
      ⟨⟨[], rfl⟩, rfl, false, rfl⟩ hr
    intro v v' pace hv hs
    obtain ⟨hreachable, hstands⟩ := hv
    refine ⟨hreachable.step hs, ?_⟩
    by_cases hmain : ∃ met, pace = .main met
    · obtain ⟨met, rfl⟩ := hmain
      exact stands_main hreachable hstands hs
    · exact stands_background hreachable hstands (fun met he => hmain ⟨met, he⟩) hs
  exact hall.2

end Runner

end BrokerWire
