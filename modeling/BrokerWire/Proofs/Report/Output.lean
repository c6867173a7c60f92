import BrokerWire.Proofs.Report.Rehearsal

namespace BrokerWire

namespace Record

/-- The accounts that a text lists: what stands between its commas, without the blanks around it,
where that is not empty. -/
def accountNames (text : String) : List String :=
  (((text.toList.splitOn ',').map Blank.trim).filter (· ≠ [])).map String.ofList

/-- What the nine callbacks that are printed are printed as. -/
inductive Shows : Notice → Record → Prop
  | connectionClosed : Shows .connectionClosed .connectionClosed
  | nextValidId (orderId) : Shows (.nextValidId orderId) (.nextValidId orderId)
  | managedAccounts (text) : Shows (.managedAccounts text) (.managedAccounts (accountNames text))
  | error (reqId errorTime code message rejectJson) :
    Shows (.error reqId errorTime code message rejectJson) (.error reqId code message)
  | currentTime (time) : Shows (.currentTime time) (.currentTime time)
  | position (held : Position) :
    Shows (.position held)
      (.position held.account held.contract.symbol ((held.contract.secType.map Code.text).getD "")
        held.contract.currency held.contract.conId
        (held.position.map fun size => size.normalize.text) held.avgCost)
  | positionEnd : Shows .positionEnd .positionEnd
  | accountSummary (reqId account tag value currency) :
    Shows (.accountSummary reqId account tag value currency)
      (.accountSummary reqId account tag value currency)
  | accountSummaryEnd (reqId) : Shows (.accountSummaryEnd reqId) (.accountSummaryEnd reqId)

/-- Whether the records are those of the notices, in their order: one for each notice that is
printed, and none for the others. -/
inductive Displays : List Notice → List Record → Prop
  | nil : Displays [] []
  | shown {notice record notices records} (h : Shows notice record)
    (hrest : Displays notices records) : Displays (notice :: notices) (record :: records)
  | hidden {notice notices records} (h : ∀ record, ¬ Shows notice record)
    (hrest : Displays notices records) : Displays (notice :: notices) records

theorem partsBy_eq_filter (cut : Char → Bool) (part text : List Char) :
    Blank.partsBy cut part text = (text.splitOnPPrepend cut part).filter (· ≠ []) := by
  induction text generalizing part with
  | nil => simp [Blank.partsBy, List.splitOnPPrepend, List.filter_cons]
  | cons c text ih =>
    rw [Blank.partsBy, List.splitOnPPrepend]
    split
    · rw [List.filter_cons, ← ih]
      simp
    · exact ih (c :: part)

theorem accounts_eq (text : String) : accounts text = accountNames text := by
  rw [accounts, accountNames, Blank.parts, partsBy_eq_filter]
  change _ = (List.filter _ ((text.toList.splitOnPPrepend (· == ',') []).map Blank.trim)).map _
  induction text.toList.splitOnPPrepend (· == ',') [] with
  | nil => rfl
  | cons piece pieces ih =>
    by_cases hpiece : piece = []
    · subst hpiece
      simpa [Blank.trim] using ih
    · by_cases hname : Blank.trim piece = [] <;> simpa [hpiece, hname] using ih

theorem shows_iff {notice : Notice} {record : Record} :
    Shows notice record ↔ ofNotice notice = some record := by
  constructor
  · intro h
    cases h with
    | managedAccounts text =>
      change some (Record.managedAccounts (accounts text)) = _
      rw [accounts_eq]
    | _ => rfl
  · intro h
    cases notice with
    | managedAccounts text =>
      change some (Record.managedAccounts (accounts text)) = _ at h
      rw [accounts_eq] at h
      cases h
      exact .managedAccounts text
    | _ => cases h <;> constructor

theorem displays_records (notices : List Notice) : Displays notices (Run.records notices) := by
  induction notices with
  | nil => exact .nil
  | cons notice notices ih =>
    unfold Run.records
    cases h : ofNotice notice with
    | some record =>
      rw [List.filterMap_cons_some h]
      exact .shown (shows_iff.mpr h) ih
    | none =>
      rw [List.filterMap_cons_none h]
      refine .hidden (fun record hshows => ?_) ih
      rw [shows_iff.mp hshows] at h
      cases h

end Record

/-- Whether a record is one that a run reports itself. -/
def Record.isReport : Record → Bool
  | .connected _ _ => true
  | .stats _ => true
  | _ => false

theorem Record.isReport_ofNotice {notice : Notice} {record : Record}
    (h : ofNotice notice = some record) : record.isReport = false := by
  cases notice <;> cases h <;> rfl

theorem Record.connectionClosed_of_ofNotice {notice : Notice}
    (h : ofNotice notice = some .connectionClosed) : notice = .connectionClosed := by
  cases notice with
  | connectionClosed => rfl
  | _ => cases h

namespace Run

theorem filter_isReport_records (notices : List Notice) :
    (records notices).filter Record.isReport = [] := by
  refine List.filter_eq_nil_iff.mpr fun record hm => ?_
  obtain ⟨notice, -, hnotice⟩ := List.mem_filterMap.mp hm
  rw [Record.isReport_ofNotice hnotice]
  exact nofun

theorem count_records (notices : List Notice) :
    (records notices).count .connectionClosed = notices.count .connectionClosed := by
  induction notices with
  | nil => rfl
  | cons notice notices ih =>
    rw [records, List.filterMap_cons]
    rw [records] at ih
    cases hrecord : Record.ofNotice notice with
    | none =>
      have hother : notice ≠ .connectionClosed := by
        intro he
        subst he
        cases hrecord
      rw [List.count_cons_of_ne hother]
      exact ih
    | some record =>
      by_cases hclosed : notice = .connectionClosed
      · subst hclosed
        cases hrecord
        simp [ih]
      · have hother : record ≠ .connectionClosed := by
          intro he
          subst he
          exact hclosed (Record.connectionClosed_of_ofNotice hrecord)
        simp [hclosed, hother, ih]

end Run

namespace Traffic

theorem Reachable.outside_isRefusal {t : Traffic} (h : t.Reachable) :
    ∀ notice ∈ t.outside, IsRefusal notice := by
  obtain ⟨moves, hr⟩ := h
  refine run_induction (P := fun t => ∀ notice ∈ t.outside, IsRefusal notice) ?_
    (fun notice hm => absurd hm List.not_mem_nil) hr
  intro v v' move hv hs
  obtain hsame | ⟨refusal, hrefusal, hmore⟩ := (told_step hs 1).2
  · rw [hsame]
    exact hv
  · intro notice hm
    rw [hmore] at hm
    obtain hm | hm := List.mem_append.mp hm
    · exact hv notice hm
    · rw [List.mem_singleton.mp hm]
      exact hrefusal

end Traffic

namespace Runner

variable {s : Settings} {r r' : Runner}

/-- A run that has come to its end prints nothing more. -/
theorem step_of_idle (hidle : r.line.isIdle = true) (hover : ∀ met, r.proceed s met = none)
    {pace : Pace} (hs : r.step s pace = some r') :
    r'.place = r.place ∧ r'.log = r.log ∧ r'.traffic.counters = r.traffic.counters := by
  by_cases hmain : ∃ met, pace = .main met
  · obtain ⟨met, rfl⟩ := hmain
    cases (hover met).symm.trans hs
  · obtain ⟨hd, hplace, hlog⟩ := drifts_background (fun met he => hmain ⟨met, he⟩) hs
    refine ⟨hplace, ?_, (hd.idle hidle).2⟩
    rw [hlog, (news_of_idle hd hidle).2]
    exact List.append_nil _

theorem Reachable.count_callbacks (h : r.Reachable s) (hlogs : r.Logs) :
    r.callbacks.count .connectionClosed ≤ 1 := by
  have houtside : r.traffic.outside.count .connectionClosed = 0 := by
    refine List.count_eq_zero.mpr fun hm => ?_
    obtain ⟨c, queueOpen, q, code, text, -, he⟩ := h.traffic.outside_isRefusal _ hm
    cases he
  rw [hlogs.perm.count_eq, List.count_append, houtside, Nat.add_zero]
  exact h.traffic.count_told 1

theorem Reachable.printed_of_failed (h : r.Reachable s) {e : ApiError}
    (hplace : r.place = .failed e) :
    (∃ early : List Notice, r.printed = Run.records early ++ [failure e] ∧
      (∀ notice ∈ early, ∃ reason, notice = Outbox.failure reason) ∧
      (r.traffic.world.client.shutDown = false → early = [])) ∧
    ∀ pace r', r.step s pace = some r' → r'.place = .failed e ∧ r'.printed = r.printed := by
  have hstands := h.stands
  rw [Stands, hplace] at hstands
  obtain ⟨hidle, early, hlog, hwriters, hquiet⟩ := hstands
  refine ⟨⟨early, ?_, hwriters, hquiet⟩, fun pace next hs => ?_⟩
  · rw [printed, hlog, List.filterMap_append, printed_told]
    rfl
  · have hover : ∀ met, r.proceed s met = none := by
      intro met
      rw [proceed, hplace]
    obtain ⟨hsame, hlogged, -⟩ := step_of_idle hidle hover hs
    exact ⟨hsame.trans hplace, by rw [printed, printed, hlogged]⟩

theorem Reachable.printed_of_finished (h : r.Reachable s) (hplace : r.place = .finished) :
    (∃ (before behind : List Notice) (answer : Bytes) (agreed : Handshake),
      Handshake.Accepts answer agreed ∧ answer <+: r.line.heard ∧
      r.callbacks = before ++ behind ∧
      r.printed = Run.records before ++
        .connected (some agreed.serverVersion) (some agreed.connectionTime) ::
          (Run.records behind ++ [.stats r.traffic.counters])) ∧
    r.Logs ∧ r.printed.count .connectionClosed ≤ 1 ∧ r.line.isIdle = true ∧
    ∀ pace r', r.step s pace = some r' →
      r'.place = .finished ∧ r'.printed = r.printed ∧ r'.traffic.counters = r.traffic.counters := by
  have hstands := h.stands
  rw [Stands, hplace] at hstands
  obtain ⟨agreed, ⟨answer, haccepts, hprefix⟩, hidle, before, behind, hlog⟩ := hstands
  have hlogs : r.Logs := by
    obtain ⟨e, hfailed⟩ | hlogs := h.logs
    · rw [hplace] at hfailed
      cases hfailed
    · exact hlogs
  have hcallbacks : r.callbacks = before ++ behind := by
    rw [callbacks, hlog, List.append_assoc, List.filterMap_append, callbacks_told,
      List.cons_append, List.filterMap_cons_none rfl, List.filterMap_append, callbacks_told]
    exact congrArg _ (List.append_nil _)
  have hprinted : r.printed = Run.records before ++
      .connected (some agreed.serverVersion) (some agreed.connectionTime) ::
        (Run.records behind ++ [.stats r.traffic.counters]) := by
    have hreport : (connected agreed).record? =
        some (.connected (some agreed.serverVersion) (some agreed.connectionTime)) := rfl
    rw [printed, hlog, List.append_assoc, List.filterMap_append, printed_told,
      List.cons_append, List.filterMap_cons_some hreport, List.filterMap_append, printed_told]
    rfl
  have hcount : r.printed.count .connectionClosed ≤ 1 := by
    have honce := h.count_callbacks hlogs
    rw [hcallbacks, List.count_append] at honce
    simpa [hprinted, Run.count_records] using honce
  refine ⟨⟨before, behind, answer, agreed, haccepts, hprefix, hcallbacks, hprinted⟩, hlogs, hcount,
    hidle, fun pace next hs => ?_⟩
  have hover : ∀ met, r.proceed s met = none := by
    intro met
    rw [proceed, hplace]
  obtain ⟨hsame, hlogged, hcounters⟩ := step_of_idle hidle hover hs
  exact ⟨hsame.trans hplace, by rw [printed, printed, hlogged], hcounters⟩

end Runner

end BrokerWire
