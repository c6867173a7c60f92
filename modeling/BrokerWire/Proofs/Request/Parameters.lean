import BrokerWire.Proofs.Request.Placement
import BrokerWire.Proofs.Session.Issuing

namespace BrokerWire

namespace Request

open BrokerWire.Field
open BrokerWire.Order (since_of_lt since_of_le)

/-- The parameters of requests that servers take from a version on. -/
inductive Parameter where
  | regulatorySnapshot
  | smartDepth
  | primaryExchange
  | cancelledSmartDepth
  | tickCount
  | ignoreSize
  | keepUpToDate
  | articleOptions
  | newsOptions
  | cancelTime
  | cancelOperator
  | cancelIndicator
  | globalOperator
  | globalIndicator
  | lastNDays
  | specificDates
  | issuerId
  deriving DecidableEq

namespace Parameter

/-- The first version that takes a parameter. -/
def since : Parameter → ServerVersion
  | .regulatorySnapshot => Since.smartComponents
  | .smartDepth => Since.smartDepth
  | .primaryExchange => Since.depthPrimaryExchange
  | .cancelledSmartDepth => Since.smartDepth
  | .tickCount => Since.tickByTickLimits
  | .ignoreSize => Since.tickByTickLimits
  | .keepUpToDate => Since.syntheticBars
  | .articleOptions => Since.newsOrigins
  | .newsOptions => Since.newsOrigins
  | .cancelTime => Since.manualOrderTimes
  | .cancelOperator => Since.operatorTags
  | .cancelIndicator => Since.operatorTags
  | .globalOperator => Since.operatorTags
  | .globalIndicator => Since.operatorTags
  | .lastNDays => Since.executionDays
  | .specificDates => Since.executionDays
  | .issuerId => Since.bondIssuers

/-- A request with a parameter at its neutral value. Requests without the parameter stay as they
are. -/
def reset : Parameter → Request → Request
  | .regulatorySnapshot =>
    fun
    | .marketData id c ticks snapshot _ options => .marketData id c ticks snapshot false options
    | r => r
  | .smartDepth =>
    fun
    | .marketDepth id c rows _ options => .marketDepth id c rows false options
    | r => r
  | .primaryExchange =>
    fun
    | .marketDepth id c rows smart options =>
      .marketDepth id { c with primaryExchange := "" } rows smart options
    | r => r
  | .cancelledSmartDepth =>
    fun
    | .cancelMarketDepth id _ => .cancelMarketDepth id false
    | r => r
  | .tickCount =>
    fun
    | .tickByTick id c type _ ignoring => .tickByTick id c type 0 ignoring
    | r => r
  | .ignoreSize =>
    fun
    | .tickByTick id c type n _ => .tickByTick id c type n false
    | r => r
  | .keepUpToDate =>
    fun
    | .historicalData id c finish duration barSize subject regular format _ options =>
      .historicalData id c finish duration barSize subject regular format false options
    | r => r
  | .articleOptions =>
    fun
    | .newsArticle id provider article _ => .newsArticle id provider article []
    | r => r
  | .newsOptions =>
    fun
    | .historicalNews id conId providers start finish n _ =>
      .historicalNews id conId providers start finish n []
    | r => r
  | .cancelTime =>
    fun
    | .cancelOrder id c => .cancelOrder id { c with manualOrderCancelTime := "" }
    | r => r
  | .cancelOperator =>
    fun
    | .cancelOrder id c => .cancelOrder id { c with extOperator := "" }
    | r => r
  | .cancelIndicator =>
    fun
    | .cancelOrder id c => .cancelOrder id { c with manualOrderIndicator := none }
    | r => r
  | .globalOperator =>
    fun
    | .globalCancel c => .globalCancel { c with extOperator := "" }
    | r => r
  | .globalIndicator =>
    fun
    | .globalCancel c => .globalCancel { c with manualOrderIndicator := none }
    | r => r
  | .lastNDays =>
    fun
    | .executions id f => .executions id { f with lastNDays := none }
    | r => r
  | .specificDates =>
    fun
    | .executions id f => .executions id { f with specificDates := [] }
    | r => r
  | .issuerId =>
    fun
    | .contractDetails id c => .contractDetails id { c with issuerId := "" }
    | r => r

/-- Whether a parameter is checked before its request is sent. -/
def isChecked : Parameter → Bool
  | .keepUpToDate => false
  | .articleOptions => false
  | .newsOptions => false
  | _ => true

/-- Whether servers of a version are sent a parameter: it shows in the fields of some request. -/
def IsSent (p : Parameter) (sv : ServerVersion) : Prop :=
  ∃ r : Request, (p.reset r).fields sv ≠ r.fields sv

/-- A request with a parameter set. -/
def sample : Parameter → Request
  | .regulatorySnapshot => .marketData 0 {} "" false true []
  | .smartDepth => .marketDepth 0 {} 0 true []
  | .primaryExchange => .marketDepth 0 { primaryExchange := "exchange" } 0 false []
  | .cancelledSmartDepth => .cancelMarketDepth 0 true
  | .tickCount => .tickByTick 0 {} "" 1 false
  | .ignoreSize => .tickByTick 0 {} "" 0 true
  | .keepUpToDate => .historicalData 0 {} "" "" "" "" false 0 true []
  | .articleOptions => .newsArticle 0 "" "" [{ tag := "tag", value := "value" }]
  | .newsOptions => .historicalNews 0 0 "" "" "" 0 [{ tag := "tag", value := "value" }]
  | .cancelTime => .cancelOrder 0 { manualOrderCancelTime := "time" }
  | .cancelOperator => .cancelOrder 0 { extOperator := "operator" }
  | .cancelIndicator => .cancelOrder 0 { manualOrderIndicator := some 0 }
  | .globalOperator => .globalCancel { extOperator := "operator" }
  | .globalIndicator => .globalCancel { manualOrderIndicator := some 0 }
  | .lastNDays => .executions 0 { lastNDays := some 0 }
  | .specificDates => .executions 0 { specificDates := [0] }
  | .issuerId => .contractDetails 0 { issuerId := "issuer" }

end Parameter

theorem kind_reset (p : Parameter) (r : Request) : (p.reset r).kind = r.kind := by
  cases p <;> cases r <;> rfl

theorem id_reset (p : Parameter) (r : Request) : (p.reset r).id = r.id := by
  cases p <;> cases r <;> rfl

/-- Servers before the version of a parameter are sent nothing of it. -/
theorem fields_reset {p : Parameter} {sv : ServerVersion} (hsv : sv < p.since) (r : Request) :
    (p.reset r).fields sv = r.fields sv := by
  have hnone := since_of_lt hsv
  cases p
  case globalOperator | globalIndicator =>
    have hold : ¬ Since.operatorTags ≤ sv := Int.not_le.mpr hsv
    cases r with
    | globalCancel c => simp only [Parameter.reset, fields, if_neg hold]
    | _ => rfl
  all_goals
    simp only [Parameter.since] at hnone
    cases r
    all_goals first
      | rfl
      | simp only [Parameter.reset, fields, marketDataFields, marketDepthFields, executionFields,
          historicalFields, OrderCancel.fields, OrderCancel.operatorFields, contract, hnone]

/-- Servers from the version of a parameter on are sent it. -/
theorem fields_reset_sample (p : Parameter) {sv : ServerVersion} (hsv : p.since ≤ sv) :
    (p.reset p.sample).fields sv ≠ p.sample.fields sv := by
  intro h
  have hall := since_of_le hsv
  cases p
  case globalOperator | globalIndicator =>
    have hnew : Since.operatorTags ≤ sv := hsv
    simp only [Parameter.sample, Parameter.reset, fields, if_pos hnew] at h
    revert h
    decide
  all_goals
    simp only [Parameter.since] at hall
    simp only [Parameter.sample, Parameter.reset, fields, marketDataFields, marketDepthFields,
      executionFields, historicalFields, OrderCancel.fields, OrderCancel.operatorFields, hall,
      List.append_cancel_right_eq, List.append_cancel_left_eq] at h
    revert h
    decide

theorem Parameter.isSent_iff {p : Parameter} {sv : ServerVersion} :
    p.IsSent sv ↔ p.since ≤ sv := by
  constructor
  · rintro ⟨r, hne⟩
    by_contra hsv
    exact hne (fields_reset (Int.not_le.mp hsv) r)
  · intro hsv
    exact ⟨p.sample, fields_reset_sample p hsv⟩

/-- A request whose needs are met has each checked parameter that the server does not take at its
neutral value. -/
theorem reset_of_needs {r : Request} {sv : ServerVersion}
    (h : ∀ need ∈ r.needs, need.isMet sv = true) {p : Parameter} (hchecked : p.isChecked = true)
    (hsv : sv < p.since) : p.reset r = r := by
  cases p with
  | keepUpToDate | articleOptions | newsOptions => cases hchecked
  | regulatorySnapshot =>
    cases r with
    | marketData id c ticks snapshot regulatory options =>
      have hneutral : regulatory = false := Need.isMet_when.mp h hsv
      rw [hneutral]
      rfl
    | _ => rfl
  | smartDepth =>
    cases r with
    | marketDepth id c rows smart options =>
      have hsmart := (List.forall_mem_append.mp h).1
      have hneutral : smart = false := Need.isMet_when.mp hsmart hsv
      rw [hneutral]
      rfl
    | _ => rfl
  | primaryExchange =>
    cases r with
    | marketDepth id c rows smart options =>
      have hexchange := Need.isMet_when.mp (List.forall_mem_append.mp h).2 hsv
      have hneutral : c.primaryExchange = "" := by simpa using hexchange
      simp only [Parameter.reset]
      rw [← hneutral]
    | _ => rfl
  | cancelledSmartDepth =>
    cases r with
    | cancelMarketDepth id smart =>
      have hneutral : smart = false := Need.isMet_when.mp h hsv
      rw [hneutral]
      rfl
    | _ => rfl
  | tickCount =>
    cases r with
    | tickByTick id c type n ignoring =>
      have hlimits := Need.isMet_when.mp (List.forall_mem_cons.mp h).2 hsv
      have hneutral : n = 0 := by simpa using (Bool.or_eq_false_iff.mp hlimits).1
      rw [hneutral]
      rfl
    | _ => rfl
  | ignoreSize =>
    cases r with
    | tickByTick id c type n ignoring =>
      have hlimits := Need.isMet_when.mp (List.forall_mem_cons.mp h).2 hsv
      have hneutral : ignoring = false := (Bool.or_eq_false_iff.mp hlimits).2
      rw [hneutral]
      rfl
    | _ => rfl
  | cancelTime =>
    cases r with
    | cancelOrder id c =>
      have htime := Need.isMet_when.mp (List.forall_mem_append.mp h).1 hsv
      have hneutral : c.manualOrderCancelTime = "" := by simpa using htime
      simp only [Parameter.reset]
      rw [← hneutral]
    | _ => rfl
  | cancelOperator =>
    cases r with
    | cancelOrder id c =>
      have hoperator := Need.isMet_when.mp (List.forall_mem_append.mp h).2 hsv
      have hneutral : c.extOperator = "" := by simpa using (Bool.or_eq_false_iff.mp hoperator).1
      simp only [Parameter.reset]
      rw [← hneutral]
    | _ => rfl
  | cancelIndicator =>
    cases r with
    | cancelOrder id c =>
      have hoperator := Need.isMet_when.mp (List.forall_mem_append.mp h).2 hsv
      have hneutral : c.manualOrderIndicator = none := by
        simpa using (Bool.or_eq_false_iff.mp hoperator).2
      simp only [Parameter.reset]
      rw [← hneutral]
    | _ => rfl
  | globalOperator =>
    cases r with
    | globalCancel c =>
      have hoperator := Need.isMet_when.mp h hsv
      have hneutral : c.extOperator = "" := by simpa using (Bool.or_eq_false_iff.mp hoperator).1
      simp only [Parameter.reset]
      rw [← hneutral]
    | _ => rfl
  | globalIndicator =>
    cases r with
    | globalCancel c =>
      have hoperator := Need.isMet_when.mp h hsv
      have hneutral : c.manualOrderIndicator = none := by
        simpa using (Bool.or_eq_false_iff.mp hoperator).2
      simp only [Parameter.reset]
      rw [← hneutral]
    | _ => rfl
  | lastNDays =>
    cases r with
    | executions id f =>
      have hdays := Need.isMet_when.mp h hsv
      have hneutral : f.lastNDays = none := by simpa using (Bool.or_eq_false_iff.mp hdays).1
      simp only [Parameter.reset]
      rw [← hneutral]
    | _ => rfl
  | specificDates =>
    cases r with
    | executions id f =>
      have hdays := Need.isMet_when.mp h hsv
      have hneutral : f.specificDates = [] := by simpa using (Bool.or_eq_false_iff.mp hdays).2
      simp only [Parameter.reset]
      rw [← hneutral]
    | _ => rfl
  | issuerId =>
    cases r with
    | contractDetails id c =>
      have hissuer := Need.isMet_when.mp h hsv
      have hneutral : c.issuerId = "" := by simpa using hissuer
      simp only [Parameter.reset]
      rw [← hneutral]
    | _ => rfl

/-- What is not checked is no reason to refuse a request. -/
theorem needs_reset {p : Parameter} (hunchecked : p.isChecked = false) (r : Request) :
    (p.reset r).needs = r.needs := by
  cases p with
  | keepUpToDate | articleOptions | newsOptions => cases r <;> rfl
  | _ => cases hunchecked

theorem message_reset {p : Parameter} {sv : ServerVersion} (hsv : sv < p.since) (r : Request) :
    (p.reset r).message sv = r.message sv := by
  rw [message, message, kind_reset, fields_reset hsv]

end Request

namespace Client

open Request

theorem request_outdated {c : Client} {s : Session} (hlive : c.live? = some s) {r : Request}
    {need : Need} (hunmet : r.unmet? s.serverVersion = some need) (queueOpen : Bool) :
    c.request queueOpen r = .error (.error r.id 0 503
      ("The TWS is out of date and must be upgraded. " ++ need.report) "") := by
  simp only [request, hlive, hunmet]
  rw [ClientError.notice_detail _ _ need.report_ne_empty]
  rfl

/-- Parameters are sent from their versions on. A checked one that the server is not sent is at its
neutral value if a frame goes out; at any other, the request is refused with a need that the server
does not meet. The others are not checked: the request is taken as if it were without them. -/
theorem request_parameter {c : Client} {s : Session} (hlive : c.live? = some s)
    (queueOpen : Bool) (r : Request) (p : Parameter) :
    (p.IsSent s.serverVersion ↔ p.since ≤ s.serverVersion) ∧
    (¬ p.IsSent s.serverVersion → p.isChecked = true →
      (∀ frame, c.request queueOpen r = .ok frame → p.reset r = r) ∧
      (p.reset r ≠ r → ∃ need ∈ r.needs, s.serverVersion < need.since ∧
        c.request queueOpen r = .error (.error r.id 0 503
          ("The TWS is out of date and must be upgraded. " ++ need.report) ""))) ∧
    (¬ p.IsSent s.serverVersion → p.isChecked = false →
      c.request queueOpen (p.reset r) = c.request queueOpen r) := by
  refine ⟨Parameter.isSent_iff, fun hsent hchecked => ⟨fun frame hok => ?_, fun hset => ?_⟩,
    fun hsent hunchecked => ?_⟩
  all_goals rw [Parameter.isSent_iff, Int.not_le] at hsent
  · obtain ⟨-, other, hother, hneeds, -, -⟩ := request_eq_ok_iff.mp hok
    rw [hlive] at hother
    cases hother
    exact reset_of_needs hneeds hchecked hsent
  · cases hunmet : r.unmet? s.serverVersion with
    | none =>
      have hneeds := (r.unmet?_eq_none_iff s.serverVersion).mp hunmet
      exact absurd (reset_of_needs hneeds hchecked hsent) hset
    | some need =>
      have hmissing : s.serverVersion < need.since := by
        simpa [Need.isMet] using List.find?_some hunmet
      exact ⟨need, List.mem_of_find?_eq_some hunmet, hmissing,
        request_outdated hlive hunmet queueOpen⟩
  · have hneeds : (p.reset r).unmet? s.serverVersion = r.unmet? s.serverVersion := by
      rw [unmet?, unmet?, needs_reset hunchecked]
    simp only [request, hlive, hneeds, message_reset hsent, id_reset]

/-- A request for bars that are to be kept up to date. -/
def keptUpToDate : Request :=
  .historicalData 7 {} "" "1 D" "1 min" "TRADES" true 1 true []

/-- A request for the rows of several exchanges. -/
def combinedDepth : Request :=
  .marketDepth 7 {} 5 true []

/-- The oldest servers take no combined depth, and nothing is sent. -/
theorem request_parameter_smartDepth :
    ofOldest.live? = some ⟨1, 100, "", 0⟩ ∧
      ¬ Parameter.smartDepth.IsSent 100 ∧ Parameter.smartDepth.reset combinedDepth ≠ combinedDepth ∧
      ∃ need ∈ combinedDepth.needs, 100 < need.since ∧
        ofOldest.request true combinedDepth = .error (.error 7 0 503
          ("The TWS is out of date and must be upgraded. " ++ need.report) "") := by
  have hlive : ofOldest.live? = some ⟨1, 100, "", 0⟩ := rfl
  obtain ⟨hversion, hchecked, -⟩ :=
    request_parameter hlive true combinedDepth Parameter.smartDepth
  have hsent : ¬ Parameter.smartDepth.IsSent 100 := by
    rw [hversion]
    decide
  have hset : Parameter.smartDepth.reset combinedDepth ≠ combinedDepth := by decide
  exact ⟨hlive, hsent, hset, (hchecked hsent rfl).2 hset⟩

/-- The oldest servers take no bars that are kept up to date, and yet a request for them goes out,
as one for bars that are not. -/
theorem request_drops_parameter :
    ofOldest.live?.map Session.serverVersion = some 100 ∧
      ¬ Parameter.keepUpToDate.IsSent 100 ∧
      Parameter.keepUpToDate.reset keptUpToDate ≠ keptUpToDate ∧
      ∃ frame, ofOldest.request true keptUpToDate = .ok frame ∧
        ofOldest.request true (Parameter.keepUpToDate.reset keptUpToDate) = .ok frame := by
  have hok : ofOldest.request true keptUpToDate =
      .ok (Frame.octets (keptUpToDate.message 100).payload) := by
    rw [request_eq_ok_iff]
    refine ⟨rfl, _, rfl, by decide, ?_, rfl⟩
    rw [Message.length_payload]
    decide
  have hold : (100 : ServerVersion) < Parameter.keepUpToDate.since := by decide
  refine ⟨rfl, ?_, by decide, _, hok, ?_⟩
  · rw [Parameter.isSent_iff, Int.not_le]
    exact hold
  · have hmessage : (Parameter.keepUpToDate.reset keptUpToDate).message 100 =
        keptUpToDate.message 100 := message_reset hold keptUpToDate
    rw [request_eq_ok_iff]
    refine ⟨rfl, _, rfl, by decide, ?_,
      congrArg (fun m => Frame.octets m.payload) hmessage.symm⟩
    rw [Message.length_payload]
    decide

end Client

end BrokerWire
