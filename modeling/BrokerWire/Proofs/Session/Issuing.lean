import BrokerWire.Proofs.Request.Admission
import BrokerWire.Session.Outbox

namespace BrokerWire

/-- Whether a server has all that a request needs. -/
def Request.IsServed (r : Request) (sv : ServerVersion) : Prop :=
  ∀ need ∈ r.needs, need.since ≤ sv

instance (r : Request) (sv : ServerVersion) : Decidable (r.IsServed sv) :=
  inferInstanceAs (Decidable (∀ need ∈ r.needs, need.since ≤ sv))

/-- The octets of a request's message. -/
def Request.octets (r : Request) (sv : ServerVersion) : Bytes :=
  (r.message sv).payload

/-- The codes and texts that a request is refused with, each with the check that failed behind those
that did not. -/
inductive Refuses (c : Client) (queueOpen : Bool) (r : Request) : Int32 → String → Prop
  | unconnected (hlive : c.live? = none) : Refuses c queueOpen r 504 "Not connected"
  | outdated {s : Session} {need : Need} (hlive : c.live? = some s) (hneed : need ∈ r.needs)
    (hold : s.serverVersion < need.since) :
    Refuses c queueOpen r 503
      ("The TWS is out of date and must be upgraded." ++ " " ++ need.report)
  | tooLong {s : Session} (hlive : c.live? = some s) (hserved : r.IsServed s.serverVersion)
    (hlong : maxPayload < (r.octets s.serverVersion).length) :
    Refuses c queueOpen r 508 ("Bad message" ++ " " ++
      ("Encoding error: " ++ (FrameFault.tooLong (r.octets s.serverVersion).length).message))
  | closed {s : Session} (hlive : c.live? = some s) (hserved : r.IsServed s.serverVersion)
    (hfits : (r.octets s.serverVersion).length ≤ maxPayload) (hclosed : queueOpen = false) :
    Refuses c queueOpen r 504 "Not connected"

/-- Whether a request leads to the frame of a payload: none of the checks fails. -/
structure Accepts (c : Client) (queueOpen : Bool) (r : Request) (payload : Bytes) : Prop where
  isServed : ∃ s, c.live? = some s ∧ r.IsServed s.serverVersion ∧ payload = r.octets s.serverVersion
  length_le : payload.length ≤ maxPayload
  isOpen : queueOpen = true

namespace ClientError

theorem notice_plain (e : ClientError) (id : Int32) :
    e.notice id "" = .error id 0 e.code e.message "" := by
  rw [notice, withDetail, if_pos rfl]

theorem notice_detail (e : ClientError) (id : Int32) {detail : String} (h : detail ≠ "") :
    e.notice id detail = .error id 0 e.code (e.message ++ " " ++ detail) "" := by
  rw [notice, withDetail, if_neg h]

end ClientError

theorem Need.report_ne_empty (need : Need) : need.report ≠ "" := by
  intro h
  obtain ⟨hfront, -⟩ := String.append_eq_empty_iff.mp h
  obtain ⟨hfixed, -⟩ := String.append_eq_empty_iff.mp hfront
  revert hfixed
  decide

theorem ApiError.display_encoding_ne_empty (detail : String) :
    (ApiError.encoding detail).display ≠ "" := by
  intro h
  obtain ⟨hfixed, -⟩ := String.append_eq_empty_iff.mp h
  revert hfixed
  decide

namespace Client

theorem isServed_iff {r : Request} {sv : ServerVersion} : r.IsServed sv ↔ r.unmet? sv = none := by
  rw [Request.unmet?_eq_none_iff]
  simp only [Request.IsServed, Need.isMet, decide_eq_true_eq]

theorem encode_octets {r : Request} {sv : ServerVersion} :
    (r.message sv).encode =
      if maxPayload < (r.octets sv).length then .error (.tooLong (r.octets sv).length)
      else .ok (Frame.octets (r.octets sv)) :=
  Message.encode_eq (r.message sv)

/-- What a request comes to at a client. -/
theorem request_cases (c : Client) (queueOpen : Bool) (r : Request) :
    (∃ payload, c.request queueOpen r = .ok (Frame.octets payload) ∧
      Accepts c queueOpen r payload) ∨
    ∃ code text, c.request queueOpen r = .error (.error r.id 0 code text "") ∧
      Refuses c queueOpen r code text := by
  unfold request
  cases hlive : c.live? with
  | none =>
    dsimp only
    rw [ClientError.notice_plain]
    exact .inr ⟨_, _, rfl, .unconnected hlive⟩
  | some s =>
    dsimp only
    cases hunmet : r.unmet? s.serverVersion with
    | some need =>
      have hneed : need ∈ r.needs := List.mem_of_find?_eq_some hunmet
      have hold : s.serverVersion < need.since := by
        simpa [Need.isMet] using List.find?_some hunmet
      dsimp only
      rw [ClientError.notice_detail _ _ need.report_ne_empty]
      exact .inr ⟨_, _, rfl, .outdated hlive hneed hold⟩
    | none =>
      have hserved := isServed_iff.mpr hunmet
      rw [encode_octets]
      by_cases hlong : maxPayload < (r.octets s.serverVersion).length
      · rw [if_pos hlong]
        dsimp only [ApiError.ofFrame, ApiError.notice]
        rw [ClientError.notice_detail _ _ (ApiError.display_encoding_ne_empty _)]
        exact .inr ⟨_, _, rfl, .tooLong hlive hserved hlong⟩
      · rw [if_neg hlong]
        have hfits := Nat.not_lt.mp hlong
        cases hopen : queueOpen with
        | true => exact .inl ⟨_, rfl, ⟨s, hlive, hserved, rfl⟩, hfits, rfl⟩
        | false =>
          rw [ClientError.notice_plain]
          exact .inr ⟨_, _, rfl, .closed hlive hserved hfits rfl⟩

end Client

/-- The kinds of requests that have no number of their own. -/
def Outbound.numberless : List Outbound :=
  [
    .reqMarketDataType, .reqOpenOrders, .reqAllOpenOrders, .reqAutoOpenOrders, .reqCompletedOrders,
    .reqIds, .reqGlobalCancel, .reqAcctData, .reqPositions, .cancelPositions, .reqNewsProviders,
    .reqCurrentTime, .reqCurrentTimeInMillis, .reqManagedAccts, .reqFamilyCodes, .reqMarketRule,
    .setServerLoglevel
  ]

namespace Request

/-- The request, ticker or order number that a call is made with, method by method. -/
inductive IsNumbered : Request → Int32 → Prop
  | marketData (tickerId c ticks snapshot regulatory options) :
    IsNumbered (.marketData tickerId c ticks snapshot regulatory options) tickerId
  | cancelMarketData (tickerId) : IsNumbered (.cancelMarketData tickerId) tickerId
  | marketDepth (tickerId c rows smart options) :
    IsNumbered (.marketDepth tickerId c rows smart options) tickerId
  | cancelMarketDepth (tickerId smart) : IsNumbered (.cancelMarketDepth tickerId smart) tickerId
  | tickByTick (reqId c tickType n ignoreSize) :
    IsNumbered (.tickByTick reqId c tickType n ignoreSize) reqId
  | cancelTickByTick (reqId) : IsNumbered (.cancelTickByTick reqId) reqId
  | placeOrder (orderId c o) : IsNumbered (.placeOrder orderId c o) orderId
  | cancelOrder (orderId c) : IsNumbered (.cancelOrder orderId c) orderId
  | executions (reqId filter) : IsNumbered (.executions reqId filter) reqId
  | contractDetails (reqId c) : IsNumbered (.contractDetails reqId c) reqId
  | matchingSymbols (reqId pattern) : IsNumbered (.matchingSymbols reqId pattern) reqId
  | optionChain (reqId symbol exchange secType conId) :
    IsNumbered (.optionChain reqId symbol exchange secType conId) reqId
  | historicalData (tickerId c finish duration barSize subject regularHours dateFormat keep options) :
    IsNumbered (.historicalData tickerId c finish duration barSize subject regularHours dateFormat
      keep options) tickerId
  | cancelHistoricalData (tickerId) : IsNumbered (.cancelHistoricalData tickerId) tickerId
  | headTimestamp (tickerId c subject regularHours dateFormat) :
    IsNumbered (.headTimestamp tickerId c subject regularHours dateFormat) tickerId
  | historicalTicks (reqId c start finish n subject regularHours ignoreSize options) :
    IsNumbered (.historicalTicks reqId c start finish n subject regularHours ignoreSize options)
      reqId
  | realTimeBars (tickerId c barSize subject regularHours options) :
    IsNumbered (.realTimeBars tickerId c barSize subject regularHours options) tickerId
  | cancelRealTimeBars (tickerId) : IsNumbered (.cancelRealTimeBars tickerId) tickerId
  | accountSummary (reqId group tags) : IsNumbered (.accountSummary reqId group tags) reqId
  | cancelAccountSummary (reqId) : IsNumbered (.cancelAccountSummary reqId) reqId
  | profit (reqId account model) : IsNumbered (.profit reqId account model) reqId
  | cancelProfit (reqId) : IsNumbered (.cancelProfit reqId) reqId
  | positionProfit (reqId account model conId) :
    IsNumbered (.positionProfit reqId account model conId) reqId
  | cancelPositionProfit (reqId) : IsNumbered (.cancelPositionProfit reqId) reqId
  | newsArticle (reqId provider article options) :
    IsNumbered (.newsArticle reqId provider article options) reqId
  | historicalNews (reqId conId providers start finish n options) :
    IsNumbered (.historicalNews reqId conId providers start finish n options) reqId
  | userInfo (reqId) : IsNumbered (.userInfo reqId) reqId

/-- Whether errors about a request have a number: the one of the call, or -1 if it has none. -/
def ReportsAs (r : Request) (number : Int32) : Prop :=
  r.IsNumbered number ∨ r.kind ∈ Outbound.numberless ∧ number = -1

variable {r : Request} {number : Int32}

theorem kind_not_mem_numberless (h : r.IsNumbered number) : r.kind ∉ Outbound.numberless := by
  cases h <;> simp [kind, Outbound.numberless]

theorem id_of_isNumbered (h : r.IsNumbered number) : r.id = number := by
  cases h <;> rfl

theorem isNumbered_id (h : r.kind ∉ Outbound.numberless) : r.IsNumbered r.id := by
  cases r
  all_goals first
    | constructor
    | simp [kind, Outbound.numberless] at h

theorem id_of_mem_numberless (h : r.kind ∈ Outbound.numberless) : r.id = -1 := by
  cases r
  all_goals first
    | rfl
    | simp [kind, Outbound.numberless] at h

theorem reportsAs_iff : r.ReportsAs number ↔ number = r.id := by
  constructor
  · rintro (hnumbered | ⟨hkind, rfl⟩)
    · exact (id_of_isNumbered hnumbered).symm
    · exact (id_of_mem_numberless hkind).symm
  · rintro rfl
    by_cases hkind : r.kind ∈ Outbound.numberless
    · exact .inr ⟨hkind, id_of_mem_numberless hkind⟩
    · exact .inl (isNumbered_id hkind)

theorem mem_take_two_behind (version sv : ServerVersion) (field other : String)
    (fields : List String) : field ∈ (Field.before version sv [other] ++ field :: fields).take 2 := by
  unfold Field.before
  split <;> simp

/-- The number of a call is sent to the server, in front or behind the version of the message. -/
theorem int_mem_take_two (h : r.IsNumbered number) (sv : ServerVersion) :
    Field.int number ∈ (r.fields sv).take 2 := by
  cases h
  case placeOrder =>
    simp only [fields, Order.fields, List.append_assoc, List.cons_append]
    exact mem_take_two_behind ..
  case cancelOrder =>
    simp only [fields, OrderCancel.fields, List.append_assoc, List.cons_append]
    exact mem_take_two_behind ..
  case historicalData =>
    simp only [fields, historicalFields, List.append_assoc, List.cons_append]
    exact mem_take_two_behind ..
  all_goals
    simp [fields, marketDataFields, marketDepthFields, executionFields]

end Request

/-- A client and the sending side of the session that its requests go to. The queue is closed once
nobody takes frames from it any more. -/
structure Station where
  client : Client := {}
  outbox : Outbox := {}
  queueOpen : Bool := true
  deriving DecidableEq

namespace Station

/-- Carries out a call. The call looks at the client once, when it begins; its frame may have to
wait for room in the queue, and then the station is the one that it finds when the wait is over. -/
def issue? (st : Station) (c : Client) (r : Request) : Option Station :=
  match c.request st.queueOpen r with
  | .error notice => some { st with outbox.notices := st.outbox.notices ++ [notice] }
  | .ok frame => (st.outbox.push? frame).map fun outbox => { st with outbox := outbox }

/-- One frame more stands at the end of the queue, and nothing else has changed. Its header is the
length of its payload, and a scanner hands that payload out. -/
def Takes (st : Station) (c : Client) (r : Request) (st' : Station) : Prop :=
  ∃ payload, Accepts c st.queueOpen r payload ∧
    Frame.announced? (Frame.octets payload) = some payload.length ∧
    (Scanner.push {} (Frame.octets payload)).next = (.ok (some payload), {}) ∧
    st' = { st with outbox.queue := st.outbox.queue ++ [Frame.octets payload] }

/-- One error more is told, with the number of the call, and nothing else has changed. -/
def Rejects (st : Station) (c : Client) (r : Request) (st' : Station) : Prop :=
  ∃ number code text, r.ReportsAs number ∧ Refuses c st.queueOpen r code text ∧
    st' = { st with outbox.notices := st.outbox.notices ++ [.error number 0 code text ""] }

variable {st st' : Station} {c : Client} {r : Request}

theorem not_takes_of_rejects (h : Rejects st c r st') : ¬ Takes st c r st' := by
  rintro ⟨payload, -, -, -, htakes⟩
  obtain ⟨number, code, text, -, -, hrejects⟩ := h
  have hnotices := congrArg (fun s : Station => s.outbox.notices.length)
    (htakes.symm.trans hrejects)
  simp at hnotices

theorem takes_of_accepts {payload : Bytes} (h : Accepts c st.queueOpen r payload) :
    Takes st c r
      { st with outbox.queue := st.outbox.queue ++ [Frame.octets payload] } := by
  refine ⟨payload, h, ?_, ?_, rfl⟩
  · have hheader := Frame.announced?_octets payload [] h.length_le
    rwa [List.append_nil] at hheader
  · have hnext := Scanner.next_octets payload [] h.length_le
    rwa [List.append_nil] at hnext

theorem issue?_of_refuses {code : Int32} {text : String}
    (h : c.request st.queueOpen r = .error (.error r.id 0 code text "")) :
    st.issue? c r = some
      { st with outbox.notices := st.outbox.notices ++ [.error r.id 0 code text ""] } := by
  rw [issue?, h]

theorem issue?_of_accepts {payload : Bytes}
    (h : c.request st.queueOpen r = .ok (Frame.octets payload)) :
    st.issue? c r =
      if st.outbox.queue.length < Outbox.capacity then
        some { st with outbox.queue := st.outbox.queue ++ [Frame.octets payload] }
      else none := by
  simp only [issue?, h, Outbox.push?]
  split <;> rfl

/-- A call waits as long as the queue is full, and only for a request that nothing is wrong with.
Otherwise it puts exactly one frame into the queue, or tells exactly one error. -/
theorem issue_outcome (st : Station) (c : Client) (r : Request) :
    (st.issue? c r = none →
      Outbox.capacity ≤ st.outbox.queue.length ∧
        ∃ payload, Accepts c st.queueOpen r payload) ∧
    (∀ st', st.issue? c r = some st' → Xor (Takes st c r st') (Rejects st c r st')) ∧
    (∃! number, r.ReportsAs number) ∧
    ∀ number, r.IsNumbered number →
      r.kind ∉ Outbound.numberless ∧ ∀ sv, Field.int number ∈ (r.fields sv).take 2 := by
  refine ⟨?_, ?_, ⟨r.id, Request.reportsAs_iff.mpr rfl, fun _ => Request.reportsAs_iff.mp⟩,
    fun _ h => ⟨Request.kind_not_mem_numberless h, Request.int_mem_take_two h⟩⟩
  · intro hwait
    obtain ⟨payload, hok, haccepts⟩ | ⟨code, text, herror, -⟩ := c.request_cases st.queueOpen r
    · rw [issue?_of_accepts hok] at hwait
      refine ⟨?_, payload, haccepts⟩
      by_contra hroom
      rw [if_pos (Nat.not_le.mp hroom)] at hwait
      cases hwait
    · rw [issue?_of_refuses herror] at hwait
      cases hwait
  · intro st' hdone
    obtain ⟨payload, hok, haccepts⟩ | ⟨code, text, herror, hrefuses⟩ :=
      c.request_cases st.queueOpen r
    · have htakes : Takes st c r st' := by
        rw [issue?_of_accepts hok] at hdone
        split at hdone
        · cases hdone
          exact takes_of_accepts haccepts
        · cases hdone
      exact .inl ⟨htakes, fun hrejects => not_takes_of_rejects hrejects htakes⟩
    · have hrejects : Rejects st c r st' := by
        rw [issue?_of_refuses herror] at hdone
        cases hdone
        exact ⟨_, code, text, Request.reportsAs_iff.mpr rfl, hrefuses, rfl⟩
      exact .inr ⟨hrejects, not_takes_of_rejects hrejects⟩

/-- A client with a session. -/
def stock : Client :=
  { phase := .connected, session := some ⟨1, 176, "20240102 10:00:00 EST", 7⟩ }

/-- Asked for the time, the client of a session puts a frame into the queue, and one without a
session tells an error, which has the number of the call if there is one. -/
theorem issue_outcome_currentTime :
    (Xor
      (Takes {} stock .currentTime
        { outbox := { queue := [[0, 0, 0, 5, 52, 57, 0, 49, 0]] } })
      (Rejects {} stock .currentTime
        { outbox := { queue := [[0, 0, 0, 5, 52, 57, 0, 49, 0]] } })) ∧
    Xor
      (Takes {} {} .currentTime { outbox := { notices := [.error (-1) 0 504 "Not connected" ""] } })
      (Rejects {} {} .currentTime
        { outbox := { notices := [.error (-1) 0 504 "Not connected" ""] } }) ∧
    Xor
      (Takes {} {} (.cancelMarketData 7)
        { outbox := { notices := [.error 7 0 504 "Not connected" ""] } })
      (Rejects {} {} (.cancelMarketData 7)
        { outbox := { notices := [.error 7 0 504 "Not connected" ""] } }) :=
  ⟨(issue_outcome {} stock .currentTime).2.1 _ (by decide),
    (issue_outcome {} {} .currentTime).2.1 _ (by decide),
    (issue_outcome {} {} (.cancelMarketData 7)).2.1 _ (by decide)⟩

end Station

end BrokerWire
