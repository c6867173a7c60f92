import BrokerWire.Event.Decode
import BrokerWire.Form.Notice
import BrokerWire.Proofs.Wire.Begins

namespace BrokerWire

/-- A call to the application: the request that it is about, its name and its arguments. -/
structure Call where
  request : Option Int32
  name : String
  arguments : List Json

namespace Notice

/-- The request that a notice is about. -/
def request? : Notice → Option Int32
  | .error reqId .. | .tickPrice reqId .. | .tickSize reqId .. | .tickOptionComputation reqId ..
  | .tickGeneric reqId .. | .tickString reqId .. | .tickEfp reqId .. | .tickSnapshotEnd reqId
  | .tickReqParams reqId .. | .tickNews reqId .. | .marketDataType reqId ..
  | .tickByTickAllLast reqId .. | .tickByTickBidAsk reqId .. | .tickByTickMidPoint reqId ..
  | .updateMktDepth reqId .. | .updateMktDepthL2 reqId .. | .rerouteMktDataReq reqId ..
  | .rerouteMktDepthReq reqId .. | .smartComponents reqId .. | .execDetails reqId ..
  | .execDetailsEnd reqId | .accountSummary reqId .. | .accountSummaryEnd reqId
  | .positionMulti reqId .. | .positionMultiEnd reqId | .accountUpdateMulti reqId ..
  | .accountUpdateMultiEnd reqId | .pnl reqId .. | .pnlSingle reqId .. | .softDollarTiers reqId ..
  | .contractDetails reqId .. | .bondContractDetails reqId .. | .contractDetailsEnd reqId
  | .symbolSamples reqId .. | .deltaNeutralValidation reqId ..
  | .securityDefinitionOptionalParameter reqId .. | .securityDefinitionOptionalParameterEnd reqId
  | .historicalData reqId .. | .historicalDataEnd reqId .. | .historicalDataUpdate reqId ..
  | .headTimestamp reqId .. | .historicalTicks reqId .. | .historicalTicksBidAsk reqId ..
  | .historicalTicksLast reqId .. | .historicalSchedule reqId .. | .realtimeBar reqId ..
  | .histogramData reqId .. | .scannerData reqId .. | .scannerDataEnd reqId
  | .newsArticle reqId .. | .historicalNews reqId .. | .historicalNewsEnd reqId ..
  | .fundamentalData reqId .. | .replaceFaEnd reqId .. | .displayGroupList reqId ..
  | .displayGroupUpdated reqId .. | .wshMetaData reqId .. | .wshEventData reqId ..
  | .userInfo reqId .. => some reqId
  | _ => none

/-- A call that is about a request has its number as the first argument. -/
theorem head_of_request {n : Notice} {reqId : Int32} (h : n.request? = some reqId) :
    n.call.2.head? = some (toJson reqId) := by
  cases n <;> cases h <;> rfl

/-- The call that a notice is. -/
def toCall (n : Notice) : Call :=
  ⟨n.request?, n.call.1, n.call.2⟩

end Notice

namespace Event

open FieldReader

/-- What stands at a place of a message: a field that nobody is told of, the number of the request,
a request that old messages do not name, or fields that are told. -/
inductive Slot : Type 1 where
  | skipped
  | request
  | unnamed
  | told {α : Type} (fields : FieldReader α) (arguments : α → List Json)

namespace Slot

/-- A field or a record that is told as it is. -/
def value {α : Type} [JsonForm α] (fields : FieldReader α) : Slot :=
  .told fields fun v => [toJson v]

/-- A field of which something is told. -/
def shown {α β : Type} [JsonForm β] (fields : FieldReader α) (meaning : α → β) : Slot :=
  .told fields fun v => [toJson (meaning v)]

/-- A field that only some messages have. -/
def skippedIf (condition : Bool) : Slot :=
  .told (whenever condition skip ()) fun _ => []

end Slot

/-- Reads a layout and adds what it tells to a call. -/
def gather : List Slot → Call → FieldReader Call
  | [], c => .done c
  | .skipped :: rest, c => skip.bind fun _ => gather rest c
  | .request :: rest, c =>
    int.bind fun n =>
      gather rest { c with request := some n, arguments := c.arguments ++ [toJson n] }
  | .unnamed :: rest, c =>
    gather rest { c with
      request := some (-1), arguments := c.arguments ++ [toJson (-1 : Int32)] }
  | .told fields arguments :: rest, c =>
    fields.bind fun v => gather rest { c with arguments := c.arguments ++ arguments v }

/-- A message that is told as one call. -/
def one (name : String) (slots : List Slot) : Option (FieldReader Call) :=
  some (gather slots ⟨none, name, []⟩)

/-- A message that is told as one call, with a layout that its first fields say. -/
def oneBehind {α : Type} (first : FieldReader α) (name : String) (slots : α → List Slot) :
    Option (FieldReader Call) :=
  some (first.bind fun v => gather (slots v) ⟨none, name, []⟩)

def tradeFlags (mask : Int32) : TradeFlags :=
  ⟨hasBit mask 1, hasBit mask 2⟩

def quoteFlags (mask : Int32) : QuoteFlags :=
  ⟨hasBit mask 1, hasBit mask 2⟩

/-- An error, behind the request: its code, its texts and its time, which is told first. -/
def errorSlots (sv : ServerVersion) : List Slot :=
  [.skippedIf (sv < Since.errorTimes), .request,
    .told (do
      return (← int, ← readReport sv, ← whenever (Since.advancedRejects ≤ sv) (readReport sv) "",
        ← whenever (Since.errorTimes ≤ sv) long 0))
      fun (code, message, rejectJson, errorTime) =>
        [toJson errorTime, toJson code, toJson message, toJson rejectJson]]

/-- A position of a model, behind the account; the model is told before the contract. -/
def modelPosition : Slot :=
  .told (do return (← readContract, ← decimal, ← double, ← text))
    fun (contract, held, avgCost, modelCode) =>
      [toJson modelCode, toJson contract, toJson held, toJson avgCost]

def exchangeForPhysical : FieldReader ExchangeForPhysical := do
  return ⟨← double, ← text, ← double, ← int, ← text, ← double, ← double⟩

def orderProgress (sv : ServerVersion) : FieldReader OrderProgress := do
  return ⟨← int, ← text, ← decimal, ← decimal, ← double, ← long, ← int, ← double, ← int, ← text,
    ← whenever (Since.marketCapPrice ≤ sv) double .zero⟩

def commissionReport : FieldReader CommissionReport := do
  return ⟨← text, ← double, ← text, ← optionalDouble, ← optionalDouble, ← int⟩

def portfolioItem (version : Int32) : FieldReader PortfolioItem := do
  return ⟨← readPortfolioContract version, ← decimal, ← double, ← double,
    ← whenever (3 ≤ version) double .zero, ← whenever (3 ≤ version) double .zero,
    ← whenever (3 ≤ version) double .zero, ← whenever (4 ≤ version) text ""⟩

def heldPosition (version : Int32) : FieldReader Position := do
  return ⟨← text, ← readContract, ← decimal, ← whenever (3 ≤ version) double .zero⟩

/-- A bar that is still forming, whose members arrive in another order than they are told in. -/
def formingBar : FieldReader Bar := do
  let count ← int
  let time ← text
  let opening ← double
  let closing ← double
  let high ← double
  let low ← double
  let wap ← decimal
  let volume ← decimal
  return ⟨time, opening, high, low, closing, volume, wap, count⟩

def realTimeBar : FieldReader RealTimeBar := do
  return ⟨← long, ← double, ← double, ← double, ← double, ← decimal, ← decimal, ← int⟩

/-- The values of an option, which depend on the type of the tick. -/
def optionTick (sv : ServerVersion) (version : Int) :
    FieldReader (TickType × OptionComputation) := do
  let type ← tickType
  return (type, ← readComputation sv version type)

/-- A fill, behind the request. -/
def fill (sv : ServerVersion) (version : Int) : FieldReader (Contract × Execution) := do
  let orderId ← int
  let contract ← readFilledContract version
  return (contract, ← readFill sv version orderId)

def contractDetails (sv : ServerVersion) (version : Int) : FieldReader ContractDetails := do
  let d ← readContractTerms sv
  let d ← readContractTrading sv version d
  let d ← readContractListing version d
  readContractAdditions sv d

def bondDetails (sv : ServerVersion) (version : Int) : FieldReader ContractDetails := do
  let d ← readBondTerms sv
  let d ← readBondTrading sv version d
  readBondAdditions sv version d

def openOrder (sv : ServerVersion) (version : Int) :
    FieldReader (Contract × Order × OrderState) := do
  let (c, o) ← readOpenHead
  let o ← readAllocation sv version o
  let o ← readOpenHandling o
  let (c, o) ← readOpenPricing version c o
  let (c, o) ← readOpenClearing version c o
  let status ← text
  let state ← readPreview sv { status := status }
  let o ← readOpenConditions sv version o
  let o ← readOpenAdditions sv o
  return (c, ← readOpenOwner sv o, state)

def completedOrder (sv : ServerVersion) : FieldReader (Contract × Order × OrderState) := do
  let (c, o) ← readCompletedHead
  let o ← readAllocation sv fullVersion o
  let o ← readCompletedHandling o
  let (c, o) ← readCompletedPricing c o
  let (c, o) ← readCompletedClearing c o
  let status ← text
  let o ← readCompletedConditions sv o
  let (o, state) ← readCompletion o { status := status }
  return (c, ← readCompletedAdditions sv o, state)

/-- The request, from the version of a message on that has it. -/
def requestSince (since version : Int) : Slot :=
  if since ≤ version then .request else .unnamed

/-- The layout of a kind of message that is told as one call. A price tick, bars and rows are told
as more, and what a single tick says depends on its type. -/
def layout (sv : ServerVersion) : Inbound → Option (FieldReader Call)
  | .errMsg => one "error" (errorSlots sv)
  | .nextValidId => one "next_valid_id" [.skipped, .value int]
  | .managedAccts => one "managed_accounts" [.skipped, .value text]
  | .currentTime => one "current_time" [.skipped, .value long]
  | .currentTimeInMillis => one "current_time_in_millis" [.value long]
  | .tickSize => one "tick_size" [.skipped, .request, .value tickType, .value decimal]
  | .tickGeneric => one "tick_generic" [.skipped, .request, .value tickType, .value double]
  | .tickString => one "tick_string" [.skipped, .request, .value tickType, .value text]
  | .tickEfp =>
    one "tick_efp" [.skipped, .request, .value tickType, .value exchangeForPhysical]
  | .tickSnapshotEnd => one "tick_snapshot_end" [.skipped, .request]
  | .tickReqParams => one "tick_req_params" [.request, .value double, .value text, .value int]
  | .tickNews =>
    one "tick_news" [.request, .value long, .value text, .value text, .value unescaped,
      .value text]
  | .marketDataType => one "market_data_type" [.skipped, .request, .value int]
  | .marketDepth =>
    one "update_mkt_depth" [.skipped, .request, .value int, .value int, .value int, .value double,
      .value decimal]
  | .marketDepthL2 =>
    one "update_mkt_depth_l2" [.skipped, .request, .value int, .value text, .value int,
      .value int, .value double, .value decimal,
      .value (whenever (Since.smartDepth ≤ sv) bool false)]
  | .mktDepthExchanges => one "mkt_depth_exchanges" [.value (counted (readDepthMarket sv))]
  | .rerouteMktDataReq => one "reroute_mkt_data_req" [.request, .value int, .value text]
  | .rerouteMktDepthReq => one "reroute_mkt_depth_req" [.request, .value int, .value text]
  | .smartComponents => one "smart_components" [.request, .value (counted readSmartComponent)]
  | .orderStatus =>
    one "order_status" [.skippedIf (sv < Since.marketCapPrice), .value (orderProgress sv)]
  | .openOrderEnd => one "open_order_end" []
  | .orderBound => one "order_bound" [.value long, .value int, .value int]
  | .completedOrdersEnd => one "completed_orders_end" []
  | .executionDataEnd => one "exec_details_end" [.skipped, .request]
  | .commissionAndFeesReport =>
    one "commission_and_fees_report" [.skipped, .value commissionReport]
  | .acctUpdateTime => one "update_account_time" [.skipped, .value text]
  | .acctDownloadEnd => one "account_download_end" [.skipped, .value text]
  | .accountSummary =>
    one "account_summary" [.skipped, .request, .value text, .value text, .value text,
      .value text]
  | .accountSummaryEnd => one "account_summary_end" [.skipped, .request]
  | .positionEnd => one "position_end" []
  | .positionMulti => one "position_multi" [.skipped, .request, .value text, modelPosition]
  | .positionMultiEnd => one "position_multi_end" [.skipped, .request]
  | .accountUpdateMulti =>
    one "account_update_multi" [.skipped, .request, .value text, .value text, .value text,
      .value text, .value text]
  | .accountUpdateMultiEnd => one "account_update_multi_end" [.skipped, .request]
  | .pnl =>
    one "pnl" [.request, .value double,
      .value (whenever (Since.unrealizedProfit ≤ sv) optionalDouble none),
      .value (whenever (Since.realizedProfit ≤ sv) optionalDouble none)]
  | .pnlSingle =>
    one "pnl_single" [.request, .value decimal, .value double,
      .value (whenever (Since.unrealizedProfit ≤ sv) optionalDouble none),
      .value (whenever (Since.realizedProfit ≤ sv) optionalDouble none), .value double]
  | .familyCodes => one "family_codes" [.value (counted readFamilyCode)]
  | .softDollarTiers => one "soft_dollar_tiers" [.request, .value (counted readSoftDollarTier)]
  | .contractDataEnd => one "contract_details_end" [.skipped, .request]
  | .symbolSamples =>
    one "symbol_samples" [.request, .value (counted (readContractDescription sv))]
  | .deltaNeutralValidation =>
    one "delta_neutral_validation" [.skipped, .request, .value readDeltaNeutral]
  | .securityDefinitionOptionParameter =>
    one "security_definition_optional_parameter" [.request, .value text, .value int, .value text,
      .value text, .value (counted text), .value (counted double)]
  | .securityDefinitionOptionParameterEnd =>
    one "security_definition_optional_parameter_end" [.request]
  | .marketRule => one "market_rule" [.value int, .value (counted readPriceIncrement)]
  | .historicalDataUpdate => one "historical_data_update" [.request, .value formingBar]
  | .historicalDataEnd => one "historical_data_end" [.request, .value text, .value text]
  | .headTimestamp => one "head_timestamp" [.request, .value text]
  | .historicalTicks =>
    one "historical_ticks" [.request, .value (counted readMidpointTick), .value bool]
  | .historicalTicksBidAsk =>
    one "historical_ticks_bid_ask" [.request, .value (counted readQuoteTick), .value bool]
  | .historicalTicksLast =>
    one "historical_ticks_last" [.request, .value (counted readTradeTick), .value bool]
  | .historicalSchedule =>
    one "historical_schedule" [.request, .value text, .value text, .value text,
      .value (counted readTradingSession)]
  | .realTimeBars => one "realtime_bar" [.skipped, .request, .value realTimeBar]
  | .histogramData => one "histogram_data" [.request, .value (counted readHistogramEntry)]
  | .scannerParameters => one "scanner_parameters" [.skipped, .value text]
  | .newsBulletins =>
    one "update_news_bulletin" [.skipped, .value int, .value int, .value text, .value text]
  | .newsArticle => one "news_article" [.request, .value int, .value text]
  | .newsProviders => one "news_providers" [.value (counted readNewsProvider)]
  | .historicalNews =>
    one "historical_news" [.request, .value text, .value text, .value text, .value unescaped]
  | .historicalNewsEnd => one "historical_news_end" [.request, .value bool]
  | .fundamentalData => one "fundamental_data" [.skipped, .request, .value text]
  | .receiveFa => one "receive_fa" [.skipped, .value int, .value text]
  | .replaceFaEnd => one "replace_fa_end" [.request, .value text]
  | .displayGroupList => one "display_group_list" [.skipped, .request, .value text]
  | .displayGroupUpdated => one "display_group_updated" [.skipped, .request, .value text]
  | .verifyMessageApi => one "verify_message_api" [.skipped, .value text]
  | .verifyCompleted =>
    one "verify_completed" [.skipped, .shown text (· == "true"), .value text]
  | .verifyAndAuthMessageApi =>
    one "verify_and_auth_message_api" [.skipped, .value text, .value text]
  | .verifyAndAuthCompleted =>
    one "verify_and_auth_completed" [.skipped, .shown text (· == "true"), .value text]
  | .wshMetaData => one "wsh_meta_data" [.request, .value text]
  | .wshEventData => one "wsh_event_data" [.request, .value text]
  | .userInfo => one "user_info" [.request, .value text]
  | .acctValue =>
    oneBehind int "update_account_value" fun version =>
      [.value text, .value text, .value text, .value (whenever (2 ≤ version) text "")]
  | .portfolioValue =>
    oneBehind int "update_portfolio" fun version => [.value (portfolioItem version)]
  | .positionData => oneBehind int "position" fun version => [.value (heldPosition version)]
  | .tickOptionComputation =>
    oneBehind (messageVersion Since.priceVolatilityTicks sv) "tick_option_computation"
      fun version => [.request, .told (optionTick sv version)
        fun (type, computation) => [toJson type, toJson computation]]
  | .executionData =>
    oneBehind (messageVersion Since.lastLiquidity sv) "exec_details" fun version =>
      [requestSince 7 version, .told (fill sv version)
        fun (contract, execution) => [toJson contract, toJson execution]]
  | .contractData =>
    oneBehind (messageVersion Since.sizeRules sv) "contract_details" fun version =>
      [requestSince 3 version, .value (contractDetails sv version)]
  | .bondContractData =>
    oneBehind (messageVersion Since.sizeRules sv) "bond_contract_details" fun version =>
      [requestSince 3 version, .value (bondDetails sv version)]
  | .openOrder =>
    oneBehind (messageVersion Since.orderContainers sv) "open_order" fun version =>
      [.told (openOrder sv version) fun (contract, order, state) =>
        [toJson order.identity.orderId, toJson contract, toJson order, toJson state]]
  | .completedOrder =>
    one "completed_order" [.told (completedOrder sv) fun (contract, order, state) =>
      [toJson contract, toJson order, toJson state]]
  | .tickPrice | .historicalData | .scannerData | .tickByTick => none

/-- The layout of a single tick of a type: 1 and 2 are trades, 3 is a quote and 4 a midpoint. Only
trades tell their type. -/
def tickLayout (type : Int32) : Option (FieldReader Call) :=
  if type = 1 ∨ type = 2 then
    one "tick_by_tick_all_last" [.request, .value int, .value long, .value double, .value decimal,
      .shown int tradeFlags, .value text, .value text]
  else if type = 3 then
    one "tick_by_tick_bid_ask" [.request, .told int fun _ => [], .value long, .value double,
      .value double, .value decimal, .value decimal, .shown int quoteFlags]
  else if type = 4 then
    one "tick_by_tick_mid_point" [.request, .told int fun _ => [], .value long, .value double]
  else none

/-- Whether a reader of a notice reads what a layout says. -/
def IsTold (r : FieldReader Notice) (q : FieldReader Call) : Prop :=
  (r.bind fun n => .done n.toCall) = q

theorem isTold_done {n : Notice} {c : Call} (h : n.toCall = c) : IsTold (.done n) (.done c) :=
  congrArg FieldReader.done h

section

variable {α : Type}

theorem isTold_bind {first : FieldReader α} {f : α → FieldReader Notice}
    {g : α → FieldReader Call} (h : ∀ v, IsTold (f v) (g v)) :
    IsTold (first.bind f) (first.bind g) := by
  have hrest : (fun v => (f v).bind fun n => .done n.toCall) = g := funext h
  rw [IsTold, bind_bind, hrest]

theorem isTold_requestSince {since version : Int} {f : Int32 → FieldReader Notice} {name : String}
    {slots : List Slot}
    (h : ∀ n, IsTold (f n) (gather slots ⟨some n, name, [toJson n]⟩)) :
    IsTold ((whenever (since ≤ version) int (-1)).bind f)
      (gather (requestSince since version :: slots) ⟨none, name, []⟩) := by
  by_cases hsince : since ≤ version
  · rw [whenever, requestSince, if_pos (decide_eq_true hsince), if_pos hsince]
    exact isTold_bind h
  · rw [whenever, requestSince, if_neg (by rwa [decide_eq_true_eq]), if_neg hsince]
    exact h (-1)

end

theorem isTold_trade (reqId type : Int32) (time : Int64) :
    IsTold (readTrade reqId type time)
      (gather [.value double, .value decimal, .shown int tradeFlags, .value text, .value text]
        ⟨some reqId, "tick_by_tick_all_last", [toJson reqId, toJson type, toJson time]⟩) := by
  repeat refine isTold_bind fun _ => ?_
  exact isTold_done rfl

theorem isTold_quote (reqId : Int32) (time : Int64) :
    IsTold (readQuote reqId time)
      (gather [.value double, .value double, .value decimal, .value decimal,
        .shown int quoteFlags]
        ⟨some reqId, "tick_by_tick_bid_ask", [toJson reqId, toJson time]⟩) := by
  repeat refine isTold_bind fun _ => ?_
  exact isTold_done rfl

/-- Whether a reader is that of a message told as one call, and reads what its layout says. -/
def LaidOut : Option (FieldReader Call) → FieldReader Event → Prop
  | none, _ => True
  | some q, e => ∃ r, e = single r ∧ IsTold r q

/-- Each message that is told as one call is read as its layout says. -/
theorem laidOut_reader (sv : ServerVersion) (kind : Inbound) :
    LaidOut (layout sv kind) (reader sv kind) := by
  cases kind
  case tickPrice | historicalData | scannerData | tickByTick => trivial
  case openOrderEnd | completedOrdersEnd | positionEnd =>
    exact ⟨.done _, rfl, isTold_done rfl⟩
  case executionData | contractData | bondContractData =>
    refine ⟨_, rfl, ?_⟩
    refine isTold_bind fun version => isTold_requestSince fun reqId => ?_
    simp only [gather, Slot.value, fill, contractDetails, bondDetails, bind_eq, pure_eq, bind_bind,
      pure_bind_eq]
    repeat refine isTold_bind fun _ => ?_
    exact isTold_done rfl
  -- What a record or several fields are told as is read field by field.
  case errMsg | tickOptionComputation | tickEfp | orderStatus | openOrder | completedOrder |
      commissionAndFeesReport | portfolioValue | positionData | positionMulti |
      historicalDataUpdate | realTimeBars =>
    refine ⟨_, rfl, ?_⟩
    simp only [gather, Slot.value, Slot.skippedIf, errorSlots, optionTick, exchangeForPhysical,
      orderProgress, openOrder, completedOrder, commissionReport, portfolioItem, heldPosition,
      modelPosition, formingBar, realTimeBar, bind_eq, pure_eq, bind_bind, pure_bind_eq]
    repeat refine isTold_bind fun _ => ?_
    exact isTold_done rfl
  all_goals
    refine ⟨_, rfl, ?_⟩
    repeat refine isTold_bind fun _ => ?_
    exact isTold_done rfl

/-- A reading of a notice is one of the call that its layout tells. -/
theorem IsTold.run_call {r : FieldReader Notice} {q : FieldReader Call} (h : IsTold r q)
    {fields unread : Bytes} {n : Notice} (hrun : r.run fields = (.ok n, unread)) :
    q.run fields = (.ok n.toCall, unread) := by
  rw [← h]
  exact run_bind_eq_ok.mpr ⟨n, unread, hrun, rfl⟩

/-- A message that is told as one call is read as a notice that is the call of its layout. -/
theorem run_layout {sv : ServerVersion} {kind : Inbound} {q : FieldReader Call}
    (hlayout : layout sv kind = some q) {fields unread : Bytes} {event : Event}
    (hrun : (reader sv kind).run fields = (.ok event, unread)) :
    ∃ n, event = .notice n ∧ q.run fields = (.ok n.toCall, unread) := by
  have hlaidOut := laidOut_reader sv kind
  rw [hlayout] at hlaidOut
  obtain ⟨r, hreader, htold⟩ := hlaidOut
  rw [hreader] at hrun
  obtain ⟨n, rest, hn, hdone⟩ := run_bind_eq_ok.mp hrun
  cases hdone
  exact ⟨n, rfl, htold.run_call hn⟩

end Event

end BrokerWire
