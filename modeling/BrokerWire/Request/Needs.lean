import BrokerWire.Request.Basic
import BrokerWire.Wire.Version

namespace BrokerWire

/-- A feature that servers have from a version on. -/
structure Need where
  since : ServerVersion
  feature : String
  deriving DecidableEq

namespace Need

def isMet (need : Need) (sv : ServerVersion) : Bool :=
  need.since ≤ sv

def report (need : Need) : String :=
  "It does not support " ++ need.feature ++ "."

/-- A need that arises under a condition. -/
def when (condition : Bool) (since : ServerVersion) (feature : String) : List Need :=
  if condition then [⟨since, feature⟩] else []

end Need

namespace Order

def isOfKind (o : Order) (kind : OrderKind) : Bool :=
  o.terms.orderType = some (.known kind)

/-- Whether an order is pegged to the best price or to the midpoint. -/
def pegsToQuote (o : Order) : Bool :=
  o.isOfKind .peggedToBest || o.isOfKind .peggedToMidpoint

/-- The exchange that takes a least quantity per trade. -/
def leastQuantityExchange : String := "IBKRATS"

def needs (c : Contract) (o : Order) : List Need :=
  let tier := o.compliance.softDollarTier
  let makers := o.compliance.mifid2
  let imbalance := o.handling.imbalanceOnly
  Need.when (o.isOfKind .peggedToBenchmark || !o.conditional.conditions.isEmpty)
      Since.benchmarkPegs "PEG BENCH orders and order conditions" ++
    Need.when (o.advisor.modelCode ≠ "") Since.modelCodes "model code parameter" ++
    Need.when (o.compliance.extOperator ≠ "") Since.externalOperators "ext operator parameter" ++
    Need.when (tier.name ≠ "" || tier.value ≠ "") Since.softDollarTiers "soft dollar tier" ++
    Need.when o.amounts.cashQty.isSome Since.cashQuantities "cash quantity parameter" ++
    Need.when (makers.decisionMaker ≠ "" || makers.decisionAlgo ≠ "") Since.decisionMakers
      "MIFID II decision maker parameters" ++
    Need.when (makers.executionTrader ≠ "" || makers.executionAlgo ≠ "") Since.executingTraders
      "MIFID II execution parameters" ++
    Need.when o.hedge.dontUseAutoPriceForHedge Since.hedgePricing
      "don't use auto price for hedge parameter" ++
    Need.when o.handling.isOmsContainer Since.orderContainers "oms container parameter" ++
    Need.when o.auction.discretionaryUpToLimitPrice Since.discretionUpToLimit "D-Peg orders" ++
    Need.when o.handling.usePriceMgmtAlgo.isSome Since.priceManagement
      "Use price management algo requests" ++
    Need.when o.timing.duration.isSome Since.durations "duration attribute" ++
    Need.when o.handling.postToAts.isSome Since.postToAts "postToAts attribute" ++
    Need.when o.handling.autoCancelParent Since.cancellingParents "autoCancelParent attribute" ++
    Need.when (o.compliance.advancedErrorOverride ≠ "") Since.advancedRejects
      "advanced error override attribute" ++
    Need.when (o.timing.manualOrderTime ≠ "") Since.manualOrderTimes
      "manual order time attribute" ++
    Need.when
      (c.exchange = leastQuantityExchange && o.pegBest.minTradeQty.isSome || o.pegsToQuote)
      Since.pegOffsets "PEG BEST / PEG MID order parameters" ++
    Need.when (o.clearing.customerAccount ≠ "") Since.customerAccounts
      "customer account parameter" ++
    Need.when o.timing.includeOvernight Since.overnightOrders "include overnight parameter" ++
    Need.when (o.compliance.manualOrderIndicator.isSome || imbalance)
      (if imbalance then Since.imbalanceOnly else Since.operatorTags)
      "manual order indicator and imbalance only parameters"

end Order

namespace OrderCancel

def operatorNeeds (c : OrderCancel) : List Need :=
  Need.when (c.extOperator ≠ "" || c.manualOrderIndicator.isSome) Since.operatorTags
    "ext operator and manual order indicator parameters"

end OrderCancel

namespace Request

/-- What a request needs of the server, in the order in which it is checked; the first need that is
not met is reported. -/
def needs : Request → List Need
  | .marketData _ _ _ _ regulatory _ =>
    Need.when regulatory Since.smartComponents "regulatory snapshot requests"
  | .marketDepth _ c _ smart _ =>
    Need.when smart Since.smartDepth "SMART depth request" ++
      Need.when (c.primaryExchange ≠ "") Since.depthPrimaryExchange
        "primaryExch parameter in reqMktDepth"
  | .cancelMarketDepth _ smart => Need.when smart Since.smartDepth "SMART depth cancel request"
  | .tickByTick _ _ _ count ignoreSize =>
    ⟨Since.tickByTick, "tick-by-tick data requests"⟩ ::
      Need.when (count ≠ 0 || ignoreSize) Since.tickByTickLimits
        "ignoreSize and numberOfTicks parameters in tick-by-tick data requests"
  | .cancelTickByTick _ => [⟨Since.tickByTick, "tick-by-tick data requests"⟩]
  | .placeOrder _ c o => o.needs c
  | .cancelOrder _ c =>
    Need.when (c.manualOrderCancelTime ≠ "") Since.manualOrderTimes "manual order cancel time" ++
      c.operatorNeeds
  | .globalCancel c => c.operatorNeeds
  | .completedOrders _ => [⟨Since.completedOrders, "completed orders requests"⟩]
  | .executions _ filter =>
    Need.when (filter.lastNDays.isSome || !filter.specificDates.isEmpty) Since.executionDays
      "last N days and specific dates parameters"
  | .contractDetails _ c => Need.when (c.issuerId ≠ "") Since.bondIssuers "issuerId parameter"
  | .matchingSymbols .. => [⟨Since.matchingSymbols, "matching symbols request"⟩]
  | .optionChain .. => [⟨Since.optionChains, "security definition option requests"⟩]
  | .headTimestamp .. => [⟨Since.headTimestamps, "head time stamp requests"⟩]
  | .historicalTicks .. => [⟨Since.historicalTicks, "historical ticks requests"⟩]
  | .profit .. => [⟨Since.profitAndLoss, "PnL requests"⟩]
  | .cancelProfit _ => [⟨Since.profitAndLoss, "PnL requests"⟩]
  | .positionProfit .. => [⟨Since.profitAndLoss, "PnL requests"⟩]
  | .cancelPositionProfit _ => [⟨Since.profitAndLoss, "PnL requests"⟩]
  | .newsProviders => [⟨Since.newsProviders, "news providers requests"⟩]
  | .newsArticle .. => [⟨Since.newsArticles, "news article requests"⟩]
  | .historicalNews .. => [⟨Since.historicalNews, "historical news requests"⟩]
  | .currentTimeInMillis => [⟨Since.millisecondTime, "current time in millis requests"⟩]
  | .familyCodes => [⟨Since.familyCodes, "family codes requests"⟩]
  | .marketRule _ => [⟨Since.marketRules, "market rule requests"⟩]
  | .userInfo _ => [⟨Since.userInfo, "user info requests"⟩]
  | _ => []

def unmet? (r : Request) (sv : ServerVersion) : Option Need :=
  r.needs.find? fun need => !need.isMet sv

end Request

end BrokerWire
