import BrokerWire.Request.Needs
import BrokerWire.Wire.Field

namespace BrokerWire

namespace Field

/-- Fields that servers know from a version on. -/
def since (version sv : ServerVersion) (fields : List String) : List String :=
  if version ≤ sv then fields else []

/-- Fields that servers want up to a version. -/
def before (version sv : ServerVersion) (fields : List String) : List String :=
  if sv < version then fields else []

/-- The legs of a combination in short, behind their number. -/
def legs (c : Contract) : List String :=
  count c.comboLegs :: c.comboLegs.flatMap fun leg =>
    [int leg.conId, int leg.ratio, optional code leg.action, leg.exchange]

def orderedLeg (leg : ComboLeg) : List String :=
  [int leg.conId, int leg.ratio, optional code leg.action, leg.exchange, number leg.openClose,
    int leg.shortSaleSlot, leg.designatedLocation, int leg.exemptCode]

def underlying : Option DeltaNeutralContract → List String
  | none => [bool false]
  | some d => [bool true, int d.conId, double d.delta, double d.price]

/-- A hedge; its details follow only if there is one. -/
def hedgeOrder (d : DeltaNeutralOrder) : List String :=
  [d.orderType, optional double d.auxPrice] ++
    if d.isSet then
      [int d.conId, d.settlingFirm, d.clearingAccount, d.clearingIntent, d.openClose,
        bool d.shortSale, int d.shortSaleSlot, d.designatedLocation]
    else []

/-- A ladder; what it adjusts follows only if it moves. -/
def scale (s : ScaleParams) : List String :=
  [optional int s.initLevelSize, optional int s.subsLevelSize,
      optional double s.priceIncrement] ++
    (if s.hasAdjustments then
      [optional double s.priceAdjustValue, optional int s.priceAdjustInterval,
        optional double s.profitOffset, bool s.autoReset, optional int s.initPosition,
        optional int s.initFillQty, bool s.randomPercent]
    else []) ++
    [s.table]

def comparison (c : Comparison) : List String :=
  [bool c.isMore, c.value]

def scope (s : ContractScope) : List String :=
  [int s.conId, s.exchange]

def conditionKind : ConditionKind → List String
  | .price c s trigger => comparison c ++ scope s ++ [number trigger]
  | .time c => comparison c
  | .margin c => comparison c
  | .execution secType exchange symbol => [secType, exchange, symbol]
  | .volume c s => comparison c ++ scope s
  | .percentChange c s => comparison c ++ scope s

/-- A condition: its type, how it is joined with the next one, and what it watches. -/
def condition (c : OrderCondition) : List String :=
  [number c.kind.type, c.conjunction.letter] ++ conditionKind c.kind

/-- Conditions behind their number, and two flags if there are any. -/
def conditions (c : OrderConditions) : List String :=
  count c.conditions ::
    if c.conditions.isEmpty then []
    else
      c.conditions.flatMap condition ++
        [bool c.conditionsIgnoreRth, bool c.conditionsCancelOrder]

end Field

namespace Order

open BrokerWire.Field

/-- The terms of an order. Old servers take whole quantities only. -/
def termFields (sv : ServerVersion) (o : Order) : List String :=
  let t := o.terms
  let quantity :=
    if Since.fractionalQuantities ≤ sv then t.totalQuantity
    else t.totalQuantity.map Decimal.truncate
  [optional code t.action, optional decimal quantity, optional code t.orderType,
    optional double t.lmtPrice, optional double t.auxPrice, optional code t.tif, t.ocaGroup,
    t.account, t.openClose, number t.origin, t.orderRef]

def handlingFields (o : Order) : List String :=
  let h := o.handling
  [bool h.transmit, int o.identity.parentId, bool h.blockOrder, bool h.sweepToFill,
    int o.amounts.displaySize, int o.timing.triggerMethod, bool o.timing.outsideRth,
    bool h.hidden]

def comboFields (c : Contract) (o : Order) : List String :=
  if c.isCombo then
    count c.comboLegs :: c.comboLegs.flatMap orderedLeg ++
      (count o.combo.orderComboLegs :: o.combo.orderComboLegs.map (optional double)) ++
      pairs o.combo.smartComboRoutingParams
  else []

/-- The allocation of an order, behind a field that has lost its meaning. -/
def allocationFields (sv : ServerVersion) (o : Order) : List String :=
  ["", double o.auction.discretionaryAmt, o.timing.goodAfterTime, o.timing.goodTillDate,
      o.advisor.faGroup, o.advisor.faMethod, o.advisor.faPercentage] ++
    before Since.noAdvisorProfiles sv [""] ++
    since Since.modelCodes sv [o.advisor.modelCode]

/-- The short sale, the auction and the range of an order. Three fields have lost their meaning. -/
def auctionFields (o : Order) : List String :=
  let a := o.auction
  [int o.clearing.shortSaleSlot, o.clearing.designatedLocation, int o.clearing.exemptCode,
    int o.handling.ocaType, o.clearing.rule80a, o.clearing.settlingFirm,
    bool o.handling.allOrNone, optional int o.amounts.minQty,
    optional double o.amounts.percentOffset, bool false, bool false, "",
    number a.auctionStrategy, optional double a.startingPrice, optional double a.stockRefPrice,
    optional double a.delta, optional double a.stockRangeLower,
    optional double a.stockRangeUpper, bool o.handling.overridePercentageConstraints]

/-- The volatility of an order, its hedge and its trail. -/
def volatilityFields (o : Order) : List String :=
  let v := o.volatility
  [optional double v.volatility, optional int v.volatilityType] ++ hedgeOrder v.deltaNeutral ++
    [bool v.continuousUpdate, optional int v.referencePriceType,
      optional double o.trail.trailStopPrice, optional double o.trail.trailingPercent]

def clearingFields (c : Contract) (o : Order) : List String :=
  [o.timing.activeStartTime, o.timing.activeStopTime, o.hedge.hedgeType] ++
    (if o.hedge.hedgeType ≠ "" then [o.hedge.hedgeParam] else []) ++
    [bool o.handling.optOutSmartRouting, o.clearing.clearingAccount, o.clearing.clearingIntent,
      bool o.handling.notHeld] ++
    underlying c.deltaNeutralContract

def algoFields (o : Order) : List String :=
  [o.algo.algoStrategy] ++
    (if o.algo.algoStrategy ≠ "" then pairs o.algo.algoParams else []) ++
    [o.algo.algoId, bool o.handling.whatIf, tags o.handling.orderMiscOptions,
      bool o.handling.solicited, bool o.auction.randomizeSize, bool o.auction.randomizePrice]

def pegBenchFields (o : Order) : List String :=
  let p := o.pegBench
  if o.isOfKind .peggedToBenchmark then
    [optional int p.referenceContractId, bool p.isPeggedChangeAmountDecrease,
      optional double p.peggedChangeAmount, optional double p.referenceChangeAmount,
      p.referenceExchangeId]
  else []

def adjustmentFields (o : Order) : List String :=
  let a := o.adjustment
  [a.adjusted.orderType, optional double a.triggerPrice, optional double a.lmtPriceOffset,
    optional double a.adjusted.stopPrice, optional double a.adjusted.stopLimitPrice,
    optional double a.adjusted.trailingAmount, optional int a.adjusted.trailingUnit]

def flag (b : Bool) : String :=
  int (if b then 1 else 0)

def operatorFields (sv : ServerVersion) (o : Order) : List String :=
  let c := o.compliance
  let h := o.handling
  since Since.externalOperators sv [c.extOperator] ++
    since Since.softDollarTiers sv [c.softDollarTier.name, c.softDollarTier.value] ++
    since Since.cashQuantities sv [optional double o.amounts.cashQty] ++
    since Since.decisionMakers sv [c.mifid2.decisionMaker, c.mifid2.decisionAlgo] ++
    since Since.executingTraders sv [c.mifid2.executionTrader, c.mifid2.executionAlgo] ++
    since Since.hedgePricing sv [bool o.hedge.dontUseAutoPriceForHedge] ++
    since Since.orderContainers sv [bool h.isOmsContainer] ++
    since Since.discretionUpToLimit sv [bool o.auction.discretionaryUpToLimitPrice] ++
    since Since.priceManagement sv [optional flag h.usePriceMgmtAlgo] ++
    since Since.durations sv [optional int o.timing.duration] ++
    since Since.postToAts sv [optional int h.postToAts] ++
    since Since.cancellingParents sv [bool h.autoCancelParent] ++
    since Since.advancedRejects sv [c.advancedErrorOverride] ++
    since Since.manualOrderTimes sv [o.timing.manualOrderTime]

def pegBestFields (c : Contract) (o : Order) : List String :=
  let p := o.pegBest
  (if c.exchange = leastQuantityExchange then [optional int p.minTradeQty] else []) ++
    (if o.isOfKind .peggedToBest then
      [optional int p.minCompeteSize, optional double p.competeAgainstBestOffset]
    else []) ++
    if o.pegsToQuote then
      [optional double p.midOffsetAtWhole, optional double p.midOffsetAtHalf]
    else []

/-- What servers have learned about customers. Some versions take two fields for requests for quotes
in between. -/
def customerFields (sv : ServerVersion) (o : Order) : List String :=
  since Since.customerAccounts sv [o.clearing.customerAccount] ++
    since Since.professionalCustomers sv [bool o.clearing.professionalCustomer] ++
    since Since.quoteRequests sv (before Since.noQuoteRequests sv ["", ""]) ++
    since Since.overnightOrders sv [bool o.timing.includeOvernight] ++
    since Since.operatorTags sv [optional int o.compliance.manualOrderIndicator] ++
    since Since.imbalanceOnly sv [bool o.handling.imbalanceOnly]

/-- All fields of an order that is placed, behind the kind of message. -/
def fields (sv : ServerVersion) (orderId : Int32) (c : Contract) (o : Order) : List String :=
  before Since.orderContainers sv [int 45] ++ [int orderId] ++ contract c ++
    [optional code c.secIdType, c.secId] ++ o.termFields sv ++ o.handlingFields ++
    o.comboFields c ++ o.allocationFields sv ++ o.auctionFields ++ o.volatilityFields ++
    Field.scale o.scale ++ o.clearingFields c ++ o.algoFields ++
    since Since.benchmarkPegs sv
      (o.pegBenchFields ++ conditions o.conditional ++ o.adjustmentFields) ++
    o.operatorFields sv ++ since Since.pegOffsets sv (o.pegBestFields c) ++ o.customerFields sv

end Order

end BrokerWire
