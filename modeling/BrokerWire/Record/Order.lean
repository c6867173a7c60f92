import BrokerWire.Record.Condition
import BrokerWire.Record.Common
import BrokerWire.Code.Words

namespace BrokerWire

/-- The hedge that a volatility order attaches once it fills. It exists when its order type is not
empty. -/
structure DeltaNeutralOrder where
  orderType : String := ""
  auxPrice : Option Double := none
  conId : Int32 := 0
  settlingFirm : String := ""
  clearingAccount : String := ""
  clearingIntent : String := ""
  openClose : String := ""
  shortSale : Bool := false
  shortSaleSlot : Int32 := 0
  designatedLocation : String := ""
  deriving DecidableEq

def DeltaNeutralOrder.isSet (d : DeltaNeutralOrder) : Bool :=
  d.orderType ≠ ""

/-- The ladder of a scale order. -/
structure ScaleParams where
  initLevelSize : Option Int32 := none
  subsLevelSize : Option Int32 := none
  priceIncrement : Option Double := none
  priceAdjustValue : Option Double := none
  priceAdjustInterval : Option Int32 := none
  profitOffset : Option Double := none
  autoReset : Bool := false
  initPosition : Option Int32 := none
  initFillQty : Option Int32 := none
  randomPercent : Bool := false
  table : String := ""
  deriving DecidableEq

/-- Whether the ladder moves: its price increment is a number above zero. -/
def ScaleParams.hasAdjustments (s : ScaleParams) : Bool :=
  match s.priceIncrement with
  | some increment => increment.isPositive
  | none => false

/-- The reference contract of an order pegged to a benchmark. -/
structure PegBenchParams where
  referenceContractId : Option Int32 := none
  isPeggedChangeAmountDecrease : Bool := false
  peggedChangeAmount : Option Double := none
  referenceChangeAmount : Option Double := none
  referenceExchangeId : String := ""
  deriving DecidableEq

/-- What a stop order turns into once its trigger is hit. -/
structure AdjustedOrder where
  orderType : String := ""
  stopPrice : Option Double := none
  stopLimitPrice : Option Double := none
  trailingAmount : Option Double := none
  trailingUnit : Option Int32 := none
  deriving DecidableEq

/-- Who decided on an order and who executes it. -/
structure DecisionMakers where
  decisionMaker : String := ""
  decisionAlgo : String := ""
  executionTrader : String := ""
  executionAlgo : String := ""
  deriving DecidableEq

structure OrderIdentity where
  orderId : Int32 := 0
  clientId : Int32 := 0
  permId : Int64 := 0
  parentId : Int32 := 0
  parentPermId : Option Int64 := none
  deriving DecidableEq

/-- The terms of an order: what is traded, how much, at which prices, for whom. -/
structure OrderTerms where
  action : Option (Code Side) := none
  totalQuantity : Option Decimal := none
  orderType : Option (Code OrderKind) := none
  lmtPrice : Option Double := none
  auxPrice : Option Double := none
  tif : Option (Code TimeInForce) := none
  ocaGroup : String := ""
  account : String := ""
  openClose : String := ""
  origin : Origin := .customer
  orderRef : String := ""
  deriving DecidableEq

/-- Quantities beside the total. -/
structure OrderAmounts where
  cashQty : Option Double := none
  filledQuantity : Option Decimal := none
  displaySize : Int32 := 0
  minQty : Option Int32 := none
  percentOffset : Option Double := none
  deriving DecidableEq

structure OrderTiming where
  activeStartTime : String := ""
  activeStopTime : String := ""
  goodAfterTime : String := ""
  goodTillDate : String := ""
  duration : Option Int32 := none
  autoCancelDate : String := ""
  manualOrderTime : String := ""
  triggerMethod : Int32 := 0
  outsideRth : Bool := false
  includeOvernight : Bool := false
  deriving DecidableEq

structure OrderHandling where
  transmit : Bool := true
  blockOrder : Bool := false
  sweepToFill : Bool := false
  hidden : Bool := false
  allOrNone : Bool := false
  ocaType : Int32 := 0
  overridePercentageConstraints : Bool := false
  postToAts : Option Int32 := none
  routeMarketableToBbo : Bool := false
  imbalanceOnly : Bool := false
  whatIf : Bool := false
  notHeld : Bool := false
  solicited : Bool := false
  optOutSmartRouting : Bool := false
  isOmsContainer : Bool := false
  autoCancelParent : Bool := false
  usePriceMgmtAlgo : Option Bool := none
  orderMiscOptions : List TagValue := []
  deriving DecidableEq

structure OrderTrail where
  trailStopPrice : Option Double := none
  trailingPercent : Option Double := none
  deriving DecidableEq

structure OrderAdvisor where
  faGroup : String := ""
  faMethod : String := ""
  faPercentage : String := ""
  modelCode : String := ""
  deriving DecidableEq

/-- Short sales, clearing and settlement. -/
structure OrderClearing where
  rule80a : String := ""
  shortSaleSlot : Int32 := 0
  designatedLocation : String := ""
  exemptCode : Int32 := -1
  settlingFirm : String := ""
  clearingAccount : String := ""
  clearingIntent : String := ""
  customerAccount : String := ""
  professionalCustomer : Bool := false
  shareholder : String := ""
  deriving DecidableEq

structure OrderAuction where
  discretionaryAmt : Double := .zero
  discretionaryUpToLimitPrice : Bool := false
  auctionStrategy : AuctionStrategy := .unset
  startingPrice : Option Double := none
  stockRefPrice : Option Double := none
  delta : Option Double := none
  stockRangeLower : Option Double := none
  stockRangeUpper : Option Double := none
  randomizeSize : Bool := false
  randomizePrice : Bool := false
  deriving DecidableEq

structure OrderVolatility where
  volatility : Option Double := none
  volatilityType : Option Int32 := none
  continuousUpdate : Bool := false
  referencePriceType : Option Int32 := none
  deltaNeutral : DeltaNeutralOrder := {}
  deriving DecidableEq

/-- Combination orders; the leg prices stand in the order of the legs. -/
structure OrderCombo where
  basisPoints : Option Double := none
  basisPointsType : Option Int32 := none
  orderComboLegs : List (Option Double) := []
  smartComboRoutingParams : List TagValue := []
  deriving DecidableEq

structure OrderHedge where
  hedgeType : String := ""
  hedgeParam : String := ""
  dontUseAutoPriceForHedge : Bool := false
  deriving DecidableEq

structure OrderAlgo where
  algoStrategy : String := ""
  algoParams : List TagValue := []
  algoId : String := ""
  deriving DecidableEq

structure OrderPegBest where
  minTradeQty : Option Int32 := none
  minCompeteSize : Option Int32 := none
  competeAgainstBestOffset : Option Double := none
  midOffsetAtWhole : Option Double := none
  midOffsetAtHalf : Option Double := none
  deriving DecidableEq

structure OrderAdjustment where
  adjusted : AdjustedOrder := {}
  triggerPrice : Option Double := none
  lmtPriceOffset : Option Double := none
  deriving DecidableEq

structure OrderConditions where
  conditions : List OrderCondition := []
  conditionsIgnoreRth : Bool := false
  conditionsCancelOrder : Bool := false
  deriving DecidableEq

/-- What regulation and the operator of an order ask for. -/
structure OrderCompliance where
  extOperator : String := ""
  softDollarTier : SoftDollarTier := {}
  mifid2 : DecisionMakers := {}
  advancedErrorOverride : String := ""
  manualOrderIndicator : Option Int32 := none
  submitter : String := ""
  refFuturesConId : Option Int32 := none
  bondAccruedInterest : String := ""
  deriving DecidableEq

structure Order where
  identity : OrderIdentity := {}
  terms : OrderTerms := {}
  amounts : OrderAmounts := {}
  timing : OrderTiming := {}
  handling : OrderHandling := {}
  trail : OrderTrail := {}
  advisor : OrderAdvisor := {}
  clearing : OrderClearing := {}
  auction : OrderAuction := {}
  volatility : OrderVolatility := {}
  combo : OrderCombo := {}
  hedge : OrderHedge := {}
  algo : OrderAlgo := {}
  pegBest : OrderPegBest := {}
  adjustment : OrderAdjustment := {}
  conditional : OrderConditions := {}
  compliance : OrderCompliance := {}
  scale : ScaleParams := {}
  pegBench : PegBenchParams := {}
  deriving DecidableEq

namespace Order

def ofKind (kind : OrderKind) (action : Code Side) (quantity : Decimal) : Order :=
  { terms :=
      { action := some action, totalQuantity := some quantity, orderType := some (.known kind) } }

def market (action : Code Side) (quantity : Decimal) : Order :=
  ofKind .market action quantity

def limit (action : Code Side) (quantity : Decimal) (price : Double) : Order :=
  let order := ofKind .limit action quantity
  { order with terms := { order.terms with lmtPrice := some price } }

end Order

end BrokerWire
