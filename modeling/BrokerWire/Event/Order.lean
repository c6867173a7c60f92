import BrokerWire.Event.OrderParts

namespace BrokerWire.Event

open FieldReader

def readOrderStatus (sv : ServerVersion) : FieldReader Notice := do
  whenever (sv < Since.marketCapPrice) skip ()
  return .orderStatus {
    orderId := ← int
    status := ← text
    filled := ← decimal
    remaining := ← decimal
    avgFillPrice := ← double
    permId := ← long
    parentId := ← int
    lastFillPrice := ← double
    clientId := ← int
    whyHeld := ← text
    mktCapPrice := ← whenever (Since.marketCapPrice ≤ sv) double .zero }

def readOrderBound : FieldReader Notice := do
  return .orderBound (← long) (← int) (← int)

/-- The first fields of an open order: its numbers, contract and terms. -/
def readOpenHead : FieldReader (Contract × Order) := do
  let orderId ← int
  let contract ← readContract
  let terms ← readTerms
  let clientId ← int
  let permId ← long
  let outsideRth ← bool
  let hidden ← bool
  let discretionaryAmt ← double
  let goodAfterTime ← text
  skip
  return (contract, {
    identity := { orderId := orderId, clientId := clientId, permId := permId }
    terms := terms
    timing := { outsideRth := outsideRth, goodAfterTime := goodAfterTime }
    handling := { hidden := hidden }
    auction := { discretionaryAmt := discretionaryAmt } })

/-- The auction and the handling of an open order, its parent and its trigger. -/
def readOpenHandling (o : Order) : FieldReader Order := do
  let strategy ← number .unset
  let auction ← readStockRange { o.auction with auctionStrategy := strategy }
  let displaySize ← int
  let blockOrder ← bool
  let sweepToFill ← bool
  let allOrNone ← bool
  let minQty ← optionalInt
  let ocaType ← int
  skips 3
  let parentId ← int
  let triggerMethod ← int
  return { o with
    auction := auction
    amounts := { o.amounts with displaySize := displaySize, minQty := minQty }
    handling := { o.handling with
      blockOrder := blockOrder
      sweepToFill := sweepToFill
      allOrNone := allOrNone
      ocaType := ocaType }
    identity := { o.identity with parentId := parentId }
    timing := { o.timing with triggerMethod := triggerMethod } }

/-- The volatility, the trail, the legs and the ladder of an open order. -/
def readOpenPricing (version : Int) (c : Contract) (o : Order) :
    FieldReader (Contract × Order) := do
  let volatility ← readVolatility version true
  let trail ← readTrail version
  let basisPoints ← optionalDouble
  let basisPointsType ← optionalInt
  let (description, legs, prices) ← readComboLegs version
  let routing ← whenever (26 ≤ version) (counted readTagValue) []
  let scale ← readScale version
  return ({ c with comboLegsDescrip := description, comboLegs := legs }, { o with
    volatility := volatility
    trail := trail
    combo := ⟨basisPoints, basisPointsType, prices, routing⟩
    scale := scale })

/-- The hedge, the clearing and the algorithm of an open order. -/
def readOpenClearing (version : Int) (c : Contract) (o : Order) :
    FieldReader (Contract × Order) := do
  let hedge ← readHedge version
  let optOut ← whenever (25 ≤ version) bool false
  let clearingAccount ← text
  let clearingIntent ← text
  let notHeld ← whenever (22 ≤ version) bool false
  let underlying ← readUnderlying version
  let algo ← readAlgo version
  let solicited ← whenever (33 ≤ version) bool false
  let whatIf ← bool
  return ({ c with deltaNeutralContract := underlying }, { o with
    hedge := hedge
    handling := { o.handling with
      optOutSmartRouting := optOut
      notHeld := notHeld
      solicited := solicited
      whatIf := whatIf }
    clearing := { o.clearing with
      clearingAccount := clearingAccount
      clearingIntent := clearingIntent }
    algo := algo })

/-- What becomes of a stop order. The stop of the trail is sent once more in between. -/
def readOpenAdjustment (o : Order) : FieldReader Order := do
  let orderType ← text
  let triggerPrice ← optionalDouble
  let trailStopPrice ← optionalDouble
  let lmtPriceOffset ← optionalDouble
  let stopPrice ← optionalDouble
  let stopLimitPrice ← optionalDouble
  let trailingAmount ← optionalDouble
  let trailingUnit ← optionalInt
  return { o with
    adjustment := {
      adjusted := ⟨orderType, stopPrice, stopLimitPrice, trailingAmount, trailingUnit⟩
      triggerPrice := triggerPrice
      lmtPriceOffset := lmtPriceOffset }
    trail := { o.trail with trailStopPrice := trailStopPrice } }

def readOpenAdditions (sv : ServerVersion) (o : Order) : FieldReader Order := do
  let tier ← whenever (Since.softDollarTiers ≤ sv) readSoftDollarTier {}
  let cashQty ← whenever (Since.cashQuantities ≤ sv) optionalDouble none
  let ownPrice ← whenever (Since.hedgePricing ≤ sv) bool false
  let isContainer ← whenever (Since.orderContainers ≤ sv) bool false
  let upToLimit ← whenever (Since.discretionUpToLimit ≤ sv) bool false
  let managed ← whenever (Since.priceManagement ≤ sv) (some <$> bool) none
  let duration ← whenever (Since.durations ≤ sv) optionalInt none
  let postToAts ← whenever (Since.postToAts ≤ sv) optionalInt none
  let cancelsParent ← whenever (Since.cancellingParents ≤ sv) bool false
  let pegBest ← readPegBest sv
  return { o with
    compliance := { o.compliance with softDollarTier := tier }
    amounts := { o.amounts with cashQty := cashQty }
    hedge := { o.hedge with dontUseAutoPriceForHedge := ownPrice }
    auction := { o.auction with discretionaryUpToLimitPrice := upToLimit }
    timing := { o.timing with duration := duration }
    handling := { o.handling with
      isOmsContainer := isContainer
      usePriceMgmtAlgo := managed
      postToAts := postToAts
      autoCancelParent := cancelsParent }
    pegBest := pegBest }

/-- What newer servers add to an open order about its customer and operator. -/
def readOpenOwner (sv : ServerVersion) (o : Order) : FieldReader Order := do
  let customerAccount ← whenever (Since.customerAccounts ≤ sv) text ""
  let professional ← whenever (Since.professionalCustomers ≤ sv) bool false
  let accrued ← whenever (Since.accruedInterest ≤ sv) text ""
  let overnight ← whenever (Since.overnightOrders ≤ sv) bool false
  let operator ← whenever (Since.operatorTagsReported ≤ sv) text ""
  let indicator ← whenever (Since.operatorTagsReported ≤ sv) optionalInt none
  let submitter ← whenever (Since.submitters ≤ sv) text ""
  let imbalanceOnly ← whenever (Since.imbalanceOnly ≤ sv) bool false
  return { o with
    clearing := { o.clearing with
      customerAccount := customerAccount
      professionalCustomer := professional }
    compliance := { o.compliance with
      bondAccruedInterest := accrued
      extOperator := operator
      manualOrderIndicator := indicator
      submitter := submitter }
    timing := { o.timing with includeOvernight := overnight }
    handling := { o.handling with imbalanceOnly := imbalanceOnly } }

/-- What an open order is pegged to, its conditions and its adjustment. -/
def readOpenConditions (sv : ServerVersion) (version : Int) (o : Order) : FieldReader Order := do
  let auction ← readRandomize version o.auction
  let pegBench ← readPegBench sv o.terms.orderType
  let conditional ← readConditions sv
  let o := { o with auction := auction, pegBench := pegBench, conditional := conditional }
  whenever (Since.benchmarkPegs ≤ sv) (readOpenAdjustment o) o

def readOpenOrder (sv : ServerVersion) : FieldReader Notice := do
  let version ← messageVersion Since.orderContainers sv
  let (c, o) ← readOpenHead
  let o ← readAllocation sv version o
  let o ← readOpenHandling o
  let (c, o) ← readOpenPricing version c o
  let (c, o) ← readOpenClearing version c o
  let status ← text
  let state ← readPreview sv { status := status }
  let o ← readOpenConditions sv version o
  let o ← readOpenAdditions sv o
  let o ← readOpenOwner sv o
  return .openOrder o.identity.orderId c o state

def readCompletedHead : FieldReader (Contract × Order) := do
  let contract ← readContract
  let terms ← readTerms
  let permId ← long
  let outsideRth ← bool
  let hidden ← bool
  let discretionaryAmt ← double
  let goodAfterTime ← text
  return (contract, {
    identity := { permId := permId }
    terms := terms
    timing := { outsideRth := outsideRth, goodAfterTime := goodAfterTime }
    handling := { hidden := hidden }
    auction := { discretionaryAmt := discretionaryAmt } })

/-- The handling of a completed order and its trigger. -/
def readCompletedHandling (o : Order) : FieldReader Order := do
  let auction ← readStockRange o.auction
  let displaySize ← int
  let sweepToFill ← bool
  let allOrNone ← bool
  let minQty ← optionalInt
  let ocaType ← int
  let triggerMethod ← int
  return { o with
    auction := auction
    amounts := { o.amounts with displaySize := displaySize, minQty := minQty }
    handling := { o.handling with
      sweepToFill := sweepToFill
      allOrNone := allOrNone
      ocaType := ocaType }
    timing := { o.timing with triggerMethod := triggerMethod } }

/-- The volatility, the trail, the legs and the ladder of a completed order. -/
def readCompletedPricing (c : Contract) (o : Order) : FieldReader (Contract × Order) := do
  let volatility ← readVolatility fullVersion false
  let trail ← readTrail fullVersion
  let (description, legs, prices) ← readComboLegs fullVersion
  let routing ← counted readTagValue
  let scale ← readScale fullVersion
  return ({ c with comboLegsDescrip := description, comboLegs := legs }, { o with
    volatility := volatility
    trail := trail
    combo := { o.combo with orderComboLegs := prices, smartComboRoutingParams := routing }
    scale := scale })

def readCompletedClearing (c : Contract) (o : Order) : FieldReader (Contract × Order) := do
  let hedge ← readHedge fullVersion
  let clearingAccount ← text
  let clearingIntent ← text
  let notHeld ← bool
  let underlying ← readUnderlying fullVersion
  let algo ← readAlgo fullVersion
  let solicited ← bool
  return ({ c with deltaNeutralContract := underlying }, { o with
    hedge := hedge
    handling := { o.handling with notHeld := notHeld, solicited := solicited }
    clearing := { o.clearing with
      clearingAccount := clearingAccount
      clearingIntent := clearingIntent }
    algo := algo })

/-- What a completed order is pegged to and its conditions; its stop, offset and cash quantity. -/
def readCompletedConditions (sv : ServerVersion) (o : Order) : FieldReader Order := do
  let auction ← readRandomize fullVersion o.auction
  let pegBench ← readPegBench sv o.terms.orderType
  let conditional ← readConditions sv
  let trailStopPrice ← optionalDouble
  let lmtPriceOffset ← optionalDouble
  let cashQty ← whenever (Since.cashQuantities ≤ sv) optionalDouble none
  let ownPrice ← whenever (Since.hedgePricing ≤ sv) bool false
  let isContainer ← whenever (Since.orderContainers ≤ sv) bool false
  return { o with
    auction := auction
    pegBench := pegBench
    conditional := conditional
    trail := { o.trail with trailStopPrice := trailStopPrice }
    adjustment := { o.adjustment with lmtPriceOffset := lmtPriceOffset }
    amounts := { o.amounts with cashQty := cashQty }
    hedge := { o.hedge with dontUseAutoPriceForHedge := ownPrice }
    handling := { o.handling with isOmsContainer := isContainer } }

def readCompletion (o : Order) (s : OrderState) : FieldReader (Order × OrderState) := do
  let autoCancelDate ← text
  let filledQuantity ← decimal
  let refFuturesConId ← optionalInt
  let cancelsParent ← bool
  let shareholder ← text
  let imbalanceOnly ← bool
  let toBbo ← bool
  let parentPermId ← optionalLong
  let completedTime ← text
  let completedStatus ← text
  return ({ o with
    timing := { o.timing with autoCancelDate := autoCancelDate }
    amounts := { o.amounts with filledQuantity := filledQuantity }
    compliance := { o.compliance with refFuturesConId := refFuturesConId }
    handling := { o.handling with
      autoCancelParent := cancelsParent
      imbalanceOnly := imbalanceOnly
      routeMarketableToBbo := toBbo }
    clearing := { o.clearing with shareholder := shareholder }
    identity := { o.identity with parentPermId := parentPermId } },
    { s with completedTime := completedTime, completedStatus := completedStatus })

def readCompletedAdditions (sv : ServerVersion) (o : Order) : FieldReader Order := do
  let pegBest ← readPegBest sv
  let customerAccount ← whenever (Since.customerAccounts ≤ sv) text ""
  let professional ← whenever (Since.professionalCustomers ≤ sv) bool false
  let submitter ← whenever (Since.submitters ≤ sv) text ""
  return { o with
    pegBest := pegBest
    clearing := { o.clearing with
      customerAccount := customerAccount
      professionalCustomer := professional }
    compliance := { o.compliance with submitter := submitter } }

def readCompletedOrder (sv : ServerVersion) : FieldReader Notice := do
  let (c, o) ← readCompletedHead
  let o ← readAllocation sv fullVersion o
  let o ← readCompletedHandling o
  let (c, o) ← readCompletedPricing c o
  let (c, o) ← readCompletedClearing c o
  let status ← text
  let o ← readCompletedConditions sv o
  let (o, state) ← readCompletion o { status := status }
  let o ← readCompletedAdditions sv o
  return .completedOrder c o state

end BrokerWire.Event
