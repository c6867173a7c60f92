import BrokerWire.Event.Contract

namespace BrokerWire.Event

open FieldReader

/-- The contract of a fill, whose fields came with several versions of the message. -/
def readFilledContract (version : Int) : FieldReader Contract := do
  return {
    conId := ← whenever (5 ≤ version) int 0
    symbol := ← text
    secType := ← code
    lastTradeDateOrContractMonth := ← text
    strike := ← optionalDouble
    right := ← code
    multiplier := ← whenever (9 ≤ version) text ""
    exchange := ← text
    currency := ← text
    localSymbol := ← text
    tradingClass := ← whenever (10 ≤ version) text "" }

def readFill (sv : ServerVersion) (version : Int) (orderId : Int32) : FieldReader Execution := do
  return {
    orderId := orderId
    execId := ← text
    time := ← text
    acctNumber := ← text
    exchange := ← text
    side := ← text
    shares := ← decimal
    price := ← double
    permId := ← whenever (2 ≤ version) long 0
    clientId := ← whenever (3 ≤ version) int 0
    liquidation := ← whenever (4 ≤ version) int 0
    cumQty := ← whenever (6 ≤ version) decimal none
    avgPrice := ← whenever (6 ≤ version) double .zero
    orderRef := ← whenever (8 ≤ version) text ""
    evRule := ← whenever (9 ≤ version) text ""
    evMultiplier := ← whenever (9 ≤ version) double .zero
    modelCode := ← whenever (Since.modelCodes ≤ sv) text ""
    lastLiquidity := ← whenever (Since.lastLiquidity ≤ sv) int 0
    pendingPriceRevision := ← whenever (Since.pendingRevisions ≤ sv) bool false
    submitter := ← whenever (Since.submitters ≤ sv) text "" }

/-- A fill; old messages do not say which request they answer. -/
def readExecution (sv : ServerVersion) : FieldReader Notice := do
  let version ← messageVersion Since.lastLiquidity sv
  let reqId ← whenever (7 ≤ version) int (-1)
  let orderId ← int
  let contract ← readFilledContract version
  return .execDetails reqId contract (← readFill sv version orderId)

def readExecutionEnd : FieldReader Notice := do
  skip
  return .execDetailsEnd (← int)

def readCommissionReport : FieldReader Notice := do
  skip
  return .commissionAndFeesReport {
    execId := ← text
    commissionAndFees := ← double
    currency := ← text
    realizedPnl := ← optionalDouble
    yieldAmount := ← optionalDouble
    yieldRedemptionDate := ← int }

end BrokerWire.Event
