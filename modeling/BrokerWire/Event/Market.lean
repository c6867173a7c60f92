import BrokerWire.Event.Basic
import BrokerWire.Wire.Value
import BrokerWire.Wire.Version

namespace BrokerWire.Event

open FieldReader

def hasBit (mask bit : Int32) : Bool :=
  mask &&& bit ≠ 0

/-- The notice that a reader of its parts leads to. -/
def single (reader : FieldReader Notice) : FieldReader Event :=
  reader.bind fun n => .done (.notice n)

/-- The flags of a price tick. Old servers send the mask without a meaning. -/
def priceFlags (sv : ServerVersion) (mask : Int32) : PriceFlags where
  canAutoExecute := Since.pastLimitFlag ≤ sv && hasBit mask 1
  pastLimit := Since.pastLimitFlag ≤ sv && hasBit mask 2
  preOpen := Since.preOpenFlag ≤ sv && hasBit mask 4

/-- A price tick, with its size. -/
def readTickPrice (sv : ServerVersion) : FieldReader Event := do
  skip
  return .tickPrice (← int) (← tickType) (← double) (← decimal) (priceFlags sv (← int))

def readTickSize : FieldReader Notice := do
  skip
  return .tickSize (← int) (← tickType) (← decimal)

/-- A model value; one number stands for a value that was not computed. -/
def greek (notComputed : Double) : FieldReader (Option Double) := do
  let value ← double
  return if value.sameNumber notComputed || value.sameNumber unsetDouble then none else some value

/-- A price, a volatility or a dividend; minus one stands for none. -/
def amount : FieldReader (Option Double) :=
  greek (.ofInt (-1))

/-- A sensitivity; minus two stands for none. -/
def sensitivity : FieldReader (Option Double) :=
  greek (.ofInt (-2))

def readComputation (sv : ServerVersion) (version : Int) (tickType : TickType) :
    FieldReader OptionComputation := do
  let attrib ← whenever (Since.priceVolatilityTicks ≤ sv) (some <$> int) none
  let impliedVol ← amount
  let delta ← sensitivity
  let priced := decide (6 ≤ version) || tickType.isModelComputation
  let optPrice ← whenever priced amount none
  let pvDividend ← whenever priced amount none
  let full := decide (6 ≤ version)
  return {
    tickAttrib := attrib
    impliedVol := impliedVol
    delta := delta
    optPrice := optPrice
    pvDividend := pvDividend
    gamma := ← whenever full sensitivity none
    vega := ← whenever full sensitivity none
    theta := ← whenever full sensitivity none
    undPrice := ← whenever full amount none }

/-- The version of a message: a field of its own, until servers from `since` on send none and the
server version takes its place. -/
def messageVersion (since sv : ServerVersion) : FieldReader Int :=
  if since ≤ sv then .done sv else Int32.toInt <$> int

def readTickOptionComputation (sv : ServerVersion) : FieldReader Notice := do
  let version ← messageVersion Since.priceVolatilityTicks sv
  let reqId ← int
  let type ← tickType
  return .tickOptionComputation reqId type (← readComputation sv version type)

def readTickGeneric : FieldReader Notice := do
  skip
  return .tickGeneric (← int) (← tickType) (← double)

def readTickString : FieldReader Notice := do
  skip
  return .tickString (← int) (← tickType) (← text)

def readTickEfp : FieldReader Notice := do
  skip
  return .tickEfp (← int) (← tickType) {
    basisPoints := ← double
    formattedBasisPoints := ← text
    impliedFuturesPrice := ← double
    holdDays := ← int
    futureLastTradeDate := ← text
    dividendImpact := ← double
    dividendsToLastTradeDate := ← double }

def readTickSnapshotEnd : FieldReader Notice := do
  skip
  return .tickSnapshotEnd (← int)

def readTickReqParams : FieldReader Notice := do
  return .tickReqParams (← int) (← double) (← text) (← int)

def readTickNews : FieldReader Notice := do
  return .tickNews (← int) (← long) (← text) (← text) (← unescaped) (← text)

def readMarketDataType : FieldReader Notice := do
  skip
  return .marketDataType (← int) (← int)

def readTrade (reqId tickType : Int32) (time : Int64) : FieldReader Notice := do
  let price ← double
  let size ← decimal
  let mask ← int
  return .tickByTickAllLast reqId tickType time price size ⟨hasBit mask 1, hasBit mask 2⟩
    (← text) (← text)

def readQuote (reqId : Int32) (time : Int64) : FieldReader Notice := do
  let bidPrice ← double
  let askPrice ← double
  let bidSize ← decimal
  let askSize ← decimal
  let mask ← int
  return .tickByTickBidAsk reqId time bidPrice askPrice bidSize askSize
    ⟨hasBit mask 1, hasBit mask 2⟩

/-- A single tick, whose type selects what follows: 1 and 2 are trades, 3 a quote and 4 a midpoint.
Any other type is passed on as a message of unknown content. -/
def readTickByTick : FieldReader Event := do
  let reqId ← int
  let type ← int
  let time ← long
  if type = 1 ∨ type = 2 then single (readTrade reqId type time)
  else if type = 3 then single (readQuote reqId time)
  else if type = 4 then return .notice (.tickByTickMidPoint reqId time (← double))
  else return .unknown Inbound.tickByTick.code []

def readMarketDepth : FieldReader Notice := do
  skip
  return .updateMktDepth (← int) (← int) (← int) (← int) (← double) (← decimal)

def readMarketDepthL2 (sv : ServerVersion) : FieldReader Notice := do
  skip
  return .updateMktDepthL2 (← int) (← int) (← text) (← int) (← int) (← double) (← decimal)
    (← whenever (Since.smartDepth ≤ sv) bool false)

/-- A source of market depth. Old servers say only whether it is deep. -/
def readDepthMarket (sv : ServerVersion) : FieldReader DepthMarket := do
  let exchange ← text
  let secType ← text
  if Since.depthServiceTypes ≤ sv then
    return {
      exchange := exchange
      secType := secType
      listingExch := ← text
      serviceDataType := ← text
      aggGroup := ← optionalInt }
  else
    return {
      exchange := exchange
      secType := secType
      serviceDataType := if ← bool then "Deep2" else "Deep" }

def readDepthMarkets (sv : ServerVersion) : FieldReader Notice := do
  return .mktDepthExchanges (← counted (readDepthMarket sv))

/-- Where to ask for market data instead. -/
def readRerouteData : FieldReader Notice := do
  return .rerouteMktDataReq (← int) (← int) (← text)

def readRerouteDepth : FieldReader Notice := do
  return .rerouteMktDepthReq (← int) (← int) (← text)

/-- One exchange behind a combined quote. -/
def readSmartComponent : FieldReader SmartComponent := do
  return { bitNumber := ← int, exchange := ← text, exchangeLetter := ← text }

def readSmartComponents : FieldReader Notice := do
  return .smartComponents (← int) (← counted readSmartComponent)

end BrokerWire.Event
