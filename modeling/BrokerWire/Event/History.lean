import BrokerWire.Event.Market

namespace BrokerWire.Event

open FieldReader

/-- A historical bar. Old servers say in a field of its own whether the bar has gaps. -/
def readBar (sv : ServerVersion) : FieldReader Bar := do
  let time ← text
  let opening ← double
  let high ← double
  let low ← double
  let closing ← double
  let volume ← decimal
  let wap ← decimal
  whenever (sv < Since.syntheticBars) skip ()
  return ⟨time, opening, high, low, closing, volume, wap, ← int⟩

def readRange : FieldReader (String × String) := do
  return (← text, ← text)

/-- Historical bars; old servers send their range along. -/
def readHistoricalData (sv : ServerVersion) : FieldReader Event := do
  whenever (sv < Since.syntheticBars) skip ()
  let reqId ← int
  let range ← whenever (sv < Since.historicalRangeApart) (some <$> readRange) none
  let bars ← counted (readBar sv)
  return .historicalData reqId bars range

/-- A bar that is still forming. The number of trades comes first here, the close before the high,
and the average price before the volume. -/
def readHistoricalDataUpdate : FieldReader Notice := do
  let reqId ← int
  return .historicalDataUpdate reqId {
    count := ← int
    time := ← text
    opening := ← double
    closing := ← double
    high := ← double
    low := ← double
    wap := ← decimal
    volume := ← decimal }

/-- The range of historical data, behind the bars. -/
def readHistoricalDataEnd : FieldReader Notice := do
  return .historicalDataEnd (← int) (← text) (← text)

def readHeadTimestamp : FieldReader Notice := do
  return .headTimestamp (← int) (← text)

def readMidpointTick : FieldReader MidpointTick := do
  let time ← long
  skip
  return ⟨time, ← double, ← decimal⟩

def readHistoricalTicks : FieldReader Notice := do
  return .historicalTicks (← int) (← counted readMidpointTick) (← bool)

/-- A historical quote. Its flags stand in the opposite order of those of a single tick. -/
def readQuoteTick : FieldReader QuoteTick := do
  let time ← long
  let mask ← int
  return {
    time := time
    attrib := { askPastHigh := hasBit mask 1, bidPastLow := hasBit mask 2 }
    priceBid := ← double
    priceAsk := ← double
    sizeBid := ← decimal
    sizeAsk := ← decimal }

def readHistoricalQuotes : FieldReader Notice := do
  return .historicalTicksBidAsk (← int) (← counted readQuoteTick) (← bool)

def readTradeTick : FieldReader TradeTick := do
  let time ← long
  let mask ← int
  return {
    time := time
    attrib := { pastLimit := hasBit mask 1, unreported := hasBit mask 2 }
    price := ← double
    size := ← decimal
    exchange := ← text
    specialConditions := ← text }

def readHistoricalTrades : FieldReader Notice := do
  return .historicalTicksLast (← int) (← counted readTradeTick) (← bool)

def readTradingSession : FieldReader TradingSession := do
  return { startDateTime := ← text, endDateTime := ← text, refDate := ← text }

def readHistoricalSchedule : FieldReader Notice := do
  return .historicalSchedule (← int) (← text) (← text) (← text) (← counted readTradingSession)

def readRealTimeBar : FieldReader Notice := do
  skip
  return .realtimeBar (← int) {
    time := ← long
    opening := ← double
    high := ← double
    low := ← double
    closing := ← double
    volume := ← decimal
    wap := ← decimal
    count := ← int }

def readHistogramEntry : FieldReader HistogramEntry := do
  return { price := ← double, size := ← decimal }

def readHistogramData : FieldReader Notice := do
  return .histogramData (← int) (← counted readHistogramEntry)

end BrokerWire.Event
