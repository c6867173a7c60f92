import BrokerWire.Event.Market

namespace BrokerWire.Event

open FieldReader

/-- The contract in messages about orders and positions. -/
def readContract : FieldReader Contract := do
  return {
    conId := ← int
    symbol := ← text
    secType := ← code
    lastTradeDateOrContractMonth := ← text
    strike := ← optionalDouble
    right := ← code
    multiplier := ← text
    exchange := ← text
    currency := ← text
    localSymbol := ← text
    tradingClass := ← text }

/-- A value of an account. The account came with version 2 of the message. -/
def readAccountValue : FieldReader Notice := do
  let version ← int
  return .updateAccountValue (← text) (← text) (← text) (← whenever (2 ≤ version) text "")

/-- The contract of a portfolio row, whose fields came with several versions of the message. -/
def readPortfolioContract (version : Int32) : FieldReader Contract := do
  return {
    conId := ← whenever (6 ≤ version) int 0
    symbol := ← text
    secType := ← code
    lastTradeDateOrContractMonth := ← text
    strike := ← optionalDouble
    right := ← code
    multiplier := ← whenever (7 ≤ version) text ""
    primaryExchange := ← whenever (7 ≤ version) text ""
    currency := ← text
    localSymbol := ← whenever (2 ≤ version) text ""
    tradingClass := ← whenever (8 ≤ version) text "" }

def readPortfolioValue : FieldReader Notice := do
  let version ← int
  return .updatePortfolio {
    contract := ← readPortfolioContract version
    position := ← decimal
    marketPrice := ← double
    marketValue := ← double
    averageCost := ← whenever (3 ≤ version) double .zero
    unrealizedPnl := ← whenever (3 ≤ version) double .zero
    realizedPnl := ← whenever (3 ≤ version) double .zero
    accountName := ← whenever (4 ≤ version) text "" }

def readAccountTime : FieldReader Notice := do
  skip
  return .updateAccountTime (← text)

def readAccountDownloadEnd : FieldReader Notice := do
  skip
  return .accountDownloadEnd (← text)

/-- A line of an account summary. -/
def readAccountSummary : FieldReader Notice := do
  skip
  return .accountSummary (← int) (← text) (← text) (← text) (← text)

def readAccountSummaryEnd : FieldReader Notice := do
  skip
  return .accountSummaryEnd (← int)

/-- A position. The average cost came with version 3 of the message. -/
def readPosition : FieldReader Notice := do
  let version ← int
  return .position {
    account := ← text
    contract := ← readContract
    position := ← decimal
    avgCost := ← whenever (3 ≤ version) double .zero }

def readPositionMulti : FieldReader Notice := do
  skip
  let reqId ← int
  let account ← text
  let contract ← readContract
  let held ← decimal
  let avgCost ← double
  return .positionMulti reqId account (← text) contract held avgCost

def readPositionMultiEnd : FieldReader Notice := do
  skip
  return .positionMultiEnd (← int)

def readAccountUpdateMulti : FieldReader Notice := do
  skip
  return .accountUpdateMulti (← int) (← text) (← text) (← text) (← text) (← text)

def readAccountUpdateMultiEnd : FieldReader Notice := do
  skip
  return .accountUpdateMultiEnd (← int)

def readPnl (sv : ServerVersion) : FieldReader Notice := do
  return .pnl (← int) (← double)
    (← whenever (Since.unrealizedProfit ≤ sv) optionalDouble none)
    (← whenever (Since.realizedProfit ≤ sv) optionalDouble none)

def readPnlSingle (sv : ServerVersion) : FieldReader Notice := do
  return .pnlSingle (← int) (← decimal) (← double)
    (← whenever (Since.unrealizedProfit ≤ sv) optionalDouble none)
    (← whenever (Since.realizedProfit ≤ sv) optionalDouble none)
    (← double)

/-- An account and its family. -/
def readFamilyCode : FieldReader FamilyCode := do
  return { accountId := ← text, familyCode := ← text }

def readFamilyCodes : FieldReader Notice := do
  return .familyCodes (← counted readFamilyCode)

def readSoftDollarTier : FieldReader SoftDollarTier := do
  return { name := ← text, value := ← text, displayName := ← text }

def readSoftDollarTiers : FieldReader Notice := do
  return .softDollarTiers (← int) (← counted readSoftDollarTier)

end BrokerWire.Event
