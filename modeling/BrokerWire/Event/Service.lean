import BrokerWire.Event.Market

namespace BrokerWire.Event

open FieldReader

/-- A text that newer servers escape. -/
def readReport (sv : ServerVersion) : FieldReader String :=
  if Since.asciiMessages ≤ sv then unescaped else text

def readError (sv : ServerVersion) : FieldReader Notice := do
  whenever (sv < Since.errorTimes) skip ()
  let reqId ← int
  let code ← int
  let message ← readReport sv
  let rejectJson ← whenever (Since.advancedRejects ≤ sv) (readReport sv) ""
  let errorTime ← whenever (Since.errorTimes ≤ sv) long 0
  return .error reqId errorTime code message rejectJson

def readNextValidId : FieldReader Notice := do
  skip
  return .nextValidId (← int)

/-- The accounts of the user, with commas between them. -/
def readManagedAccounts : FieldReader Notice := do
  skip
  return .managedAccounts (← text)

def readCurrentTime : FieldReader Notice := do
  skip
  return .currentTime (← long)

def readCurrentTimeInMillis : FieldReader Notice := do
  return .currentTimeInMillis (← long)

def readScannerRow : FieldReader ScannerRow := do
  let rank ← int
  let conId ← int
  let symbol ← text
  let secType ← code
  let expiry ← text
  let strike ← optionalDouble
  let right ← code
  let exchange ← text
  let currency ← text
  let localSymbol ← text
  let marketName ← text
  let tradingClass ← text
  let contract : Contract :=
    { conId := conId
      symbol := symbol
      secType := secType
      lastTradeDateOrContractMonth := expiry
      strike := strike
      right := right
      exchange := exchange
      currency := currency
      localSymbol := localSymbol
      tradingClass := tradingClass }
  return {
    rank := rank
    details := { contract := contract, marketName := marketName }
    distance := ← text
    benchmark := ← text
    projection := ← text
    legs := ← text }

def readScannerData : FieldReader Event := do
  skip
  return .scannerData (← int) (← counted readScannerRow)

def readScannerParameters : FieldReader Notice := do
  skip
  return .scannerParameters (← text)

def readNewsBulletin : FieldReader Notice := do
  skip
  return .updateNewsBulletin (← int) (← int) (← text) (← text)

def readNewsArticle : FieldReader Notice := do
  return .newsArticle (← int) (← int) (← text)

/-- A source of news. -/
def readNewsProvider : FieldReader NewsProvider := do
  return { code := ← text, name := ← text }

def readNewsProviders : FieldReader Notice := do
  return .newsProviders (← counted readNewsProvider)

def readHistoricalNews : FieldReader Notice := do
  return .historicalNews (← int) (← text) (← text) (← text) (← unescaped)

def readHistoricalNewsEnd : FieldReader Notice := do
  return .historicalNewsEnd (← int) (← bool)

def readFundamentalData : FieldReader Notice := do
  skip
  return .fundamentalData (← int) (← text)

def readReceiveFa : FieldReader Notice := do
  skip
  return .receiveFa (← int) (← text)

def readReplaceFaEnd : FieldReader Notice := do
  return .replaceFaEnd (← int) (← text)

def readDisplayGroupList : FieldReader Notice := do
  skip
  return .displayGroupList (← int) (← text)

/-- The contract that a display group shows. -/
def readDisplayGroupUpdated : FieldReader Notice := do
  skip
  return .displayGroupUpdated (← int) (← text)

def readVerifyMessageApi : FieldReader Notice := do
  skip
  return .verifyMessageApi (← text)

def readVerifyCompleted : FieldReader Notice := do
  skip
  return .verifyCompleted ((← text) == "true") (← text)

def readVerifyAndAuthMessageApi : FieldReader Notice := do
  skip
  return .verifyAndAuthMessageApi (← text) (← text)

def readVerifyAndAuthCompleted : FieldReader Notice := do
  skip
  return .verifyAndAuthCompleted ((← text) == "true") (← text)

def readWshMetaData : FieldReader Notice := do
  return .wshMetaData (← int) (← text)

def readWshEventData : FieldReader Notice := do
  return .wshEventData (← int) (← text)

def readUserInfo : FieldReader Notice := do
  return .userInfo (← int) (← text)

end BrokerWire.Event
