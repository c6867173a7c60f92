import BrokerWire.Event.Account
import BrokerWire.Text.Blank

namespace BrokerWire.Event

open FieldReader

/-- The date, the time and the time zone that one field holds, apart from each other by dashes or,
if it has none, by blanks. -/
def expiryParts (raw : String) : List String :=
  let cut := if raw.toList.contains '-' then (· == '-') else Blank.isBlank
  (Blank.parts cut raw.toList).map String.ofList

/-- Sets the expiry of a contract that is no bond; a part that is missing keeps what was there. -/
def setExpiry (raw : String) (d : ContractDetails) : ContractDetails :=
  let parts := expiryParts raw
  let c := d.contract
  { d with
    contract :=
      { c with
        lastTradeDateOrContractMonth := (parts[0]?).getD c.lastTradeDateOrContractMonth }
    lastTradeTime := (parts[1]?).getD d.lastTradeTime }

/-- Sets the maturity of a bond, and the time zone if it comes along. -/
def setMaturity (raw : String) (d : ContractDetails) : ContractDetails :=
  let parts := expiryParts raw
  { d with
    bond := { d.bond with maturity := (parts[0]?).getD d.bond.maturity }
    lastTradeTime := (parts[1]?).getD d.lastTradeTime
    timeZoneId := (parts[2]?).getD d.timeZoneId }

def readTagValue : FieldReader TagValue := do
  return { tag := ← text, value := ← text }

/-- Skips the size multiplier of the servers that send one. -/
def skipSizeMultiplier (sv : ServerVersion) : FieldReader Unit :=
  whenever (Since.sizeMultiplier ≤ sv ∧ sv < Since.sizeRules) skip ()

def readSizeRules (sv : ServerVersion) (d : ContractDetails) : FieldReader ContractDetails := do
  let known := decide (Since.sizeRules ≤ sv)
  return { d with
    minSize := ← whenever known decimal none
    sizeIncrement := ← whenever known decimal none
    suggestedSizeIncrement := ← whenever known decimal none }

def readFund : FieldReader FundDetails := do
  return {
    name := ← text
    family := ← text
    kind := ← text
    frontLoad := ← text
    backLoad := ← text
    backLoadTimeInterval := ← text
    managementFee := ← text
    closed := ← bool
    closedForNewInvestors := ← bool
    closedForNewMoney := ← bool
    notifyAmount := ← text
    minimumInitialPurchase := ← text
    subsequentMinimumPurchase := ← text
    blueSkyStates := ← text
    blueSkyTerritories := ← text
    distributionPolicyIndicator := ← code
    assetType := ← code }

def readIneligibility : FieldReader IneligibilityReason := do
  return { id := ← text, description := ← text }

/-- A name that newer servers escape. -/
def readLongName (sv : ServerVersion) : FieldReader String :=
  if Since.asciiMessages ≤ sv then unescaped else text

/-- What a contract is: its first fields, up to the price step. -/
def readContractTerms (sv : ServerVersion) : FieldReader ContractDetails := do
  let symbol ← text
  let secType ← code
  let lastTradeDate ← whenever (Since.lastTradeDates ≤ sv) text ""
  let expiry ← text
  let strike ← optionalDouble
  let right ← code
  let exchange ← text
  let currency ← text
  let localSymbol ← text
  let marketName ← text
  let tradingClass ← text
  let conId ← int
  let minTick ← double
  return setExpiry expiry {
    contract := {
      symbol := symbol
      secType := secType
      lastTradeDate := lastTradeDate
      strike := strike
      right := right
      exchange := exchange
      currency := currency
      localSymbol := localSymbol
      tradingClass := tradingClass
      conId := conId }
    marketName := marketName
    minTick := minTick }

/-- How a contract is traded: from the multiplier to the primary exchange. -/
def readContractTrading (sv : ServerVersion) (version : Int) (d : ContractDetails) :
    FieldReader ContractDetails := do
  skipSizeMultiplier sv
  let multiplier ← text
  let orderTypes ← text
  let validExchanges ← text
  let priceMagnifier ← int
  let underConId ← whenever (4 ≤ version) int 0
  let longName ← whenever (5 ≤ version) (readLongName sv) ""
  let primaryExchange ← whenever (5 ≤ version) text ""
  return { d with
    contract := { d.contract with multiplier := multiplier, primaryExchange := primaryExchange }
    orderTypes := orderTypes
    validExchanges := validExchanges
    priceMagnifier := priceMagnifier
    underConId := underConId
    longName := longName }

/-- Where a contract belongs and when it is traded; economic value and identifiers follow. -/
def readContractListing (version : Int) (d : ContractDetails) : FieldReader ContractDetails := do
  let listed := decide (6 ≤ version)
  let valued := decide (8 ≤ version)
  return { d with
    contractMonth := ← whenever listed text ""
    industry := ← whenever listed text ""
    category := ← whenever listed text ""
    subcategory := ← whenever listed text ""
    timeZoneId := ← whenever listed text ""
    tradingHours := ← whenever listed text ""
    liquidHours := ← whenever listed text ""
    evRule := ← whenever valued text ""
    evMultiplier := ← whenever valued double .zero
    secIdList := ← whenever (7 ≤ version) (counted readTagValue) [] }

/-- What newer servers add to a contract. -/
def readContractAdditions (sv : ServerVersion) (d : ContractDetails) :
    FieldReader ContractDetails := do
  let d := { d with
    aggGroup := ← whenever (Since.aggregationGroups ≤ sv) optionalInt none
    underSymbol := ← whenever (Since.underlyingInfo ≤ sv) text ""
    underSecType := ← whenever (Since.underlyingInfo ≤ sv) text ""
    marketRuleIds := ← whenever (Since.marketRules ≤ sv) text ""
    realExpirationDate := ← whenever (Since.realExpirations ≤ sv) text ""
    stockType := ← whenever (Since.stockTypes ≤ sv) text "" }
  whenever (Since.fractionalSizes ≤ sv ∧ sv < Since.sizeRules) skip ()
  let d ← readSizeRules sv d
  let isFund := d.contract.secType = some (.known .fund)
  return { d with
    fund := ← whenever (Since.fundDetails ≤ sv ∧ isFund) readFund {}
    ineligibilityReasons :=
      ← whenever (Since.ineligibilityReasons ≤ sv) (counted readIneligibility) [] }

/-- The request that details answer; old messages do not say. -/
def readDetailsRequest (version : Int) : FieldReader Int32 :=
  whenever (3 ≤ version) int (-1)

def readContractDetails (sv : ServerVersion) : FieldReader Notice := do
  let version ← messageVersion Since.sizeRules sv
  let reqId ← readDetailsRequest version
  let d ← readContractTerms sv
  let d ← readContractTrading sv version d
  let d ← readContractListing version d
  return .contractDetails reqId (← readContractAdditions sv d)

/-- What a bond is: its first fields, up to the price step. -/
def readBondTerms (sv : ServerVersion) : FieldReader ContractDetails := do
  let symbol ← text
  let secType ← code
  let cusip ← text
  let coupon ← double
  let lastTradeDate ← whenever (Since.lastTradeDates ≤ sv) text ""
  let maturity ← text
  let issueDate ← text
  let ratings ← text
  let bondType ← text
  let couponType ← text
  let convertible ← bool
  let callable ← bool
  let putable ← bool
  let descAppend ← text
  let exchange ← text
  let currency ← text
  let marketName ← text
  let tradingClass ← text
  let conId ← int
  let minTick ← double
  return setMaturity maturity {
    contract := {
      symbol := symbol
      secType := secType
      lastTradeDate := lastTradeDate
      exchange := exchange
      currency := currency
      tradingClass := tradingClass
      conId := conId }
    marketName := marketName
    minTick := minTick
    bond := {
      cusip := cusip
      ratings := ratings
      descAppend := descAppend
      bondType := bondType
      couponType := couponType
      coupon := coupon
      callable := callable
      putable := putable
      convertible := convertible
      issueDate := issueDate } }

def readBondTrading (sv : ServerVersion) (version : Int) (d : ContractDetails) :
    FieldReader ContractDetails := do
  skipSizeMultiplier sv
  let optional := decide (2 ≤ version)
  let d := { d with
    orderTypes := ← text
    validExchanges := ← text
    bond := { d.bond with
      nextOptionDate := ← whenever optional text ""
      nextOptionType := ← whenever optional text ""
      nextOptionPartial := ← whenever optional bool false
      notes := ← whenever optional text "" }
    longName := ← whenever (4 ≤ version) text "" }
  let hours := decide (Since.bondTradingHours ≤ sv)
  return { d with
    timeZoneId := ← whenever hours text d.timeZoneId
    tradingHours := ← whenever hours text ""
    liquidHours := ← whenever hours text "" }

def readBondAdditions (sv : ServerVersion) (version : Int) (d : ContractDetails) :
    FieldReader ContractDetails := do
  let d := { d with
    evRule := ← whenever (6 ≤ version) text ""
    evMultiplier := ← whenever (6 ≤ version) double .zero
    secIdList := ← whenever (5 ≤ version) (counted readTagValue) []
    aggGroup := ← whenever (Since.aggregationGroups ≤ sv) optionalInt none
    marketRuleIds := ← whenever (Since.marketRules ≤ sv) text "" }
  readSizeRules sv d

def readBondDetails (sv : ServerVersion) : FieldReader Notice := do
  let version ← messageVersion Since.sizeRules sv
  let reqId ← readDetailsRequest version
  let d ← readBondTerms sv
  let d ← readBondTrading sv version d
  return .bondContractDetails reqId (← readBondAdditions sv version d)

def readContractDetailsEnd : FieldReader Notice := do
  skip
  return .contractDetailsEnd (← int)

/-- A contract that matches a symbol. -/
def readContractDescription (sv : ServerVersion) : FieldReader ContractDescription := do
  let contract : Contract := {
    conId := ← int
    symbol := ← text
    secType := ← code
    primaryExchange := ← text
    currency := ← text }
  let derivatives ← counted text
  let issued := decide (Since.bondIssuers ≤ sv)
  let description ← whenever issued text ""
  let issuerId ← whenever issued text ""
  return ⟨{ contract with description := description, issuerId := issuerId }, derivatives⟩

def readSymbolSamples (sv : ServerVersion) : FieldReader Notice := do
  return .symbolSamples (← int) (← counted (readContractDescription sv))

/-- The underlying of a delta neutral combination. -/
def readDeltaNeutral : FieldReader DeltaNeutralContract := do
  return { conId := ← int, delta := ← double, price := ← double }

def readDeltaNeutralValidation : FieldReader Notice := do
  skip
  return .deltaNeutralValidation (← int) (← readDeltaNeutral)

def readOptionChain : FieldReader Notice := do
  return .securityDefinitionOptionalParameter (← int) (← text) (← int) (← text) (← text)
    (← counted text) (← counted double)

def readOptionChainEnd : FieldReader Notice := do
  return .securityDefinitionOptionalParameterEnd (← int)

def readPriceIncrement : FieldReader PriceIncrement := do
  return { lowEdge := ← double, increment := ← double }

def readMarketRule : FieldReader Notice := do
  return .marketRule (← int) (← counted readPriceIncrement)

end BrokerWire.Event
