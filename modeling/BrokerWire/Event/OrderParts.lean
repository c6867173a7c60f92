import BrokerWire.Event.Contract

namespace BrokerWire.Event

open FieldReader

/-- The version of messages that have every group. Completed orders carry no version and have all of
them. -/
def fullVersion : Int := 2147483647

def readTerms : FieldReader OrderTerms := do
  return {
    action := ← code
    totalQuantity := ← decimal
    orderType := ← code
    lmtPrice := ← optionalDouble
    auxPrice := ← optionalDouble
    tif := ← code
    ocaGroup := ← text
    account := ← text
    openClose := ← text
    origin := ← number .customer
    orderRef := ← text }

/-- The exempt code of a short sale. One server version sends it in a field without meaning. -/
def readExemptCode (sv : ServerVersion) (version : Int) : FieldReader Int32 :=
  if sv = 51 then (fun _ => -1) <$> skip else whenever (23 ≤ version) int (-1)

/-- The advisor's allocation, the expiry, the settling firm and the short sale of an order. -/
def readAllocation (sv : ServerVersion) (version : Int) (o : Order) : FieldReader Order := do
  let faGroup ← text
  let faMethod ← text
  let faPercentage ← text
  whenever (sv < Since.noAdvisorProfiles) skip ()
  let modelCode ← whenever (Since.modelCodes ≤ sv) text ""
  let goodTillDate ← text
  let rule80a ← text
  let percentOffset ← optionalDouble
  let settlingFirm ← text
  let shortSaleSlot ← int
  let designatedLocation ← text
  let exemptCode ← readExemptCode sv version
  return { o with
    advisor := ⟨faGroup, faMethod, faPercentage, modelCode⟩
    timing := { o.timing with goodTillDate := goodTillDate }
    amounts := { o.amounts with percentOffset := percentOffset }
    clearing := { o.clearing with
      rule80a := rule80a
      settlingFirm := settlingFirm
      shortSaleSlot := shortSaleSlot
      designatedLocation := designatedLocation
      exemptCode := exemptCode } }

def readStockRange (a : OrderAuction) : FieldReader OrderAuction := do
  return { a with
    startingPrice := ← optionalDouble
    stockRefPrice := ← optionalDouble
    delta := ← optionalDouble
    stockRangeLower := ← optionalDouble
    stockRangeUpper := ← optionalDouble }

/-- The hedge of a volatility order. Completed orders leave out the clearing and what the hedge
opens or closes. -/
def readHedgeOrder (version : Int) (isOpen : Bool) : FieldReader DeltaNeutralOrder := do
  let orderType ← text
  let auxPrice ← optionalDouble
  let identified := decide (27 ≤ version ∧ orderType ≠ "")
  let sold := decide (31 ≤ version ∧ orderType ≠ "")
  return {
    orderType := orderType
    auxPrice := auxPrice
    conId := ← whenever identified int 0
    settlingFirm := ← whenever (identified && isOpen) text ""
    clearingAccount := ← whenever (identified && isOpen) text ""
    clearingIntent := ← whenever (identified && isOpen) text ""
    openClose := ← whenever (sold && isOpen) text ""
    shortSale := ← whenever sold bool false
    shortSaleSlot := ← whenever sold int 0
    designatedLocation := ← whenever sold text "" }

def readVolatility (version : Int) (isOpen : Bool) : FieldReader OrderVolatility := do
  return {
    volatility := ← optionalDouble
    volatilityType := ← optionalInt
    deltaNeutral := ← readHedgeOrder version isOpen
    continuousUpdate := ← bool
    referencePriceType := ← optionalInt }

def readTrail (version : Int) : FieldReader OrderTrail := do
  return {
    trailStopPrice := ← optionalDouble
    trailingPercent := ← whenever (30 ≤ version) optionalDouble none }

def readComboLeg : FieldReader ComboLeg := do
  return {
    conId := ← int
    ratio := ← int
    action := ← code
    exchange := ← text
    openClose := ← number .same
    shortSaleSlot := ← int
    designatedLocation := ← text
    exemptCode := ← int }

/-- The legs of a combination, behind their description, and the prices of the legs. -/
def readComboLegs (version : Int) :
    FieldReader (String × List ComboLeg × List (Option Double)) := do
  let description ← text
  let legs ← whenever (29 ≤ version) (counted readComboLeg) []
  let prices ← whenever (29 ≤ version) (counted optionalDouble) []
  return (description, legs, prices)

/-- The sizes of a ladder. Old messages send a number of components in place of the first. -/
def readScaleSizes (version : Int) : FieldReader (Option Int32 × Option Int32) := do
  if 20 ≤ version then
    return (← optionalInt, ← optionalInt)
  else
    skip
    return (← optionalInt, none)

/-- The ladder of an order; what it adjusts is sent only if it moves. -/
def readScale (version : Int) : FieldReader ScaleParams := do
  let (initLevelSize, subsLevelSize) ← readScaleSizes version
  let priceIncrement ← optionalDouble
  let scale : ScaleParams :=
    { initLevelSize := initLevelSize
      subsLevelSize := subsLevelSize
      priceIncrement := priceIncrement }
  let moves := decide (28 ≤ version) && scale.hasAdjustments
  return { scale with
    priceAdjustValue := ← whenever moves optionalDouble none
    priceAdjustInterval := ← whenever moves optionalInt none
    profitOffset := ← whenever moves optionalDouble none
    autoReset := ← whenever moves bool false
    initPosition := ← whenever moves optionalInt none
    initFillQty := ← whenever moves optionalInt none
    randomPercent := ← whenever moves bool false }

def readHedge (version : Int) : FieldReader OrderHedge := do
  let hedgeType ← whenever (24 ≤ version) text ""
  return { hedgeType := hedgeType, hedgeParam := ← whenever (hedgeType ≠ "") text "" }

/-- The underlying of a delta neutral combination, behind a flag. -/
def readUnderlying (version : Int) : FieldReader (Option DeltaNeutralContract) := do
  if ← whenever (20 ≤ version) bool false then
    some <$> readDeltaNeutral
  else
    return none

def readAlgo (version : Int) : FieldReader OrderAlgo := do
  let strategy ← whenever (21 ≤ version) text ""
  return {
    algoStrategy := strategy
    algoParams := ← whenever (strategy ≠ "") (counted readTagValue) [] }

def readRandomize (version : Int) (a : OrderAuction) : FieldReader OrderAuction := do
  return { a with
    randomizeSize := ← whenever (34 ≤ version) bool false
    randomizePrice := ← whenever (34 ≤ version) bool false }

/-- The reference contract of an order pegged to a benchmark; other orders have none. -/
def readPegBench (sv : ServerVersion) (kind : Option (Code OrderKind)) :
    FieldReader PegBenchParams := do
  if Since.benchmarkPegs ≤ sv ∧ kind = some (.known .peggedToBenchmark) then
    return {
      referenceContractId := ← optionalInt
      isPeggedChangeAmountDecrease := ← bool
      peggedChangeAmount := ← optionalDouble
      referenceChangeAmount := ← optionalDouble
      referenceExchangeId := ← text }
  else
    return {}

def readComparison : FieldReader Comparison := do
  return { isMore := ← bool, value := ← text }

def readScope : FieldReader ContractScope := do
  return { conId := ← int, exchange := ← text }

/-- What a condition of a type watches. -/
def readConditionKind : ConditionType → FieldReader ConditionKind
  | .price => do return .price (← readComparison) (← readScope) (← number .default)
  | .time => do return .time (← readComparison)
  | .margin => do return .margin (← readComparison)
  | .execution => do return .execution (← text) (← text) (← text)
  | .volume => do return .volume (← readComparison) (← readScope)
  | .percentChange => do return .percentChange (← readComparison) (← readScope)

/-- A condition: its type, how it is joined with the next one, and what it watches. -/
def readCondition : FieldReader OrderCondition := do
  let n ← int
  match (Numbered.ofCode? n : Option ConditionType) with
  | none => .fail (.unknownCondition n)
  | some type => return ⟨.ofLetter (← text), ← readConditionKind type⟩

/-- The conditions of an order, and two flags if there are any. -/
def readConditions (sv : ServerVersion) : FieldReader OrderConditions := do
  let conditions ← whenever (Since.benchmarkPegs ≤ sv) (counted readCondition) []
  return {
    conditions := conditions
    conditionsIgnoreRth := ← whenever (!conditions.isEmpty) bool false
    conditionsCancelOrder := ← whenever (!conditions.isEmpty) bool false }

def readPegBest (sv : ServerVersion) : FieldReader OrderPegBest := do
  let known := decide (Since.pegOffsets ≤ sv)
  return {
    minTradeQty := ← whenever known optionalInt none
    minCompeteSize := ← whenever known optionalInt none
    competeAgainstBestOffset := ← whenever known optionalDouble none
    midOffsetAtWhole := ← whenever known optionalDouble none
    midOffsetAtHalf := ← whenever known optionalDouble none }

def readOrderAllocation : FieldReader OrderAllocation := do
  return {
    account := ← text
    position := ← decimal
    positionDesired := ← decimal
    positionAfter := ← decimal
    desiredAllocQty := ← decimal
    allowedAllocQty := ← decimal
    isMonetary := ← bool }

/-- The margins, the commission and the preview of an order. -/
def readPreview (sv : ServerVersion) (s : OrderState) : FieldReader OrderState := do
  let compared := decide (Since.previewFields ≤ sv)
  let full := decide (Since.fullPreview ≤ sv)
  return { s with
    initMarginBefore := ← whenever compared text ""
    maintMarginBefore := ← whenever compared text ""
    equityWithLoanBefore := ← whenever compared text ""
    initMarginChange := ← whenever compared text ""
    maintMarginChange := ← whenever compared text ""
    equityWithLoanChange := ← whenever compared text ""
    initMarginAfter := ← text
    maintMarginAfter := ← text
    equityWithLoanAfter := ← text
    commissionAndFees := ← optionalDouble
    minCommissionAndFees := ← optionalDouble
    maxCommissionAndFees := ← optionalDouble
    commissionAndFeesCurrency := ← text
    marginCurrency := ← whenever full text ""
    outsideRthMargins := ← whenever full (list 9 optionalDouble) []
    suggestedSize := ← whenever full decimal none
    rejectReason := ← whenever full text ""
    orderAllocations := ← whenever full (counted readOrderAllocation) []
    warningText := ← text }

end BrokerWire.Event
