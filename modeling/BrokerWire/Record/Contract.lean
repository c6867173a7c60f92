import BrokerWire.Record.Common
import BrokerWire.Code.Words
import BrokerWire.Code.Numbers

namespace BrokerWire

/-- One leg of a combination. The exempt code -1 means that the leg is not exempt. -/
structure ComboLeg where
  conId : Int32 := 0
  ratio : Int32 := 0
  action : Option (Code Side) := none
  exchange : String := ""
  openClose : LegOpenClose := .same
  shortSaleSlot : Int32 := 0
  designatedLocation : String := ""
  exemptCode : Int32 := -1
  deriving DecidableEq

/-- The underlying that a delta neutral combination is hedged with. -/
structure DeltaNeutralContract where
  conId : Int32 := 0
  delta : Double := .zero
  price : Double := .zero
  deriving DecidableEq

structure Contract where
  conId : Int32 := 0
  symbol : String := ""
  secType : Option (Code Security) := none
  lastTradeDateOrContractMonth : String := ""
  lastTradeDate : String := ""
  strike : Option Double := none
  right : Option (Code OptionRight) := none
  multiplier : String := ""
  exchange : String := ""
  primaryExchange : String := ""
  currency : String := ""
  localSymbol : String := ""
  tradingClass : String := ""
  includeExpired : Bool := false
  secIdType : Option (Code SecurityIdScheme) := none
  secId : String := ""
  description : String := ""
  issuerId : String := ""
  comboLegsDescrip : String := ""
  comboLegs : List ComboLeg := []
  deltaNeutralContract : Option DeltaNeutralContract := none
  deriving DecidableEq

namespace Contract

def isCombo (c : Contract) : Bool :=
  c.secType = some (.known .combo)

/-- A stock that the gateway routes. -/
def stock (symbol currency : String) : Contract :=
  { symbol := symbol
    secType := some (.known .stock)
    exchange := "SMART"
    currency := currency }

end Contract

structure BondDetails where
  cusip : String := ""
  ratings : String := ""
  descAppend : String := ""
  bondType : String := ""
  couponType : String := ""
  coupon : Double := .zero
  callable : Bool := false
  putable : Bool := false
  convertible : Bool := false
  maturity : String := ""
  issueDate : String := ""
  nextOptionDate : String := ""
  nextOptionType : String := ""
  nextOptionPartial : Bool := false
  notes : String := ""
  deriving DecidableEq

structure FundDetails where
  name : String := ""
  family : String := ""
  kind : String := ""
  frontLoad : String := ""
  backLoad : String := ""
  backLoadTimeInterval : String := ""
  managementFee : String := ""
  closed : Bool := false
  closedForNewInvestors : Bool := false
  closedForNewMoney : Bool := false
  notifyAmount : String := ""
  minimumInitialPurchase : String := ""
  subsequentMinimumPurchase : String := ""
  blueSkyStates : String := ""
  blueSkyTerritories : String := ""
  distributionPolicyIndicator : Option (Code FundPayout) := none
  assetType : Option (Code FundAsset) := none
  deriving DecidableEq

/-- A contract and what the gateway knows about it. -/
structure ContractDetails where
  contract : Contract := {}
  marketName : String := ""
  minTick : Double := .zero
  orderTypes : String := ""
  validExchanges : String := ""
  priceMagnifier : Int32 := 0
  underConId : Int32 := 0
  longName : String := ""
  contractMonth : String := ""
  industry : String := ""
  category : String := ""
  subcategory : String := ""
  timeZoneId : String := ""
  tradingHours : String := ""
  liquidHours : String := ""
  evRule : String := ""
  evMultiplier : Double := .zero
  aggGroup : Option Int32 := none
  underSymbol : String := ""
  underSecType : String := ""
  marketRuleIds : String := ""
  realExpirationDate : String := ""
  lastTradeTime : String := ""
  stockType : String := ""
  minSize : Option Decimal := none
  sizeIncrement : Option Decimal := none
  suggestedSizeIncrement : Option Decimal := none
  secIdList : List TagValue := []
  bond : BondDetails := {}
  fund : FundDetails := {}
  ineligibilityReasons : List IneligibilityReason := []
  deriving DecidableEq

structure ContractDescription where
  contract : Contract := {}
  derivativeSecTypes : List String := []
  deriving DecidableEq

end BrokerWire
