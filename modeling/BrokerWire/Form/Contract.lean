import BrokerWire.Form.Common
import BrokerWire.Record.Contract

namespace BrokerWire

instance : JsonForm LegOpenClose := Numbered.form

def ComboLeg.members : List (Member ComboLeg) :=
  [
    .of "conId" (·.conId) fun v r => { r with conId := v },
    .of "ratio" (·.ratio) fun v r => { r with ratio := v },
    .opt "action" (·.action) fun v r => { r with action := v },
    .of "exchange" (·.exchange) fun v r => { r with exchange := v },
    .of "openClose" (·.openClose) fun v r => { r with openClose := v },
    .of "shortSaleSlot" (·.shortSaleSlot) fun v r => { r with shortSaleSlot := v },
    .of "designatedLocation" (·.designatedLocation) fun v r => { r with designatedLocation := v },
    .of "exemptCode" (·.exemptCode) fun v r => { r with exemptCode := v }
  ]

instance : JsonForm ComboLeg := Member.form ComboLeg.members {}

def DeltaNeutralContract.members : List (Member DeltaNeutralContract) :=
  [
    .of "conId" (·.conId) fun v r => { r with conId := v },
    .of "delta" (·.delta) fun v r => { r with delta := v },
    .of "price" (·.price) fun v r => { r with price := v }
  ]

instance : JsonForm DeltaNeutralContract := Member.form DeltaNeutralContract.members {}

def Contract.members : List (Member Contract) :=
  [
    .of "conId" (·.conId) fun v r => { r with conId := v },
    .of "symbol" (·.symbol) fun v r => { r with symbol := v },
    .opt "secType" (·.secType) fun v r => { r with secType := v },
    .of "lastTradeDateOrContractMonth" (·.lastTradeDateOrContractMonth) fun v r =>
      { r with lastTradeDateOrContractMonth := v },
    .of "lastTradeDate" (·.lastTradeDate) fun v r => { r with lastTradeDate := v },
    .opt "strike" (·.strike) fun v r => { r with strike := v },
    .opt "right" (·.right) fun v r => { r with right := v },
    .of "multiplier" (·.multiplier) fun v r => { r with multiplier := v },
    .of "exchange" (·.exchange) fun v r => { r with exchange := v },
    .of "primaryExchange" (·.primaryExchange) fun v r => { r with primaryExchange := v },
    .of "currency" (·.currency) fun v r => { r with currency := v },
    .of "localSymbol" (·.localSymbol) fun v r => { r with localSymbol := v },
    .of "tradingClass" (·.tradingClass) fun v r => { r with tradingClass := v },
    .of "includeExpired" (·.includeExpired) fun v r => { r with includeExpired := v },
    .opt "secIdType" (·.secIdType) fun v r => { r with secIdType := v },
    .of "secId" (·.secId) fun v r => { r with secId := v },
    .of "description" (·.description) fun v r => { r with description := v },
    .of "issuerId" (·.issuerId) fun v r => { r with issuerId := v },
    .of "comboLegsDescrip" (·.comboLegsDescrip) fun v r => { r with comboLegsDescrip := v },
    .items "comboLegs" (·.comboLegs) fun v r => { r with comboLegs := v },
    .opt "deltaNeutralContract" (·.deltaNeutralContract) fun v r =>
      { r with deltaNeutralContract := v }
  ]

instance : JsonForm Contract := Member.form Contract.members {}

def BondDetails.members : List (Member BondDetails) :=
  [
    .of "cusip" (·.cusip) fun v r => { r with cusip := v },
    .of "ratings" (·.ratings) fun v r => { r with ratings := v },
    .of "descAppend" (·.descAppend) fun v r => { r with descAppend := v },
    .of "bondType" (·.bondType) fun v r => { r with bondType := v },
    .of "couponType" (·.couponType) fun v r => { r with couponType := v },
    .of "coupon" (·.coupon) fun v r => { r with coupon := v },
    .of "callable" (·.callable) fun v r => { r with callable := v },
    .of "putable" (·.putable) fun v r => { r with putable := v },
    .of "convertible" (·.convertible) fun v r => { r with convertible := v },
    .of "maturity" (·.maturity) fun v r => { r with maturity := v },
    .of "issueDate" (·.issueDate) fun v r => { r with issueDate := v },
    .of "nextOptionDate" (·.nextOptionDate) fun v r => { r with nextOptionDate := v },
    .of "nextOptionType" (·.nextOptionType) fun v r => { r with nextOptionType := v },
    .of "nextOptionPartial" (·.nextOptionPartial) fun v r => { r with nextOptionPartial := v },
    .of "notes" (·.notes) fun v r => { r with notes := v }
  ]

instance : JsonForm BondDetails := Member.form BondDetails.members {}

def FundDetails.members : List (Member FundDetails) :=
  [
    .of "name" (·.name) fun v r => { r with name := v },
    .of "family" (·.family) fun v r => { r with family := v },
    .of "type" (·.kind) fun v r => { r with kind := v },
    .of "frontLoad" (·.frontLoad) fun v r => { r with frontLoad := v },
    .of "backLoad" (·.backLoad) fun v r => { r with backLoad := v },
    .of "backLoadTimeInterval" (·.backLoadTimeInterval) fun v r =>
      { r with backLoadTimeInterval := v },
    .of "managementFee" (·.managementFee) fun v r => { r with managementFee := v },
    .of "closed" (·.closed) fun v r => { r with closed := v },
    .of "closedForNewInvestors" (·.closedForNewInvestors) fun v r =>
      { r with closedForNewInvestors := v },
    .of "closedForNewMoney" (·.closedForNewMoney) fun v r => { r with closedForNewMoney := v },
    .of "notifyAmount" (·.notifyAmount) fun v r => { r with notifyAmount := v },
    .of "minimumInitialPurchase" (·.minimumInitialPurchase) fun v r =>
      { r with minimumInitialPurchase := v },
    .of "subsequentMinimumPurchase" (·.subsequentMinimumPurchase) fun v r =>
      { r with subsequentMinimumPurchase := v },
    .of "blueSkyStates" (·.blueSkyStates) fun v r => { r with blueSkyStates := v },
    .of "blueSkyTerritories" (·.blueSkyTerritories) fun v r => { r with blueSkyTerritories := v },
    .opt "distributionPolicyIndicator" (·.distributionPolicyIndicator) fun v r =>
      { r with distributionPolicyIndicator := v },
    .opt "assetType" (·.assetType) fun v r => { r with assetType := v }
  ]

instance : JsonForm FundDetails := Member.form FundDetails.members {}

def ContractDetails.members : List (Member ContractDetails) :=
  [
    .of "contract" (·.contract) fun v r => { r with contract := v },
    .of "marketName" (·.marketName) fun v r => { r with marketName := v },
    .of "minTick" (·.minTick) fun v r => { r with minTick := v },
    .of "orderTypes" (·.orderTypes) fun v r => { r with orderTypes := v },
    .of "validExchanges" (·.validExchanges) fun v r => { r with validExchanges := v },
    .of "priceMagnifier" (·.priceMagnifier) fun v r => { r with priceMagnifier := v },
    .of "underConId" (·.underConId) fun v r => { r with underConId := v },
    .of "longName" (·.longName) fun v r => { r with longName := v },
    .of "contractMonth" (·.contractMonth) fun v r => { r with contractMonth := v },
    .of "industry" (·.industry) fun v r => { r with industry := v },
    .of "category" (·.category) fun v r => { r with category := v },
    .of "subcategory" (·.subcategory) fun v r => { r with subcategory := v },
    .of "timeZoneId" (·.timeZoneId) fun v r => { r with timeZoneId := v },
    .of "tradingHours" (·.tradingHours) fun v r => { r with tradingHours := v },
    .of "liquidHours" (·.liquidHours) fun v r => { r with liquidHours := v },
    .of "evRule" (·.evRule) fun v r => { r with evRule := v },
    .of "evMultiplier" (·.evMultiplier) fun v r => { r with evMultiplier := v },
    .opt "aggGroup" (·.aggGroup) fun v r => { r with aggGroup := v },
    .of "underSymbol" (·.underSymbol) fun v r => { r with underSymbol := v },
    .of "underSecType" (·.underSecType) fun v r => { r with underSecType := v },
    .of "marketRuleIds" (·.marketRuleIds) fun v r => { r with marketRuleIds := v },
    .of "realExpirationDate" (·.realExpirationDate) fun v r => { r with realExpirationDate := v },
    .of "lastTradeTime" (·.lastTradeTime) fun v r => { r with lastTradeTime := v },
    .of "stockType" (·.stockType) fun v r => { r with stockType := v },
    .opt "minSize" (·.minSize) fun v r => { r with minSize := v },
    .opt "sizeIncrement" (·.sizeIncrement) fun v r => { r with sizeIncrement := v },
    .opt "suggestedSizeIncrement" (·.suggestedSizeIncrement) fun v r =>
      { r with suggestedSizeIncrement := v },
    .items "secIdList" (·.secIdList) fun v r => { r with secIdList := v },
    .of "bond" (·.bond) fun v r => { r with bond := v },
    .of "fund" (·.fund) fun v r => { r with fund := v },
    .items "ineligibilityReasons" (·.ineligibilityReasons) fun v r =>
      { r with ineligibilityReasons := v }
  ]

instance : JsonForm ContractDetails := Member.form ContractDetails.members {}

def ContractDescription.members : List (Member ContractDescription) :=
  [
    .of "contract" (·.contract) fun v r => { r with contract := v },
    .of "derivativeSecTypes" (·.derivativeSecTypes) fun v r => { r with derivativeSecTypes := v }
  ]

instance : JsonForm ContractDescription := Member.form ContractDescription.members {}

end BrokerWire
