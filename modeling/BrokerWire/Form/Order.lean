import BrokerWire.Form.Common
import BrokerWire.Form.Condition
import BrokerWire.Record.Order

namespace BrokerWire

instance : JsonForm Origin := Numbered.form

instance : JsonForm AuctionStrategy := Numbered.form

def DeltaNeutralOrder.members : List (Member DeltaNeutralOrder) :=
  List.map Member.kept [
    .of "orderType" (·.orderType) fun v r => { r with orderType := v },
    .opt "auxPrice" (·.auxPrice) fun v r => { r with auxPrice := v },
    .of "conId" (·.conId) fun v r => { r with conId := v },
    .of "settlingFirm" (·.settlingFirm) fun v r => { r with settlingFirm := v },
    .of "clearingAccount" (·.clearingAccount) fun v r => { r with clearingAccount := v },
    .of "clearingIntent" (·.clearingIntent) fun v r => { r with clearingIntent := v },
    .of "openClose" (·.openClose) fun v r => { r with openClose := v },
    .of "shortSale" (·.shortSale) fun v r => { r with shortSale := v },
    .of "shortSaleSlot" (·.shortSaleSlot) fun v r => { r with shortSaleSlot := v },
    .of "designatedLocation" (·.designatedLocation) fun v r => { r with designatedLocation := v }
  ]

instance : JsonForm DeltaNeutralOrder := Member.form DeltaNeutralOrder.members {}

def ScaleParams.members : List (Member ScaleParams) :=
  List.map Member.kept [
    .opt "initLevelSize" (·.initLevelSize) fun v r => { r with initLevelSize := v },
    .opt "subsLevelSize" (·.subsLevelSize) fun v r => { r with subsLevelSize := v },
    .opt "priceIncrement" (·.priceIncrement) fun v r => { r with priceIncrement := v },
    .opt "priceAdjustValue" (·.priceAdjustValue) fun v r => { r with priceAdjustValue := v },
    .opt "priceAdjustInterval" (·.priceAdjustInterval) fun v r =>
      { r with priceAdjustInterval := v },
    .opt "profitOffset" (·.profitOffset) fun v r => { r with profitOffset := v },
    .of "autoReset" (·.autoReset) fun v r => { r with autoReset := v },
    .opt "initPosition" (·.initPosition) fun v r => { r with initPosition := v },
    .opt "initFillQty" (·.initFillQty) fun v r => { r with initFillQty := v },
    .of "randomPercent" (·.randomPercent) fun v r => { r with randomPercent := v },
    .of "table" (·.table) fun v r => { r with table := v }
  ]

instance : JsonForm ScaleParams := Member.form ScaleParams.members {}

def PegBenchParams.members : List (Member PegBenchParams) :=
  List.map Member.kept [
    .opt "referenceContractId" (·.referenceContractId) fun v r =>
      { r with referenceContractId := v },
    .of "isPeggedChangeAmountDecrease" (·.isPeggedChangeAmountDecrease) fun v r =>
      { r with isPeggedChangeAmountDecrease := v },
    .opt "peggedChangeAmount" (·.peggedChangeAmount) fun v r => { r with peggedChangeAmount := v },
    .opt "referenceChangeAmount" (·.referenceChangeAmount) fun v r =>
      { r with referenceChangeAmount := v },
    .of "referenceExchangeId" (·.referenceExchangeId) fun v r =>
      { r with referenceExchangeId := v }
  ]

instance : JsonForm PegBenchParams := Member.form PegBenchParams.members {}

def AdjustedOrder.members : List (Member AdjustedOrder) :=
  List.map Member.kept [
    .of "orderType" (·.orderType) fun v r => { r with orderType := v },
    .opt "stopPrice" (·.stopPrice) fun v r => { r with stopPrice := v },
    .opt "stopLimitPrice" (·.stopLimitPrice) fun v r => { r with stopLimitPrice := v },
    .opt "trailingAmount" (·.trailingAmount) fun v r => { r with trailingAmount := v },
    .opt "trailingUnit" (·.trailingUnit) fun v r => { r with trailingUnit := v }
  ]

instance : JsonForm AdjustedOrder := Member.form AdjustedOrder.members {}

def DecisionMakers.members : List (Member DecisionMakers) :=
  List.map Member.kept [
    .of "decisionMaker" (·.decisionMaker) fun v r => { r with decisionMaker := v },
    .of "decisionAlgo" (·.decisionAlgo) fun v r => { r with decisionAlgo := v },
    .of "executionTrader" (·.executionTrader) fun v r => { r with executionTrader := v },
    .of "executionAlgo" (·.executionAlgo) fun v r => { r with executionAlgo := v }
  ]

instance : JsonForm DecisionMakers := Member.form DecisionMakers.members {}

/-- The members of an order, which may all be missing, in the order in which an array gives them. -/
def Order.members : List (Member Order) :=
  List.map Member.kept [
    .of "orderId" (·.identity.orderId) fun v r => { r with identity.orderId := v },
    .of "clientId" (·.identity.clientId) fun v r => { r with identity.clientId := v },
    .of "permId" (·.identity.permId) fun v r => { r with identity.permId := v },
    .of "parentId" (·.identity.parentId) fun v r => { r with identity.parentId := v },
    .opt "parentPermId" (·.identity.parentPermId) fun v r => { r with identity.parentPermId := v },
    .opt "action" (·.terms.action) fun v r => { r with terms.action := v },
    .opt "totalQuantity" (·.terms.totalQuantity) fun v r => { r with terms.totalQuantity := v },
    .opt "orderType" (·.terms.orderType) fun v r => { r with terms.orderType := v },
    .opt "lmtPrice" (·.terms.lmtPrice) fun v r => { r with terms.lmtPrice := v },
    .opt "auxPrice" (·.terms.auxPrice) fun v r => { r with terms.auxPrice := v },
    .opt "tif" (·.terms.tif) fun v r => { r with terms.tif := v },
    .opt "cashQty" (·.amounts.cashQty) fun v r => { r with amounts.cashQty := v },
    .opt "filledQuantity" (·.amounts.filledQuantity) fun v r =>
      { r with amounts.filledQuantity := v },
    .of "activeStartTime" (·.timing.activeStartTime) fun v r =>
      { r with timing.activeStartTime := v },
    .of "activeStopTime" (·.timing.activeStopTime) fun v r => { r with timing.activeStopTime := v },
    .of "goodAfterTime" (·.timing.goodAfterTime) fun v r => { r with timing.goodAfterTime := v },
    .of "goodTillDate" (·.timing.goodTillDate) fun v r => { r with timing.goodTillDate := v },
    .opt "duration" (·.timing.duration) fun v r => { r with timing.duration := v },
    .of "ocaGroup" (·.terms.ocaGroup) fun v r => { r with terms.ocaGroup := v },
    .of "ocaType" (·.handling.ocaType) fun v r => { r with handling.ocaType := v },
    .of "orderRef" (·.terms.orderRef) fun v r => { r with terms.orderRef := v },
    .of "transmit" (·.handling.transmit) fun v r => { r with handling.transmit := v },
    .of "blockOrder" (·.handling.blockOrder) fun v r => { r with handling.blockOrder := v },
    .of "sweepToFill" (·.handling.sweepToFill) fun v r => { r with handling.sweepToFill := v },
    .of "displaySize" (·.amounts.displaySize) fun v r => { r with amounts.displaySize := v },
    .of "triggerMethod" (·.timing.triggerMethod) fun v r => { r with timing.triggerMethod := v },
    .of "outsideRth" (·.timing.outsideRth) fun v r => { r with timing.outsideRth := v },
    .of "hidden" (·.handling.hidden) fun v r => { r with handling.hidden := v },
    .of "includeOvernight" (·.timing.includeOvernight) fun v r =>
      { r with timing.includeOvernight := v },
    .of "rule80a" (·.clearing.rule80a) fun v r => { r with clearing.rule80a := v },
    .of "allOrNone" (·.handling.allOrNone) fun v r => { r with handling.allOrNone := v },
    .opt "minQty" (·.amounts.minQty) fun v r => { r with amounts.minQty := v },
    .opt "percentOffset" (·.amounts.percentOffset) fun v r => { r with amounts.percentOffset := v },
    .of "overridePercentageConstraints" (·.handling.overridePercentageConstraints) fun v r =>
      { r with handling.overridePercentageConstraints := v },
    .opt "trailStopPrice" (·.trail.trailStopPrice) fun v r => { r with trail.trailStopPrice := v },
    .opt "trailingPercent" (·.trail.trailingPercent) fun v r =>
      { r with trail.trailingPercent := v },
    .opt "postToAts" (·.handling.postToAts) fun v r => { r with handling.postToAts := v },
    .of "routeMarketableToBbo" (·.handling.routeMarketableToBbo) fun v r =>
      { r with handling.routeMarketableToBbo := v },
    .of "imbalanceOnly" (·.handling.imbalanceOnly) fun v r =>
      { r with handling.imbalanceOnly := v },
    .of "faGroup" (·.advisor.faGroup) fun v r => { r with advisor.faGroup := v },
    .of "faMethod" (·.advisor.faMethod) fun v r => { r with advisor.faMethod := v },
    .of "faPercentage" (·.advisor.faPercentage) fun v r => { r with advisor.faPercentage := v },
    .of "modelCode" (·.advisor.modelCode) fun v r => { r with advisor.modelCode := v },
    .of "openClose" (·.terms.openClose) fun v r => { r with terms.openClose := v },
    .of "origin" (·.terms.origin) fun v r => { r with terms.origin := v },
    .of "shortSaleSlot" (·.clearing.shortSaleSlot) fun v r =>
      { r with clearing.shortSaleSlot := v },
    .of "designatedLocation" (·.clearing.designatedLocation) fun v r =>
      { r with clearing.designatedLocation := v },
    .of "exemptCode" (·.clearing.exemptCode) fun v r => { r with clearing.exemptCode := v },
    .of "settlingFirm" (·.clearing.settlingFirm) fun v r => { r with clearing.settlingFirm := v },
    .of "account" (·.terms.account) fun v r => { r with terms.account := v },
    .of "clearingAccount" (·.clearing.clearingAccount) fun v r =>
      { r with clearing.clearingAccount := v },
    .of "clearingIntent" (·.clearing.clearingIntent) fun v r =>
      { r with clearing.clearingIntent := v },
    .of "customerAccount" (·.clearing.customerAccount) fun v r =>
      { r with clearing.customerAccount := v },
    .of "professionalCustomer" (·.clearing.professionalCustomer) fun v r =>
      { r with clearing.professionalCustomer := v },
    .of "shareholder" (·.clearing.shareholder) fun v r => { r with clearing.shareholder := v },
    .of "discretionaryAmt" (·.auction.discretionaryAmt) fun v r =>
      { r with auction.discretionaryAmt := v },
    .of "discretionaryUpToLimitPrice" (·.auction.discretionaryUpToLimitPrice) fun v r =>
      { r with auction.discretionaryUpToLimitPrice := v },
    .of "auctionStrategy" (·.auction.auctionStrategy) fun v r =>
      { r with auction.auctionStrategy := v },
    .opt "startingPrice" (·.auction.startingPrice) fun v r => { r with auction.startingPrice := v },
    .opt "stockRefPrice" (·.auction.stockRefPrice) fun v r => { r with auction.stockRefPrice := v },
    .opt "delta" (·.auction.delta) fun v r => { r with auction.delta := v },
    .opt "stockRangeLower" (·.auction.stockRangeLower) fun v r =>
      { r with auction.stockRangeLower := v },
    .opt "stockRangeUpper" (·.auction.stockRangeUpper) fun v r =>
      { r with auction.stockRangeUpper := v },
    .of "randomizeSize" (·.auction.randomizeSize) fun v r => { r with auction.randomizeSize := v },
    .of "randomizePrice" (·.auction.randomizePrice) fun v r =>
      { r with auction.randomizePrice := v },
    .opt "volatility" (·.volatility.volatility) fun v r => { r with volatility.volatility := v },
    .opt "volatilityType" (·.volatility.volatilityType) fun v r =>
      { r with volatility.volatilityType := v },
    .of "continuousUpdate" (·.volatility.continuousUpdate) fun v r =>
      { r with volatility.continuousUpdate := v },
    .opt "referencePriceType" (·.volatility.referencePriceType) fun v r =>
      { r with volatility.referencePriceType := v },
    .of "deltaNeutral" (·.volatility.deltaNeutral) fun v r =>
      { r with volatility.deltaNeutral := v },
    .opt "basisPoints" (·.combo.basisPoints) fun v r => { r with combo.basisPoints := v },
    .opt "basisPointsType" (·.combo.basisPointsType) fun v r =>
      { r with combo.basisPointsType := v },
    .items "orderComboLegs" (·.combo.orderComboLegs) fun v r =>
      { r with combo.orderComboLegs := v },
    .items "smartComboRoutingParams" (·.combo.smartComboRoutingParams) fun v r =>
      { r with combo.smartComboRoutingParams := v },
    .of "scale" (·.scale) fun v r => { r with scale := v },
    .of "hedgeType" (·.hedge.hedgeType) fun v r => { r with hedge.hedgeType := v },
    .of "hedgeParam" (·.hedge.hedgeParam) fun v r => { r with hedge.hedgeParam := v },
    .of "dontUseAutoPriceForHedge" (·.hedge.dontUseAutoPriceForHedge) fun v r =>
      { r with hedge.dontUseAutoPriceForHedge := v },
    .of "algoStrategy" (·.algo.algoStrategy) fun v r => { r with algo.algoStrategy := v },
    .items "algoParams" (·.algo.algoParams) fun v r => { r with algo.algoParams := v },
    .of "algoId" (·.algo.algoId) fun v r => { r with algo.algoId := v },
    .of "whatIf" (·.handling.whatIf) fun v r => { r with handling.whatIf := v },
    .of "notHeld" (·.handling.notHeld) fun v r => { r with handling.notHeld := v },
    .of "solicited" (·.handling.solicited) fun v r => { r with handling.solicited := v },
    .of "optOutSmartRouting" (·.handling.optOutSmartRouting) fun v r =>
      { r with handling.optOutSmartRouting := v },
    .items "orderMiscOptions" (·.handling.orderMiscOptions) fun v r =>
      { r with handling.orderMiscOptions := v },
    .of "pegBench" (·.pegBench) fun v r => { r with pegBench := v },
    .of "adjusted" (·.adjustment.adjusted) fun v r => { r with adjustment.adjusted := v },
    .opt "triggerPrice" (·.adjustment.triggerPrice) fun v r =>
      { r with adjustment.triggerPrice := v },
    .opt "lmtPriceOffset" (·.adjustment.lmtPriceOffset) fun v r =>
      { r with adjustment.lmtPriceOffset := v },
    .items "conditions" (·.conditional.conditions) fun v r =>
      { r with conditional.conditions := v },
    .of "conditionsIgnoreRth" (·.conditional.conditionsIgnoreRth) fun v r =>
      { r with conditional.conditionsIgnoreRth := v },
    .of "conditionsCancelOrder" (·.conditional.conditionsCancelOrder) fun v r =>
      { r with conditional.conditionsCancelOrder := v },
    .of "extOperator" (·.compliance.extOperator) fun v r => { r with compliance.extOperator := v },
    .of "softDollarTier" (·.compliance.softDollarTier) fun v r =>
      { r with compliance.softDollarTier := v },
    .of "mifid2" (·.compliance.mifid2) fun v r => { r with compliance.mifid2 := v },
    .of "isOmsContainer" (·.handling.isOmsContainer) fun v r =>
      { r with handling.isOmsContainer := v },
    .of "autoCancelDate" (·.timing.autoCancelDate) fun v r => { r with timing.autoCancelDate := v },
    .of "autoCancelParent" (·.handling.autoCancelParent) fun v r =>
      { r with handling.autoCancelParent := v },
    .opt "refFuturesConId" (·.compliance.refFuturesConId) fun v r =>
      { r with compliance.refFuturesConId := v },
    .opt "usePriceMgmtAlgo" (·.handling.usePriceMgmtAlgo) fun v r =>
      { r with handling.usePriceMgmtAlgo := v },
    .of "advancedErrorOverride" (·.compliance.advancedErrorOverride) fun v r =>
      { r with compliance.advancedErrorOverride := v },
    .of "manualOrderTime" (·.timing.manualOrderTime) fun v r =>
      { r with timing.manualOrderTime := v },
    .opt "manualOrderIndicator" (·.compliance.manualOrderIndicator) fun v r =>
      { r with compliance.manualOrderIndicator := v },
    .opt "minTradeQty" (·.pegBest.minTradeQty) fun v r => { r with pegBest.minTradeQty := v },
    .opt "minCompeteSize" (·.pegBest.minCompeteSize) fun v r =>
      { r with pegBest.minCompeteSize := v },
    .opt "competeAgainstBestOffset" (·.pegBest.competeAgainstBestOffset) fun v r =>
      { r with pegBest.competeAgainstBestOffset := v },
    .opt "midOffsetAtWhole" (·.pegBest.midOffsetAtWhole) fun v r =>
      { r with pegBest.midOffsetAtWhole := v },
    .opt "midOffsetAtHalf" (·.pegBest.midOffsetAtHalf) fun v r =>
      { r with pegBest.midOffsetAtHalf := v },
    .of "bondAccruedInterest" (·.compliance.bondAccruedInterest) fun v r =>
      { r with compliance.bondAccruedInterest := v },
    .of "submitter" (·.compliance.submitter) fun v r => { r with compliance.submitter := v }
  ]

instance : JsonForm Order := Member.form Order.members {}

end BrokerWire
