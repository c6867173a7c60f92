import BrokerWire.Event.Decode
import BrokerWire.Proofs.Event.OrderGroups

namespace BrokerWire

open Item (counted since)

/-- The texts of fields that nobody reads. -/
structure UnreadTexts where
  sharesAllocation : String := ""
  profile : String := ""
  eTradeOnly : String := ""
  firmQuoteOnly : String := ""
  nbboPriceCap : String := ""
  deriving DecidableEq

namespace Order

/-- The fields that an order's identity, contract and terms fill in an open order. -/
def openHeadItems (unread : UnreadTexts) (c : Contract) (o : Order) : List Item :=
  [⟨.int, o.identity.orderId⟩] ++ c.items ++ o.terms.items ++
  [⟨.int, o.identity.clientId⟩, ⟨.long, o.identity.permId⟩, ⟨.bool, o.timing.outsideRth⟩,
    ⟨.bool, o.handling.hidden⟩, ⟨.double, o.auction.discretionaryAmt⟩,
    ⟨.text, o.timing.goodAfterTime⟩, ⟨.text, unread.sharesAllocation⟩]

def openHandlingItems (unread : UnreadTexts) (o : Order) : List Item :=
  [⟨.number AuctionStrategy .unset, o.auction.auctionStrategy⟩] ++ o.auction.rangeItems ++
  [⟨.int, o.amounts.displaySize⟩, ⟨.bool, o.handling.blockOrder⟩, ⟨.bool, o.handling.sweepToFill⟩,
    ⟨.bool, o.handling.allOrNone⟩, ⟨.optionalInt, o.amounts.minQty⟩, ⟨.int, o.handling.ocaType⟩,
    ⟨.text, unread.eTradeOnly⟩, ⟨.text, unread.firmQuoteOnly⟩, ⟨.text, unread.nbboPriceCap⟩,
    ⟨.int, o.identity.parentId⟩, ⟨.int, o.timing.triggerMethod⟩]

def openPricingItems (c : Contract) (o : Order) : List Item :=
  o.volatility.items true ++ o.trail.items ++
  [⟨.optionalDouble, o.combo.basisPoints⟩, ⟨.optionalInt, o.combo.basisPointsType⟩] ++
  c.comboItems o.combo.orderComboLegs ++
  counted TagValue.items o.combo.smartComboRoutingParams ++ o.scale.items

def openClearingItems (c : Contract) (o : Order) : List Item :=
  o.hedge.items ++
  [⟨.bool, o.handling.optOutSmartRouting⟩, ⟨.text, o.clearing.clearingAccount⟩,
    ⟨.text, o.clearing.clearingIntent⟩, ⟨.bool, o.handling.notHeld⟩] ++
  DeltaNeutralContract.items c.deltaNeutralContract ++ o.algo.items ++
  [⟨.bool, o.handling.solicited⟩, ⟨.bool, o.handling.whatIf⟩]

/-- What becomes of a stop order; the stop of the trail is written once more in between. -/
def adjustmentItems (o : Order) : List Item :=
  [⟨.text, o.adjustment.adjusted.orderType⟩, ⟨.optionalDouble, o.adjustment.triggerPrice⟩,
    ⟨.optionalDouble, o.trail.trailStopPrice⟩, ⟨.optionalDouble, o.adjustment.lmtPriceOffset⟩,
    ⟨.optionalDouble, o.adjustment.adjusted.stopPrice⟩,
    ⟨.optionalDouble, o.adjustment.adjusted.stopLimitPrice⟩,
    ⟨.optionalDouble, o.adjustment.adjusted.trailingAmount⟩,
    ⟨.optionalInt, o.adjustment.adjusted.trailingUnit⟩]

def openConditionsItems (sv : ServerVersion) (o : Order) : List Item :=
  o.auction.randomizeItems ++ o.pegBench.items sv o.terms.orderType ++ o.conditional.items sv ++
  since Since.benchmarkPegs sv o.adjustmentItems

def openAdditionsItems (sv : ServerVersion) (o : Order) : List Item :=
  since Since.softDollarTiers sv o.compliance.softDollarTier.items ++
  since Since.cashQuantities sv [⟨.optionalDouble, o.amounts.cashQty⟩] ++
  since Since.hedgePricing sv [⟨.bool, o.hedge.dontUseAutoPriceForHedge⟩] ++
  since Since.orderContainers sv [⟨.bool, o.handling.isOmsContainer⟩] ++
  since Since.discretionUpToLimit sv [⟨.bool, o.auction.discretionaryUpToLimitPrice⟩] ++
  since Since.priceManagement sv [⟨.bool, o.handling.usePriceMgmtAlgo.getD false⟩] ++
  since Since.durations sv [⟨.optionalInt, o.timing.duration⟩] ++
  since Since.postToAts sv [⟨.optionalInt, o.handling.postToAts⟩] ++
  since Since.cancellingParents sv [⟨.bool, o.handling.autoCancelParent⟩] ++
  o.pegBest.items sv

def openOwnerItems (sv : ServerVersion) (o : Order) : List Item :=
  since Since.customerAccounts sv [⟨.text, o.clearing.customerAccount⟩] ++
  since Since.professionalCustomers sv [⟨.bool, o.clearing.professionalCustomer⟩] ++
  since Since.accruedInterest sv [⟨.text, o.compliance.bondAccruedInterest⟩] ++
  since Since.overnightOrders sv [⟨.bool, o.timing.includeOvernight⟩] ++
  since Since.operatorTagsReported sv [⟨.text, o.compliance.extOperator⟩] ++
  since Since.operatorTagsReported sv [⟨.optionalInt, o.compliance.manualOrderIndicator⟩] ++
  since Since.submitters sv [⟨.text, o.compliance.submitter⟩] ++
  since Since.imbalanceOnly sv [⟨.bool, o.handling.imbalanceOnly⟩]

/-- An open order, field by field. -/
def openItems (sv : ServerVersion) (unread : UnreadTexts) (c : Contract) (o : Order)
    (s : OrderState) : List Item :=
  o.openHeadItems unread c ++ o.allocationItems sv unread.profile ++ o.openHandlingItems unread ++
  o.openPricingItems c ++ o.openClearingItems c ++ [⟨.text, s.status⟩] ++ s.items sv ++
  o.openConditionsItems sv ++ o.openAdditionsItems sv ++ o.openOwnerItems sv

def openMessage (sv : ServerVersion) (unread : UnreadTexts) (c : Contract) (o : Order)
    (s : OrderState) : Message :=
  Item.message (Numbered.code Inbound.openOrder) (o.openItems sv unread c s)

/-- What an open order carries of an order; servers of these versions know everything that is not
gated here. -/
def inOpen (sv : ServerVersion) (o : Order) : Order where
  identity :=
    { orderId := o.identity.orderId
      clientId := o.identity.clientId
      permId := o.identity.permId
      parentId := o.identity.parentId }
  terms := o.terms
  amounts :=
    { cashQty := if Since.cashQuantities ≤ sv then o.amounts.cashQty else none
      displaySize := o.amounts.displaySize
      minQty := o.amounts.minQty
      percentOffset := o.amounts.percentOffset }
  timing :=
    { goodAfterTime := o.timing.goodAfterTime
      goodTillDate := o.timing.goodTillDate
      duration := if Since.durations ≤ sv then o.timing.duration else none
      triggerMethod := o.timing.triggerMethod
      outsideRth := o.timing.outsideRth
      includeOvernight := if Since.overnightOrders ≤ sv then o.timing.includeOvernight else false }
  handling :=
    { blockOrder := o.handling.blockOrder
      sweepToFill := o.handling.sweepToFill
      hidden := o.handling.hidden
      allOrNone := o.handling.allOrNone
      ocaType := o.handling.ocaType
      postToAts := if Since.postToAts ≤ sv then o.handling.postToAts else none
      imbalanceOnly := if Since.imbalanceOnly ≤ sv then o.handling.imbalanceOnly else false
      whatIf := o.handling.whatIf
      notHeld := o.handling.notHeld
      solicited := o.handling.solicited
      optOutSmartRouting := o.handling.optOutSmartRouting
      isOmsContainer := if Since.orderContainers ≤ sv then o.handling.isOmsContainer else false
      autoCancelParent :=
        if Since.cancellingParents ≤ sv then o.handling.autoCancelParent else false
      usePriceMgmtAlgo :=
        if Since.priceManagement ≤ sv then some (o.handling.usePriceMgmtAlgo.getD false)
        else none }
  trail := o.trail
  advisor :=
    { o.advisor with modelCode := if Since.modelCodes ≤ sv then o.advisor.modelCode else "" }
  clearing :=
    { o.clearing with
      customerAccount := if Since.customerAccounts ≤ sv then o.clearing.customerAccount else ""
      professionalCustomer :=
        if Since.professionalCustomers ≤ sv then o.clearing.professionalCustomer else false
      shareholder := "" }
  auction :=
    { o.auction with
      discretionaryUpToLimitPrice :=
        if Since.discretionUpToLimit ≤ sv then o.auction.discretionaryUpToLimitPrice else false }
  volatility := o.volatility.told true
  combo := o.combo
  hedge :=
    { o.hedge.told with
      dontUseAutoPriceForHedge :=
        if Since.hedgePricing ≤ sv then o.hedge.dontUseAutoPriceForHedge else false }
  algo := o.algo.told
  pegBest := o.pegBest.told sv
  adjustment := o.adjustment
  conditional := o.conditional.told sv
  compliance :=
    { extOperator := if Since.operatorTagsReported ≤ sv then o.compliance.extOperator else ""
      softDollarTier := if Since.softDollarTiers ≤ sv then o.compliance.softDollarTier else {}
      manualOrderIndicator :=
        if Since.operatorTagsReported ≤ sv then o.compliance.manualOrderIndicator else none
      submitter := if Since.submitters ≤ sv then o.compliance.submitter else ""
      bondAccruedInterest :=
        if Since.accruedInterest ≤ sv then o.compliance.bondAccruedInterest else "" }
  scale := o.scale.told
  pegBench := o.pegBench.told sv o.terms.orderType

end Order

/-- What an open order carries of the state of an order. -/
def OrderState.inOpen (sv : ServerVersion) (s : OrderState) : OrderState :=
  { s with
    marginCurrency := if Since.fullPreview ≤ sv then s.marginCurrency else ""
    outsideRthMargins := if Since.fullPreview ≤ sv then s.outsideRthMargins else []
    suggestedSize := if Since.fullPreview ≤ sv then s.suggestedSize else none
    rejectReason := if Since.fullPreview ≤ sv then s.rejectReason else ""
    orderAllocations := if Since.fullPreview ≤ sv then s.orderAllocations else []
    completedTime := ""
    completedStatus := "" }

namespace Event

open FieldReader

theorem tells_openHead (unread : UnreadTexts) (c : Contract) (o : Order) :
    Tells (o.openHeadItems unread c) readOpenHead ({ c.inOrder with
        comboLegsDescrip := "", comboLegs := [], deltaNeutralContract := none }, {
      identity :=
        { orderId := o.identity.orderId
          clientId := o.identity.clientId
          permId := o.identity.permId }
      terms := o.terms
      timing :=
        { outsideRth := o.timing.outsideRth
          goodAfterTime := o.timing.goodAfterTime }
      handling := { hidden := o.handling.hidden }
      auction := { discretionaryAmt := o.auction.discretionaryAmt } }) := by
  simp only [Order.openHeadItems, List.append_assoc, List.cons_append, List.nil_append]
  exact .int <| .bind (tells_contract c) <| .bind (tells_terms o.terms) <| .int <| .long <| .bool <|
    .bool <| .double <| .text <| .skip <| .pure _

theorem tells_openHandling (unread : UnreadTexts) (o written : Order) :
    Tells (written.openHandlingItems unread) (readOpenHandling o) { o with
      auction := { o.auction with
        auctionStrategy := written.auction.auctionStrategy
        startingPrice := written.auction.startingPrice
        stockRefPrice := written.auction.stockRefPrice
        delta := written.auction.delta
        stockRangeLower := written.auction.stockRangeLower
        stockRangeUpper := written.auction.stockRangeUpper }
      amounts := { o.amounts with
        displaySize := written.amounts.displaySize
        minQty := written.amounts.minQty }
      handling := { o.handling with
        blockOrder := written.handling.blockOrder
        sweepToFill := written.handling.sweepToFill
        allOrNone := written.handling.allOrNone
        ocaType := written.handling.ocaType }
      identity := { o.identity with parentId := written.identity.parentId }
      timing := { o.timing with triggerMethod := written.timing.triggerMethod } } := by
  simp only [Order.openHandlingItems, List.cons_append, List.nil_append]
  exact .number <| .bind (tells_range _ written.auction) <| .int <| .bool <| .bool <| .bool <|
    .optionalInt <| .int <| .skips_succ <| .skips_succ <| .skips_succ <| .skips_zero <| .int <|
    .int <| .pure _

theorem tells_openPricing {version : Int} (hv : 34 ≤ version) (c : Contract) (o : Order)
    (legs : Contract) (written : Order) :
    Tells (written.openPricingItems legs) (readOpenPricing version c o)
      ({ c with comboLegsDescrip := legs.comboLegsDescrip, comboLegs := legs.comboLegs }, { o with
        volatility := written.volatility.told true
        trail := written.trail
        combo := written.combo
        scale := written.scale.told }) := by
  have hknown : decide (26 ≤ version) = true := decide_eq_true (by omega)
  simp only [Order.openPricingItems, List.append_assoc, List.cons_append, List.nil_append]
  exact .bind (tells_volatility (by omega) true written.volatility) <|
    .bind (tells_trail hv written.trail) <| .optionalDouble <| .optionalInt <|
    .bind (tells_comboLegs (by omega) legs written.combo.orderComboLegs) <|
    .known hknown <| .bind (.counted fun p _ => tells_tagValue p) <|
    .final (tells_scale (by omega) written.scale) <| .pure _

theorem tells_openClearing {version : Int} (hv : 34 ≤ version) (c : Contract) (o : Order)
    (hedged : Contract) (written : Order) :
    Tells (written.openClearingItems hedged) (readOpenClearing version c o)
      ({ c with deltaNeutralContract := hedged.deltaNeutralContract }, { o with
        hedge := written.hedge.told
        handling := { o.handling with
          optOutSmartRouting := written.handling.optOutSmartRouting
          notHeld := written.handling.notHeld
          solicited := written.handling.solicited
          whatIf := written.handling.whatIf }
        clearing := { o.clearing with
          clearingAccount := written.clearing.clearingAccount
          clearingIntent := written.clearing.clearingIntent }
        algo := written.algo.told }) := by
  have hopts : decide (25 ≤ version) = true := decide_eq_true (by omega)
  have hholds : decide (22 ≤ version) = true := decide_eq_true (by omega)
  have hsolicits : decide (33 ≤ version) = true := decide_eq_true (by omega)
  simp only [Order.openClearingItems, List.append_assoc, List.cons_append, List.nil_append]
  exact .bind (tells_hedge (by omega) written.hedge) <| .known hopts <| .bool <| .text <| .text <|
    .known hholds <| .bool <| .bind (tells_underlying (by omega) hedged.deltaNeutralContract) <|
    .bind (tells_algo (by omega) written.algo) <| .known hsolicits <| .bool <| .bool <| .pure _

theorem tells_openAdjustment (o written : Order) :
    Tells written.adjustmentItems (readOpenAdjustment o) { o with
      adjustment := written.adjustment
      trail := { o.trail with trailStopPrice := written.trail.trailStopPrice } } :=
  .text <| .optionalDouble <| .optionalDouble <| .optionalDouble <| .optionalDouble <|
    .optionalDouble <| .optionalDouble <| .optionalInt <| .pure _

theorem tells_openConditions {sv : ServerVersion} (hsv : Since.benchmarkPegs ≤ sv) {version : Int}
    (hv : 34 ≤ version) (o written : Order) (hkind : o.terms.orderType = written.terms.orderType) :
    Tells (written.openConditionsItems sv) (readOpenConditions sv version o) { o with
      auction := { o.auction with
        randomizeSize := written.auction.randomizeSize
        randomizePrice := written.auction.randomizePrice }
      pegBench := written.pegBench.told sv written.terms.orderType
      conditional := written.conditional.told sv
      adjustment := written.adjustment
      trail := { o.trail with trailStopPrice := written.trail.trailStopPrice } } := by
  unfold readOpenConditions
  rw [hkind]
  simp only [Order.openConditionsItems, Item.since, if_pos hsv, List.append_assoc]
  exact .bind (tells_randomize hv o.auction written.auction) <|
    .bind (tells_pegBench sv _ written.pegBench) <|
    .bind (tells_conditions sv written.conditional) <| .last <| .known (decide_eq_true hsv) <|
    .final (tells_openAdjustment _ written) <| .pure _

theorem tells_openAdditions (sv : ServerVersion) (o written : Order) :
    Tells (written.openAdditionsItems sv) (readOpenAdditions sv o) { o with
      compliance := { o.compliance with
        softDollarTier :=
          if Since.softDollarTiers ≤ sv then written.compliance.softDollarTier else {} }
      amounts := { o.amounts with
        cashQty := if Since.cashQuantities ≤ sv then written.amounts.cashQty else none }
      hedge := { o.hedge with
        dontUseAutoPriceForHedge :=
          if Since.hedgePricing ≤ sv then written.hedge.dontUseAutoPriceForHedge else false }
      auction := { o.auction with
        discretionaryUpToLimitPrice :=
          if Since.discretionUpToLimit ≤ sv then written.auction.discretionaryUpToLimitPrice
          else false }
      timing := { o.timing with
        duration := if Since.durations ≤ sv then written.timing.duration else none }
      handling := { o.handling with
        isOmsContainer :=
          if Since.orderContainers ≤ sv then written.handling.isOmsContainer else false
        usePriceMgmtAlgo :=
          if Since.priceManagement ≤ sv then some (written.handling.usePriceMgmtAlgo.getD false)
          else none
        postToAts := if Since.postToAts ≤ sv then written.handling.postToAts else none
        autoCancelParent :=
          if Since.cancellingParents ≤ sv then written.handling.autoCancelParent else false }
      pegBest := written.pegBest.told sv } := by
  simp only [Order.openAdditionsItems, List.append_assoc]
  exact .since (fun _ => tells_softDollarTier _) <| .since (fun _ => tells_optionalDouble _) <|
    .since (fun _ => tells_bool _) <| .since (fun _ => tells_bool _) <|
    .since (fun _ => tells_bool _) <| .since (fun _ => .map (tells_bool _) some) <|
    .since (fun _ => tells_optionalInt _) <| .since (fun _ => tells_optionalInt _) <|
    .since (fun _ => tells_bool _) <| .final (tells_pegBest sv written.pegBest) <|
    .pure _

theorem tells_openOwner (sv : ServerVersion) (o written : Order) :
    Tells (written.openOwnerItems sv) (readOpenOwner sv o) { o with
      clearing := { o.clearing with
        customerAccount :=
          if Since.customerAccounts ≤ sv then written.clearing.customerAccount else ""
        professionalCustomer :=
          if Since.professionalCustomers ≤ sv then written.clearing.professionalCustomer
          else false }
      compliance := { o.compliance with
        bondAccruedInterest :=
          if Since.accruedInterest ≤ sv then written.compliance.bondAccruedInterest else ""
        extOperator :=
          if Since.operatorTagsReported ≤ sv then written.compliance.extOperator else ""
        manualOrderIndicator :=
          if Since.operatorTagsReported ≤ sv then written.compliance.manualOrderIndicator else none
        submitter := if Since.submitters ≤ sv then written.compliance.submitter else "" }
      timing := { o.timing with
        includeOvernight :=
          if Since.overnightOrders ≤ sv then written.timing.includeOvernight else false }
      handling := { o.handling with
        imbalanceOnly :=
          if Since.imbalanceOnly ≤ sv then written.handling.imbalanceOnly else false } } := by
  rw [Order.openOwnerItems, ← List.append_nil (since Since.imbalanceOnly sv _)]
  simp only [List.append_assoc]
  exact .since (fun _ => tells_text _) <| .since (fun _ => tells_bool _) <|
    .since (fun _ => tells_text _) <| .since (fun _ => tells_bool _) <|
    .since (fun _ => tells_text _) <| .since (fun _ => tells_optionalInt _) <|
    .since (fun _ => tells_text _) <| .since (fun _ => tells_bool _) <|
    .pure _

theorem tells_openOrder {sv : ServerVersion} (hsv : Since.orderContainers ≤ sv)
    (unread : UnreadTexts) (c : Contract) (o : Order) (s : OrderState)
    (hmargins : Since.fullPreview ≤ sv → s.outsideRthMargins.length = 9) :
    Tells (o.openItems sv unread c s) (readOpenOrder sv)
      (.openOrder o.identity.orderId c.inOrder (o.inOpen sv) (s.inOpen sv)) := by
  have hcode : sv ≠ 51 := by
    rintro rfl
    exact absurd hsv (by decide)
  have hv : (34 : Int) ≤ sv := Int.le_trans (by decide) hsv
  have hpegs : Since.benchmarkPegs ≤ sv := Int.le_trans (by decide) hsv
  have hpreview : Since.previewFields ≤ sv := Int.le_trans (by decide) hsv
  -- Messages of these servers carry no version of their own.
  have hversion : messageVersion Since.orderContainers sv = pure sv := if_pos hsv
  unfold readOpenOrder
  rw [hversion, pure_bind]
  simp only [Order.openItems, List.append_assoc, List.cons_append, List.nil_append]
  exact .bind (tells_openHead unread c o) <|
    .bind (tells_allocation hcode hv unread.profile _ o) <|
    .bind (tells_openHandling unread _ o) <| .bind (tells_openPricing hv _ _ c o) <|
    .bind (tells_openClearing hv _ _ c o) <| .text <| .bind (tells_preview hpreview _ s hmargins) <|
    .bind (tells_openConditions hpegs hv _ o rfl) <| .bind (tells_openAdditions sv _ o) <|
    .final (tells_openOwner sv _ o) <| .pure _

/-- What is told of an open order is enough to write its message again. -/
theorem openItems_told (sv : ServerVersion) (unread : UnreadTexts) (c : Contract) (o : Order)
    (s : OrderState) :
    (o.inOpen sv).openItems sv unread c.inOrder (s.inOpen sv) = o.openItems sv unread c s := by
  have hallocation : (o.inOpen sv).allocationItems sv unread.profile =
      o.allocationItems sv unread.profile := by
    simp +contextual only [Order.allocationItems, Order.inOpen, if_true]
  have hpricing : (o.inOpen sv).openPricingItems c.inOrder = o.openPricingItems c := by
    simp only [Order.openPricingItems, Order.inOpen, OrderVolatility.items_told,
      ScaleParams.items_told, Contract.comboItems, Contract.inOrder]
  have hclearing : (o.inOpen sv).openClearingItems c.inOrder = o.openClearingItems c := by
    simp only [Order.openClearingItems, Order.inOpen, OrderAlgo.items_told, Contract.inOrder]
    rw [← OrderHedge.items_told o.hedge]
    rfl
  have hstate : (s.inOpen sv).items sv = s.items sv := by
    simp +contextual only [OrderState.items, OrderState.inOpen, if_true]
  have hconditions : (o.inOpen sv).openConditionsItems sv = o.openConditionsItems sv := by
    simp only [Order.openConditionsItems, Order.inOpen, PegBenchParams.items_told,
      OrderConditions.items_told]
    rfl
  have hadditions : (o.inOpen sv).openAdditionsItems sv = o.openAdditionsItems sv := by
    simp +contextual only [Order.openAdditionsItems, Order.inOpen, if_true,
      OrderPegBest.items_told, Option.getD_some]
  have howner : (o.inOpen sv).openOwnerItems sv = o.openOwnerItems sv := by
    simp +contextual only [Order.openOwnerItems, Order.inOpen, if_true]
  -- The head and the handling have no part that depends on a value or the version.
  simp only [Order.openItems, hallocation, hpricing, hclearing, hstate, hconditions, hadditions,
    howner]
  rfl

end Event

end BrokerWire
