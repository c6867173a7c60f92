import BrokerWire.Event.Decode
import BrokerWire.Proofs.Event.OrderGroups

namespace BrokerWire

open Item (counted since)

namespace Order

/-- The fields that a contract and terms fill in a completed order. -/
def completedHeadItems (c : Contract) (o : Order) : List Item :=
  c.items ++ o.terms.items ++
  [⟨.long, o.identity.permId⟩, ⟨.bool, o.timing.outsideRth⟩, ⟨.bool, o.handling.hidden⟩,
    ⟨.double, o.auction.discretionaryAmt⟩, ⟨.text, o.timing.goodAfterTime⟩]

def completedHandlingItems (o : Order) : List Item :=
  o.auction.rangeItems ++
  [⟨.int, o.amounts.displaySize⟩, ⟨.bool, o.handling.sweepToFill⟩, ⟨.bool, o.handling.allOrNone⟩,
    ⟨.optionalInt, o.amounts.minQty⟩, ⟨.int, o.handling.ocaType⟩, ⟨.int, o.timing.triggerMethod⟩]

def completedPricingItems (c : Contract) (o : Order) : List Item :=
  o.volatility.items false ++ o.trail.items ++ c.comboItems o.combo.orderComboLegs ++
  counted TagValue.items o.combo.smartComboRoutingParams ++ o.scale.items

def completedClearingItems (c : Contract) (o : Order) : List Item :=
  o.hedge.items ++
  [⟨.text, o.clearing.clearingAccount⟩, ⟨.text, o.clearing.clearingIntent⟩,
    ⟨.bool, o.handling.notHeld⟩] ++
  DeltaNeutralContract.items c.deltaNeutralContract ++ o.algo.items ++
  [⟨.bool, o.handling.solicited⟩]

/-- The stop of the trail is written once more behind the conditions. -/
def completedConditionsItems (sv : ServerVersion) (o : Order) : List Item :=
  o.auction.randomizeItems ++ o.pegBench.items sv o.terms.orderType ++ o.conditional.items sv ++
  [⟨.optionalDouble, o.trail.trailStopPrice⟩, ⟨.optionalDouble, o.adjustment.lmtPriceOffset⟩] ++
  since Since.cashQuantities sv [⟨.optionalDouble, o.amounts.cashQty⟩] ++
  since Since.hedgePricing sv [⟨.bool, o.hedge.dontUseAutoPriceForHedge⟩] ++
  since Since.orderContainers sv [⟨.bool, o.handling.isOmsContainer⟩]

def completionItems (o : Order) (s : OrderState) : List Item :=
  [⟨.text, o.timing.autoCancelDate⟩, ⟨.quantity, o.amounts.filledQuantity⟩,
    ⟨.optionalInt, o.compliance.refFuturesConId⟩, ⟨.bool, o.handling.autoCancelParent⟩,
    ⟨.text, o.clearing.shareholder⟩, ⟨.bool, o.handling.imbalanceOnly⟩,
    ⟨.bool, o.handling.routeMarketableToBbo⟩, ⟨.optionalLong, o.identity.parentPermId⟩,
    ⟨.text, s.completedTime⟩, ⟨.text, s.completedStatus⟩]

def completedAdditionsItems (sv : ServerVersion) (o : Order) : List Item :=
  o.pegBest.items sv ++
  since Since.customerAccounts sv [⟨.text, o.clearing.customerAccount⟩] ++
  since Since.professionalCustomers sv [⟨.bool, o.clearing.professionalCustomer⟩] ++
  since Since.submitters sv [⟨.text, o.compliance.submitter⟩]

/-- A completed order, field by field. -/
def completedItems (sv : ServerVersion) (profile : String) (c : Contract) (o : Order)
    (s : OrderState) : List Item :=
  o.completedHeadItems c ++ o.allocationItems sv profile ++ o.completedHandlingItems ++
  o.completedPricingItems c ++ o.completedClearingItems c ++ [⟨.text, s.status⟩] ++
  o.completedConditionsItems sv ++ o.completionItems s ++ o.completedAdditionsItems sv

def completedMessage (sv : ServerVersion) (profile : String) (c : Contract) (o : Order)
    (s : OrderState) : Message :=
  Item.message (Numbered.code Inbound.completedOrder) (o.completedItems sv profile c s)

/-- What a completed order carries of an order. -/
def inCompleted (sv : ServerVersion) (o : Order) : Order where
  identity := { permId := o.identity.permId, parentPermId := o.identity.parentPermId }
  terms := o.terms
  amounts :=
    { o.amounts with
      cashQty := if Since.cashQuantities ≤ sv then o.amounts.cashQty else none }
  timing :=
    { goodAfterTime := o.timing.goodAfterTime
      goodTillDate := o.timing.goodTillDate
      autoCancelDate := o.timing.autoCancelDate
      triggerMethod := o.timing.triggerMethod
      outsideRth := o.timing.outsideRth }
  handling :=
    { sweepToFill := o.handling.sweepToFill
      hidden := o.handling.hidden
      allOrNone := o.handling.allOrNone
      ocaType := o.handling.ocaType
      routeMarketableToBbo := o.handling.routeMarketableToBbo
      imbalanceOnly := o.handling.imbalanceOnly
      notHeld := o.handling.notHeld
      solicited := o.handling.solicited
      isOmsContainer := if Since.orderContainers ≤ sv then o.handling.isOmsContainer else false
      autoCancelParent := o.handling.autoCancelParent }
  trail := o.trail
  advisor :=
    { o.advisor with modelCode := if Since.modelCodes ≤ sv then o.advisor.modelCode else "" }
  clearing :=
    { o.clearing with
      customerAccount := if Since.customerAccounts ≤ sv then o.clearing.customerAccount else ""
      professionalCustomer :=
        if Since.professionalCustomers ≤ sv then o.clearing.professionalCustomer else false }
  auction := { o.auction with discretionaryUpToLimitPrice := false, auctionStrategy := .unset }
  volatility := o.volatility.told false
  combo :=
    { orderComboLegs := o.combo.orderComboLegs
      smartComboRoutingParams := o.combo.smartComboRoutingParams }
  hedge :=
    { o.hedge.told with
      dontUseAutoPriceForHedge :=
        if Since.hedgePricing ≤ sv then o.hedge.dontUseAutoPriceForHedge else false }
  algo := o.algo.told
  pegBest := o.pegBest.told sv
  adjustment := { lmtPriceOffset := o.adjustment.lmtPriceOffset }
  conditional := o.conditional.told sv
  compliance :=
    { submitter := if Since.submitters ≤ sv then o.compliance.submitter else ""
      refFuturesConId := o.compliance.refFuturesConId }
  scale := o.scale.told
  pegBench := o.pegBench.told sv o.terms.orderType

end Order

/-- What a completed order carries of the state of an order. -/
def OrderState.inCompleted (s : OrderState) : OrderState :=
  { status := s.status, completedTime := s.completedTime, completedStatus := s.completedStatus }

namespace Event

open FieldReader

theorem le_fullVersion : 34 ≤ fullVersion := by decide

theorem tells_completedHead (c : Contract) (o : Order) :
    Tells (o.completedHeadItems c) readCompletedHead ({ c.inOrder with
        comboLegsDescrip := "", comboLegs := [], deltaNeutralContract := none }, {
      identity := { permId := o.identity.permId }
      terms := o.terms
      timing :=
        { outsideRth := o.timing.outsideRth
          goodAfterTime := o.timing.goodAfterTime }
      handling := { hidden := o.handling.hidden }
      auction := { discretionaryAmt := o.auction.discretionaryAmt } }) := by
  simp only [Order.completedHeadItems, List.append_assoc]
  exact .bind (tells_contract c) <| .bind (tells_terms o.terms) <| .long <| .bool <| .bool <|
    .double <| .text <| .pure _

theorem tells_completedHandling (o written : Order) :
    Tells written.completedHandlingItems (readCompletedHandling o) { o with
      auction := { o.auction with
        startingPrice := written.auction.startingPrice
        stockRefPrice := written.auction.stockRefPrice
        delta := written.auction.delta
        stockRangeLower := written.auction.stockRangeLower
        stockRangeUpper := written.auction.stockRangeUpper }
      amounts := { o.amounts with
        displaySize := written.amounts.displaySize
        minQty := written.amounts.minQty }
      handling := { o.handling with
        sweepToFill := written.handling.sweepToFill
        allOrNone := written.handling.allOrNone
        ocaType := written.handling.ocaType }
      timing := { o.timing with triggerMethod := written.timing.triggerMethod } } :=
  .bind (tells_range _ written.auction) <| .int <| .bool <| .bool <| .optionalInt <| .int <|
    .int <| .pure _

theorem tells_completedPricing (c : Contract) (o : Order) (legs : Contract) (written : Order) :
    Tells (written.completedPricingItems legs) (readCompletedPricing c o)
      ({ c with comboLegsDescrip := legs.comboLegsDescrip, comboLegs := legs.comboLegs }, { o with
        volatility := written.volatility.told false
        trail := written.trail
        combo := { o.combo with
          orderComboLegs := written.combo.orderComboLegs
          smartComboRoutingParams := written.combo.smartComboRoutingParams }
        scale := written.scale.told }) := by
  simp only [Order.completedPricingItems, List.append_assoc]
  exact .bind (tells_volatility (by decide) false written.volatility) <|
    .bind (tells_trail le_fullVersion written.trail) <|
    .bind (tells_comboLegs (by decide) legs written.combo.orderComboLegs) <|
    .bind (.counted fun p _ => tells_tagValue p) <|
    .final (tells_scale (by decide) written.scale) <| .pure _

theorem tells_completedClearing (c : Contract) (o : Order) (hedged : Contract) (written : Order) :
    Tells (written.completedClearingItems hedged) (readCompletedClearing c o)
      ({ c with deltaNeutralContract := hedged.deltaNeutralContract }, { o with
        hedge := written.hedge.told
        handling := { o.handling with
          notHeld := written.handling.notHeld
          solicited := written.handling.solicited }
        clearing := { o.clearing with
          clearingAccount := written.clearing.clearingAccount
          clearingIntent := written.clearing.clearingIntent }
        algo := written.algo.told }) := by
  simp only [Order.completedClearingItems, List.append_assoc, List.cons_append, List.nil_append]
  exact .bind (tells_hedge (by decide) written.hedge) <| .text <| .text <| .bool <|
    .bind (tells_underlying (by decide) hedged.deltaNeutralContract) <|
    .bind (tells_algo (by decide) written.algo) <| .bool <| .pure _

theorem tells_completedConditions (sv : ServerVersion) (o written : Order)
    (hkind : o.terms.orderType = written.terms.orderType) :
    Tells (written.completedConditionsItems sv) (readCompletedConditions sv o) { o with
      auction := { o.auction with
        randomizeSize := written.auction.randomizeSize
        randomizePrice := written.auction.randomizePrice }
      pegBench := written.pegBench.told sv written.terms.orderType
      conditional := written.conditional.told sv
      trail := { o.trail with trailStopPrice := written.trail.trailStopPrice }
      adjustment := { o.adjustment with lmtPriceOffset := written.adjustment.lmtPriceOffset }
      amounts := { o.amounts with
        cashQty := if Since.cashQuantities ≤ sv then written.amounts.cashQty else none }
      hedge := { o.hedge with
        dontUseAutoPriceForHedge :=
          if Since.hedgePricing ≤ sv then written.hedge.dontUseAutoPriceForHedge else false }
      handling := { o.handling with
        isOmsContainer :=
          if Since.orderContainers ≤ sv then written.handling.isOmsContainer else false } } := by
  unfold readCompletedConditions
  rw [hkind, Order.completedConditionsItems, ← List.append_nil (since Since.orderContainers sv _)]
  simp only [List.append_assoc, List.cons_append, List.nil_append]
  exact .bind (tells_randomize le_fullVersion o.auction written.auction) <|
    .bind (tells_pegBench sv _ written.pegBench) <|
    .bind (tells_conditions sv written.conditional) <| .optionalDouble <| .optionalDouble <|
    .since (fun _ => tells_optionalDouble _) <| .since (fun _ => tells_bool _) <|
    .since (fun _ => tells_bool _) <| .pure _

theorem tells_completion (o written : Order) (s state : OrderState) :
    Tells (written.completionItems state) (readCompletion o s) ({ o with
      timing := { o.timing with autoCancelDate := written.timing.autoCancelDate }
      amounts := { o.amounts with filledQuantity := written.amounts.filledQuantity }
      compliance := { o.compliance with refFuturesConId := written.compliance.refFuturesConId }
      handling := { o.handling with
        autoCancelParent := written.handling.autoCancelParent
        imbalanceOnly := written.handling.imbalanceOnly
        routeMarketableToBbo := written.handling.routeMarketableToBbo }
      clearing := { o.clearing with shareholder := written.clearing.shareholder }
      identity := { o.identity with parentPermId := written.identity.parentPermId } },
      { s with
        completedTime := state.completedTime
        completedStatus := state.completedStatus }) :=
  .text <| .quantity <| .optionalInt <| .bool <| .text <| .bool <| .bool <| .optionalLong <|
    .text <| .text <| .pure _

theorem tells_completedAdditions (sv : ServerVersion) (o written : Order) :
    Tells (written.completedAdditionsItems sv) (readCompletedAdditions sv o) { o with
      pegBest := written.pegBest.told sv
      clearing := { o.clearing with
        customerAccount :=
          if Since.customerAccounts ≤ sv then written.clearing.customerAccount else ""
        professionalCustomer :=
          if Since.professionalCustomers ≤ sv then written.clearing.professionalCustomer
          else false }
      compliance := { o.compliance with
        submitter := if Since.submitters ≤ sv then written.compliance.submitter else "" } } := by
  rw [Order.completedAdditionsItems, ← List.append_nil (since Since.submitters sv _)]
  simp only [List.append_assoc]
  exact .bind (tells_pegBest sv written.pegBest) <| .since (fun _ => tells_text _) <|
    .since (fun _ => tells_bool _) <| .since (fun _ => tells_text _) <|
    .pure _

theorem tells_completedOrder {sv : ServerVersion} (hsv : ServerVersion.lowest ≤ sv)
    (profile : String) (c : Contract) (o : Order) (s : OrderState) :
    Tells (o.completedItems sv profile c s) (readCompletedOrder sv)
      (.completedOrder c.inOrder (o.inCompleted sv) s.inCompleted) := by
  have hcode : sv ≠ 51 := by
    rintro rfl
    exact absurd hsv (by decide)
  unfold readCompletedOrder
  simp only [Order.completedItems, List.append_assoc, List.cons_append, List.nil_append]
  exact .bind (tells_completedHead c o) <|
    .bind (tells_allocation hcode le_fullVersion profile _ o) <|
    .bind (tells_completedHandling _ o) <| .bind (tells_completedPricing _ _ c o) <|
    .bind (tells_completedClearing _ _ c o) <| .text <|
    .bind (tells_completedConditions sv _ o rfl) <| .bind (tells_completion _ o _ s) <|
    .final (tells_completedAdditions sv _ o) <| .pure _

/-- What is told of a completed order is enough to write its message again. -/
theorem completedItems_told (sv : ServerVersion) (profile : String) (c : Contract) (o : Order)
    (s : OrderState) :
    (o.inCompleted sv).completedItems sv profile c.inOrder s.inCompleted =
      o.completedItems sv profile c s := by
  have hallocation : (o.inCompleted sv).allocationItems sv profile =
      o.allocationItems sv profile := by
    simp +contextual only [Order.allocationItems, Order.inCompleted, if_true]
  have hpricing : (o.inCompleted sv).completedPricingItems c.inOrder =
      o.completedPricingItems c := by
    simp only [Order.completedPricingItems, Order.inCompleted, OrderVolatility.items_told,
      ScaleParams.items_told, Contract.comboItems, Contract.inOrder]
  have hclearing : (o.inCompleted sv).completedClearingItems c.inOrder =
      o.completedClearingItems c := by
    simp only [Order.completedClearingItems, Order.inCompleted, OrderAlgo.items_told,
      Contract.inOrder]
    rw [← OrderHedge.items_told o.hedge]
    rfl
  have hconditions : (o.inCompleted sv).completedConditionsItems sv =
      o.completedConditionsItems sv := by
    simp +contextual only [Order.completedConditionsItems, Order.inCompleted, if_true,
      PegBenchParams.items_told, OrderConditions.items_told]
    rfl
  have hadditions : (o.inCompleted sv).completedAdditionsItems sv =
      o.completedAdditionsItems sv := by
    simp +contextual only [Order.completedAdditionsItems, Order.inCompleted, if_true,
      OrderPegBest.items_told]
  simp only [Order.completedItems, hallocation, hpricing, hclearing, hconditions, hadditions]
  rfl

end Event

end BrokerWire
