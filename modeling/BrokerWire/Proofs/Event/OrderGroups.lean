import BrokerWire.Event.OrderParts
import BrokerWire.Proofs.Wire.Layout

namespace BrokerWire

open Item (counted since)

def Contract.items (c : Contract) : List Item :=
  [⟨.int, c.conId⟩, ⟨.text, c.symbol⟩, ⟨.optionalCode Security, c.secType⟩,
    ⟨.text, c.lastTradeDateOrContractMonth⟩, ⟨.optionalDouble, c.strike⟩,
    ⟨.optionalCode OptionRight, c.right⟩, ⟨.text, c.multiplier⟩, ⟨.text, c.exchange⟩,
    ⟨.text, c.currency⟩, ⟨.text, c.localSymbol⟩, ⟨.text, c.tradingClass⟩]

/-- What a message about an order carries of its contract. -/
def Contract.inOrder (c : Contract) : Contract where
  conId := c.conId
  symbol := c.symbol
  secType := c.secType
  lastTradeDateOrContractMonth := c.lastTradeDateOrContractMonth
  strike := c.strike
  right := c.right
  multiplier := c.multiplier
  exchange := c.exchange
  currency := c.currency
  localSymbol := c.localSymbol
  tradingClass := c.tradingClass
  comboLegsDescrip := c.comboLegsDescrip
  comboLegs := c.comboLegs
  deltaNeutralContract := c.deltaNeutralContract

def OrderTerms.items (t : OrderTerms) : List Item :=
  [⟨.optionalCode Side, t.action⟩, ⟨.quantity, t.totalQuantity⟩,
    ⟨.optionalCode OrderKind, t.orderType⟩, ⟨.optionalDouble, t.lmtPrice⟩,
    ⟨.optionalDouble, t.auxPrice⟩, ⟨.optionalCode TimeInForce, t.tif⟩, ⟨.text, t.ocaGroup⟩,
    ⟨.text, t.account⟩, ⟨.text, t.openClose⟩, ⟨.number Origin .customer, t.origin⟩,
    ⟨.text, t.orderRef⟩]

/-- The advisor's allocation, the expiry, the settling firm and the short sale of an order. Old
servers send a profile of the advisor, which nobody reads. -/
def Order.allocationItems (sv : ServerVersion) (profile : String) (o : Order) : List Item :=
  [⟨.text, o.advisor.faGroup⟩, ⟨.text, o.advisor.faMethod⟩, ⟨.text, o.advisor.faPercentage⟩] ++
  (if sv < Since.noAdvisorProfiles then [⟨.text, profile⟩] else []) ++
  since Since.modelCodes sv [⟨.text, o.advisor.modelCode⟩] ++
  [⟨.text, o.timing.goodTillDate⟩, ⟨.text, o.clearing.rule80a⟩,
    ⟨.optionalDouble, o.amounts.percentOffset⟩, ⟨.text, o.clearing.settlingFirm⟩,
    ⟨.int, o.clearing.shortSaleSlot⟩, ⟨.text, o.clearing.designatedLocation⟩,
    ⟨.int, o.clearing.exemptCode⟩]

def OrderAuction.rangeItems (a : OrderAuction) : List Item :=
  [⟨.optionalDouble, a.startingPrice⟩, ⟨.optionalDouble, a.stockRefPrice⟩,
    ⟨.optionalDouble, a.delta⟩, ⟨.optionalDouble, a.stockRangeLower⟩,
    ⟨.optionalDouble, a.stockRangeUpper⟩]

/-- The clearing of a hedge and what it opens or closes, which completed orders leave out. -/
def DeltaNeutralOrder.items (isOpen : Bool) (d : DeltaNeutralOrder) : List Item :=
  [⟨.text, d.orderType⟩, ⟨.optionalDouble, d.auxPrice⟩] ++
  if d.orderType = "" then []
  else
    [⟨.int, d.conId⟩] ++
    (if isOpen then
      [⟨.text, d.settlingFirm⟩, ⟨.text, d.clearingAccount⟩, ⟨.text, d.clearingIntent⟩,
        ⟨.text, d.openClose⟩]
    else []) ++
    [⟨.bool, d.shortSale⟩, ⟨.int, d.shortSaleSlot⟩, ⟨.text, d.designatedLocation⟩]

def DeltaNeutralOrder.told (isOpen : Bool) (d : DeltaNeutralOrder) : DeltaNeutralOrder :=
  if d.orderType = "" then { auxPrice := d.auxPrice }
  else if isOpen then d
  else { d with settlingFirm := "", clearingAccount := "", clearingIntent := "", openClose := "" }

def OrderVolatility.items (isOpen : Bool) (v : OrderVolatility) : List Item :=
  [⟨.optionalDouble, v.volatility⟩, ⟨.optionalInt, v.volatilityType⟩] ++
  v.deltaNeutral.items isOpen ++
  [⟨.bool, v.continuousUpdate⟩, ⟨.optionalInt, v.referencePriceType⟩]

def OrderVolatility.told (isOpen : Bool) (v : OrderVolatility) : OrderVolatility :=
  { v with deltaNeutral := v.deltaNeutral.told isOpen }

def OrderTrail.items (t : OrderTrail) : List Item :=
  [⟨.optionalDouble, t.trailStopPrice⟩, ⟨.optionalDouble, t.trailingPercent⟩]

def ComboLeg.items (leg : ComboLeg) : List Item :=
  [⟨.int, leg.conId⟩, ⟨.int, leg.ratio⟩, ⟨.optionalCode Side, leg.action⟩, ⟨.text, leg.exchange⟩,
    ⟨.number LegOpenClose .same, leg.openClose⟩, ⟨.int, leg.shortSaleSlot⟩,
    ⟨.text, leg.designatedLocation⟩, ⟨.int, leg.exemptCode⟩]

def TagValue.items (p : TagValue) : List Item :=
  [⟨.text, p.tag⟩, ⟨.text, p.value⟩]

/-- The legs of a combination, behind their description, and the prices of the legs. -/
def Contract.comboItems (c : Contract) (prices : List (Option Double)) : List Item :=
  [⟨.text, c.comboLegsDescrip⟩] ++ counted ComboLeg.items c.comboLegs ++
  counted (fun price => [⟨.optionalDouble, price⟩]) prices

/-- The ladder of an order; what it adjusts is written only if it moves. -/
def ScaleParams.items (s : ScaleParams) : List Item :=
  [⟨.optionalInt, s.initLevelSize⟩, ⟨.optionalInt, s.subsLevelSize⟩] ++
  [⟨.optionalDouble, s.priceIncrement⟩] ++
  if s.hasAdjustments then
    [⟨.optionalDouble, s.priceAdjustValue⟩, ⟨.optionalInt, s.priceAdjustInterval⟩,
      ⟨.optionalDouble, s.profitOffset⟩, ⟨.bool, s.autoReset⟩, ⟨.optionalInt, s.initPosition⟩,
      ⟨.optionalInt, s.initFillQty⟩, ⟨.bool, s.randomPercent⟩]
  else []

def ScaleParams.told (s : ScaleParams) : ScaleParams :=
  if s.hasAdjustments then { s with table := "" }
  else
    { initLevelSize := s.initLevelSize
      subsLevelSize := s.subsLevelSize
      priceIncrement := s.priceIncrement }

def OrderHedge.items (h : OrderHedge) : List Item :=
  [⟨.text, h.hedgeType⟩] ++ if h.hedgeType = "" then [] else [⟨.text, h.hedgeParam⟩]

/-- How an order prices itself is told elsewhere. -/
def OrderHedge.told (h : OrderHedge) : OrderHedge :=
  { hedgeType := h.hedgeType, hedgeParam := if h.hedgeType = "" then "" else h.hedgeParam }

/-- The underlying of a delta neutral combination, behind a flag. -/
def DeltaNeutralContract.items : Option DeltaNeutralContract → List Item
  | none => [⟨.bool, false⟩]
  | some d => [⟨.bool, true⟩, ⟨.int, d.conId⟩, ⟨.double, d.delta⟩, ⟨.double, d.price⟩]

def OrderAlgo.items (a : OrderAlgo) : List Item :=
  [⟨.text, a.algoStrategy⟩] ++
  if a.algoStrategy = "" then [] else counted TagValue.items a.algoParams

def OrderAlgo.told (a : OrderAlgo) : OrderAlgo :=
  { algoStrategy := a.algoStrategy
    algoParams := if a.algoStrategy = "" then [] else a.algoParams }

def OrderAuction.randomizeItems (a : OrderAuction) : List Item :=
  [⟨.bool, a.randomizeSize⟩, ⟨.bool, a.randomizePrice⟩]

/-- Whether an order has a reference contract that a server of the version knows. -/
def Order.IsBenchmarked (sv : ServerVersion) (kind : Option (Code OrderKind)) : Prop :=
  Since.benchmarkPegs ≤ sv ∧ kind = some (.known .peggedToBenchmark)

instance (sv : ServerVersion) (kind : Option (Code OrderKind)) :
    Decidable (Order.IsBenchmarked sv kind) :=
  inferInstanceAs (Decidable (_ ∧ _))

def PegBenchParams.items (sv : ServerVersion) (kind : Option (Code OrderKind))
    (p : PegBenchParams) : List Item :=
  if Order.IsBenchmarked sv kind then
    [⟨.optionalInt, p.referenceContractId⟩, ⟨.bool, p.isPeggedChangeAmountDecrease⟩,
      ⟨.optionalDouble, p.peggedChangeAmount⟩, ⟨.optionalDouble, p.referenceChangeAmount⟩,
      ⟨.text, p.referenceExchangeId⟩]
  else []

def PegBenchParams.told (sv : ServerVersion) (kind : Option (Code OrderKind))
    (p : PegBenchParams) : PegBenchParams :=
  if Order.IsBenchmarked sv kind then p else {}

def Comparison.items (c : Comparison) : List Item :=
  [⟨.bool, c.isMore⟩, ⟨.text, c.value⟩]

def ContractScope.items (s : ContractScope) : List Item :=
  [⟨.int, s.conId⟩, ⟨.text, s.exchange⟩]

def ConditionKind.items : ConditionKind → List Item
  | .price comparison scope triggerMethod =>
    comparison.items ++ scope.items ++ [⟨.number TriggerMethod .default, triggerMethod⟩]
  | .time comparison => comparison.items
  | .margin comparison => comparison.items
  | .execution secType exchange symbol => [⟨.text, secType⟩, ⟨.text, exchange⟩, ⟨.text, symbol⟩]
  | .volume comparison scope => comparison.items ++ scope.items
  | .percentChange comparison scope => comparison.items ++ scope.items

/-- A condition: its type, how it is joined with the next one, and what it watches. -/
def OrderCondition.items (c : OrderCondition) : List Item :=
  [⟨.int, Numbered.code c.kind.type⟩, ⟨.text, c.conjunction.letter⟩] ++ c.kind.items

/-- The conditions of an order, and two flags if there are any. -/
def OrderConditions.items (sv : ServerVersion) (c : OrderConditions) : List Item :=
  since Since.benchmarkPegs sv <|
    counted OrderCondition.items c.conditions ++
    if c.conditions = [] then []
    else [⟨.bool, c.conditionsIgnoreRth⟩, ⟨.bool, c.conditionsCancelOrder⟩]

def OrderConditions.told (sv : ServerVersion) (c : OrderConditions) : OrderConditions :=
  if Since.benchmarkPegs ≤ sv ∧ c.conditions ≠ [] then c else {}

def OrderPegBest.items (sv : ServerVersion) (p : OrderPegBest) : List Item :=
  since Since.pegOffsets sv
    [⟨.optionalInt, p.minTradeQty⟩, ⟨.optionalInt, p.minCompeteSize⟩,
      ⟨.optionalDouble, p.competeAgainstBestOffset⟩, ⟨.optionalDouble, p.midOffsetAtWhole⟩,
      ⟨.optionalDouble, p.midOffsetAtHalf⟩]

def OrderPegBest.told (sv : ServerVersion) (p : OrderPegBest) : OrderPegBest :=
  if Since.pegOffsets ≤ sv then p else {}

def OrderAllocation.items (a : OrderAllocation) : List Item :=
  [⟨.text, a.account⟩, ⟨.quantity, a.position⟩, ⟨.quantity, a.positionDesired⟩,
    ⟨.quantity, a.positionAfter⟩, ⟨.quantity, a.desiredAllocQty⟩,
    ⟨.quantity, a.allowedAllocQty⟩, ⟨.bool, a.isMonetary⟩]

/-- The margins, the commission and the preview of an order. -/
def OrderState.items (sv : ServerVersion) (s : OrderState) : List Item :=
  since Since.previewFields sv
    [⟨.text, s.initMarginBefore⟩, ⟨.text, s.maintMarginBefore⟩, ⟨.text, s.equityWithLoanBefore⟩,
      ⟨.text, s.initMarginChange⟩, ⟨.text, s.maintMarginChange⟩,
      ⟨.text, s.equityWithLoanChange⟩] ++
  [⟨.text, s.initMarginAfter⟩, ⟨.text, s.maintMarginAfter⟩, ⟨.text, s.equityWithLoanAfter⟩,
    ⟨.optionalDouble, s.commissionAndFees⟩, ⟨.optionalDouble, s.minCommissionAndFees⟩,
    ⟨.optionalDouble, s.maxCommissionAndFees⟩, ⟨.text, s.commissionAndFeesCurrency⟩] ++
  since Since.fullPreview sv (
    [⟨.text, s.marginCurrency⟩] ++
    s.outsideRthMargins.flatMap (fun margin => [⟨.optionalDouble, margin⟩]) ++
    [⟨.quantity, s.suggestedSize⟩, ⟨.text, s.rejectReason⟩] ++
    counted OrderAllocation.items s.orderAllocations) ++
  [⟨.text, s.warningText⟩]

def SoftDollarTier.items (t : SoftDollarTier) : List Item :=
  [⟨.text, t.name⟩, ⟨.text, t.value⟩, ⟨.text, t.displayName⟩]

section Told

variable {sv : ServerVersion}

/-- Items that servers have from a version on are compared from that version on. -/
@[congr]
theorem Item.since_congr {first : ServerVersion} {items items' : List Item}
    (h : first ≤ sv → items = items') : since first sv items = since first sv items' := by
  unfold Item.since
  split
  · next hsv => exact h hsv
  · rfl

theorem DeltaNeutralOrder.items_told (isOpen : Bool) (d : DeltaNeutralOrder) :
    (d.told isOpen).items isOpen = d.items isOpen := by
  by_cases hset : d.orderType = ""
  · simp [told, items, hset]
  · cases isOpen <;> simp [told, items, hset]

theorem OrderVolatility.items_told (isOpen : Bool) (v : OrderVolatility) :
    (v.told isOpen).items isOpen = v.items isOpen := by
  simp only [told, items, DeltaNeutralOrder.items_told]

theorem ScaleParams.items_told (s : ScaleParams) : s.told.items = s.items := by
  have hincrement : s.told.hasAdjustments = s.hasAdjustments := by
    unfold told
    split <;> rfl
  unfold items
  rw [hincrement]
  unfold told
  split <;> simp [*]

theorem OrderHedge.items_told (h : OrderHedge) : h.told.items = h.items := by
  by_cases htype : h.hedgeType = "" <;> simp [told, items, htype]

theorem OrderAlgo.items_told (a : OrderAlgo) : a.told.items = a.items := by
  by_cases hstrategy : a.algoStrategy = "" <;> simp [told, items, hstrategy]

theorem PegBenchParams.items_told (kind : Option (Code OrderKind)) (p : PegBenchParams) :
    (p.told sv kind).items sv kind = p.items sv kind := by
  unfold items told
  split <;> rfl

theorem OrderConditions.items_told (c : OrderConditions) : (c.told sv).items sv = c.items sv := by
  refine Item.since_congr fun hsv => ?_
  by_cases hnone : c.conditions = [] <;> simp [told, hsv, hnone]

theorem OrderPegBest.items_told (p : OrderPegBest) : (p.told sv).items sv = p.items sv :=
  Item.since_congr fun hsv => by rw [told, if_pos hsv]

end Told

namespace Event

open FieldReader

theorem tells_bool (flag : Bool) : Tells [⟨.bool, flag⟩] bool flag :=
  .alone .bool nofun fun _ => rfl

theorem tells_text (t : String) : Tells [⟨.text, t⟩] text t :=
  .alone .text nofun fun _ => rfl

theorem tells_int (n : Int32) : Tells [⟨.int, n⟩] int n :=
  .last <| .int <| .pure _

theorem tells_double (x : Double) : Tells [⟨.double, x⟩] double x :=
  .last <| .double <| .pure _

theorem tells_optionalInt (n : Option Int32) : Tells [⟨.optionalInt, n⟩] optionalInt n :=
  .last <| .optionalInt <| .pure _

theorem tells_optionalDouble (x : Option Double) :
    Tells [⟨.optionalDouble, x⟩] optionalDouble x :=
  .last <| .optionalDouble <| .pure _

theorem tells_contract (c : Contract) :
    Tells c.items readContract {
      conId := c.conId
      symbol := c.symbol
      secType := c.secType
      lastTradeDateOrContractMonth := c.lastTradeDateOrContractMonth
      strike := c.strike
      right := c.right
      multiplier := c.multiplier
      exchange := c.exchange
      currency := c.currency
      localSymbol := c.localSymbol
      tradingClass := c.tradingClass } :=
  .int <| .text <| .code <| .text <| .optionalDouble <| .code <| .text <| .text <| .text <| .text <|
    .text <| .pure _

theorem tells_terms (t : OrderTerms) : Tells t.items readTerms t :=
  .code <| .quantity <| .code <| .optionalDouble <| .optionalDouble <| .code <| .text <| .text <|
    .text <| .number <| .text <| .pure _

theorem tells_allocation {sv : ServerVersion} (hsv : sv ≠ 51) {version : Int} (hv : 34 ≤ version)
    (profile : String) (o written : Order) :
    Tells (written.allocationItems sv profile) (readAllocation sv version o) { o with
      advisor := ⟨written.advisor.faGroup, written.advisor.faMethod, written.advisor.faPercentage,
        if Since.modelCodes ≤ sv then written.advisor.modelCode else ""⟩
      timing := { o.timing with goodTillDate := written.timing.goodTillDate }
      amounts := { o.amounts with percentOffset := written.amounts.percentOffset }
      clearing := { o.clearing with
        rule80a := written.clearing.rule80a
        settlingFirm := written.clearing.settlingFirm
        shortSaleSlot := written.clearing.shortSaleSlot
        designatedLocation := written.clearing.designatedLocation
        exemptCode := written.clearing.exemptCode } } := by
  have hexempt : readExemptCode sv version = whenever (23 ≤ version) int (-1) := if_neg hsv
  unfold Order.allocationItems readAllocation
  simp only [List.append_assoc, hexempt]
  exact .text <| .text <| .text <| .whenever (fun _ => .last <| .skip <| .pure _) <|
    .since (fun _ => tells_text _) <| .text <| .text <| .optionalDouble <| .text <|
    .int <| .text <| .known (by simp; omega) <| .int <| .pure _

theorem tells_range (a written : OrderAuction) :
    Tells written.rangeItems (readStockRange a) { a with
      startingPrice := written.startingPrice
      stockRefPrice := written.stockRefPrice
      delta := written.delta
      stockRangeLower := written.stockRangeLower
      stockRangeUpper := written.stockRangeUpper } :=
  .optionalDouble <| .optionalDouble <| .optionalDouble <| .optionalDouble <| .optionalDouble <|
    .pure _

theorem tells_hedgeOrder {version : Int} (hv : 31 ≤ version) (isOpen : Bool)
    (d : DeltaNeutralOrder) :
    Tells (d.items isOpen) (readHedgeOrder version isOpen) (d.told isOpen) := by
  by_cases hset : d.orderType = ""
  · -- Without an order type nothing behind the price is written, and nothing is read.
    have hnone : d.told isOpen = { orderType := d.orderType, auxPrice := d.auxPrice } := by
      rw [DeltaNeutralOrder.told, if_pos hset, hset]
    rw [DeltaNeutralOrder.items, if_pos hset, hnone]
    exact .text <| .optionalDouble <| .unknown (by simp [hset]) <| .unknown (by simp [hset]) <|
      .unknown (by simp [hset]) <| .unknown (by simp [hset]) <| .unknown (by simp [hset]) <|
      .unknown (by simp [hset]) <| .unknown (by simp [hset]) <| .unknown (by simp [hset]) <| .pure _
  · have hidentified : decide (27 ≤ version ∧ d.orderType ≠ "") = true := by simp [hset]; omega
    have hsold : decide (31 ≤ version ∧ d.orderType ≠ "") = true := by simp [hset]; omega
    rw [DeltaNeutralOrder.items, DeltaNeutralOrder.told, if_neg hset, if_neg hset]
    cases isOpen with
    | true =>
      exact .text <| .optionalDouble <| .known hidentified <| .int <|
        .known (by simp [hidentified]) <| .text <| .known (by simp [hidentified]) <| .text <|
        .known (by simp [hidentified]) <| .text <| .known (by simp [hsold]) <| .text <|
        .known hsold <| .bool <| .known hsold <| .int <| .known hsold <| .text <| .pure _
    | false =>
      exact .text <| .optionalDouble <| .known hidentified <| .int <| .unknown (by simp) <|
        .unknown (by simp) <| .unknown (by simp) <| .unknown (by simp) <| .known hsold <| .bool <|
        .known hsold <| .int <| .known hsold <| .text <| .pure _

theorem tells_volatility {version : Int} (hv : 31 ≤ version) (isOpen : Bool) (v : OrderVolatility) :
    Tells (v.items isOpen) (readVolatility version isOpen) (v.told isOpen) := by
  simp only [OrderVolatility.items, List.cons_append, List.nil_append]
  exact .optionalDouble <| .optionalInt <| .bind (tells_hedgeOrder hv isOpen v.deltaNeutral) <|
    .bool <| .optionalInt <| .pure _

theorem tells_trail {version : Int} (hv : 34 ≤ version) (t : OrderTrail) :
    Tells t.items (readTrail version) t :=
  .optionalDouble <| .known (decide_eq_true (by omega)) <| .optionalDouble <| .pure _

theorem tells_comboLeg (leg : ComboLeg) : Tells leg.items readComboLeg leg :=
  .int <| .int <| .code <| .text <| .number <| .int <| .text <| .int <| .pure _

theorem tells_tagValue (p : TagValue) : Tells p.items readTagValue p :=
  .text <| .text <| .pure _

theorem tells_comboLegs {version : Int} (hv : 29 ≤ version) (c : Contract)
    (prices : List (Option Double)) :
    Tells (c.comboItems prices) (readComboLegs version)
      (c.comboLegsDescrip, c.comboLegs, prices) := by
  have hknown : decide (29 ≤ version) = true := decide_eq_true hv
  simp only [Contract.comboItems, List.cons_append, List.nil_append]
  exact .text <| .known hknown <| .bind (.counted fun leg _ => tells_comboLeg leg) <|
    .known hknown <| .final (.counted fun price _ => tells_optionalDouble price) <| .pure _

theorem tells_scaleSizes {version : Int} (hv : 20 ≤ version) (init subs : Option Int32) :
    Tells [⟨.optionalInt, init⟩, ⟨.optionalInt, subs⟩] (readScaleSizes version) (init, subs) := by
  rw [readScaleSizes, if_pos hv]
  exact .optionalInt <| .optionalInt <| .pure _

theorem tells_scale {version : Int} (hv : 28 ≤ version) (s : ScaleParams) :
    Tells s.items (readScale version) s.told := by
  have hknown : decide (28 ≤ version) = true := decide_eq_true hv
  have hsizes := tells_scaleSizes (show 20 ≤ version by omega) s.initLevelSize s.subsLevelSize
  have hmoves : (decide (28 ≤ version) && ScaleParams.hasAdjustments
      { initLevelSize := s.initLevelSize
        subsLevelSize := s.subsLevelSize
        priceIncrement := s.priceIncrement }) = s.hasAdjustments := by
    rw [hknown]
    rfl
  simp only [ScaleParams.items, ScaleParams.told, List.append_assoc]
  cases hadjusts : s.hasAdjustments with
  | true =>
    rw [hadjusts] at hmoves
    exact .bind hsizes <| .optionalDouble <|
      .known hmoves <| .optionalDouble <| .known hmoves <| .optionalInt <| .known hmoves <|
      .optionalDouble <| .known hmoves <| .bool <| .known hmoves <| .optionalInt <|
      .known hmoves <| .optionalInt <| .known hmoves <| .bool <| .pure _
  | false =>
    rw [hadjusts] at hmoves
    exact .bind hsizes <| .optionalDouble <|
      .unknown hmoves <| .unknown hmoves <| .unknown hmoves <| .unknown hmoves <|
      .unknown hmoves <| .unknown hmoves <| .unknown hmoves <| .pure _

theorem tells_hedge {version : Int} (hv : 24 ≤ version) (h : OrderHedge) :
    Tells h.items (readHedge version) h.told := by
  have hknown : decide (24 ≤ version) = true := decide_eq_true hv
  unfold OrderHedge.items OrderHedge.told
  by_cases htype : h.hedgeType = ""
  · rw [if_pos htype, if_pos htype]
    exact .known hknown <| .text <| .unknown (by simp [htype]) <| .pure _
  · rw [if_neg htype, if_neg htype]
    exact .known hknown <| .text <| .known (by simp [htype]) <| .text <| .pure _

theorem tells_deltaNeutral (d : DeltaNeutralContract) :
    Tells [⟨.int, d.conId⟩, ⟨.double, d.delta⟩, ⟨.double, d.price⟩] readDeltaNeutral d :=
  .int <| .double <| .double <| .pure _

theorem tells_underlying {version : Int} (hv : 20 ≤ version) (d : Option DeltaNeutralContract) :
    Tells (DeltaNeutralContract.items d) (readUnderlying version) d := by
  have hknown : decide (20 ≤ version) = true := decide_eq_true hv
  cases d with
  | none => exact .known hknown <| .bool <| .pure _
  | some d => exact .known hknown <| .bool <| .map (tells_deltaNeutral d) some

theorem tells_algo {version : Int} (hv : 21 ≤ version) (a : OrderAlgo) :
    Tells a.items (readAlgo version) a.told := by
  have hknown : decide (21 ≤ version) = true := decide_eq_true hv
  unfold OrderAlgo.items OrderAlgo.told
  by_cases hstrategy : a.algoStrategy = ""
  · rw [if_pos hstrategy, if_pos hstrategy]
    exact .known hknown <| .text <| .unknown (by simp [hstrategy]) <| .pure _
  · rw [if_neg hstrategy, if_neg hstrategy]
    exact .known hknown <| .text <| .known (by simp [hstrategy]) <|
      .final (.counted fun p _ => tells_tagValue p) <| .pure _

theorem tells_randomize {version : Int} (hv : 34 ≤ version) (a written : OrderAuction) :
    Tells written.randomizeItems (readRandomize version a) { a with
      randomizeSize := written.randomizeSize
      randomizePrice := written.randomizePrice } := by
  have hknown : decide (34 ≤ version) = true := decide_eq_true hv
  exact .known hknown <| .bool <| .known hknown <| .bool <| .pure _

theorem tells_pegBench (sv : ServerVersion) (kind : Option (Code OrderKind)) (p : PegBenchParams) :
    Tells (p.items sv kind) (readPegBench sv kind) (p.told sv kind) := by
  unfold PegBenchParams.items PegBenchParams.told readPegBench
  by_cases h : Order.IsBenchmarked sv kind
  · rw [if_pos h, if_pos h, if_pos (show Since.benchmarkPegs ≤ sv ∧ _ from h)]
    exact .optionalInt <| .bool <| .optionalDouble <| .optionalDouble <| .text <| .pure _
  · rw [if_neg h, if_neg h, if_neg (show ¬ (Since.benchmarkPegs ≤ sv ∧ _) from h)]
    exact .pure _

theorem tells_comparison (c : Comparison) : Tells c.items readComparison c :=
  .bool <| .text <| .pure _

theorem tells_scope (s : ContractScope) : Tells s.items readScope s :=
  .int <| .text <| .pure _

theorem tells_conditionKind (kind : ConditionKind) :
    Tells kind.items (readConditionKind kind.type) kind := by
  cases kind with
  | price comparison scope triggerMethod =>
    simp only [ConditionKind.items, List.append_assoc]
    exact .bind (tells_comparison comparison) <| .bind (tells_scope scope) <| .number <| .pure _
  | time comparison => exact .final (tells_comparison comparison) <| .pure _
  | margin comparison => exact .final (tells_comparison comparison) <| .pure _
  | execution secType exchange symbol => exact .text <| .text <| .text <| .pure _
  | volume comparison scope =>
    exact .bind (tells_comparison comparison) <| .final (tells_scope scope) <| .pure _
  | percentChange comparison scope =>
    exact .bind (tells_comparison comparison) <| .final (tells_scope scope) <| .pure _

theorem ofLetter_letter (c : Conjunction) : Conjunction.ofLetter c.letter = c := by
  cases c <;> rfl

theorem tells_condition (c : OrderCondition) : Tells c.items readCondition c := by
  obtain ⟨conjunction, kind⟩ := c
  have htype := LawfulNumbered.ofCode?_code kind.type
  simp only [OrderCondition.items, List.cons_append, List.nil_append]
  refine .int ?_
  simp only [htype]
  refine .text <| .final (tells_conditionKind kind) ?_
  rw [ofLetter_letter]
  exact .pure _

theorem tells_conditions (sv : ServerVersion) (c : OrderConditions) :
    Tells (c.items sv) (readConditions sv) (c.told sv) := by
  unfold OrderConditions.items OrderConditions.told Item.since
  by_cases hsv : Since.benchmarkPegs ≤ sv
  · have hknown : decide (Since.benchmarkPegs ≤ sv) = true := decide_eq_true hsv
    rw [if_pos hsv]
    refine .known hknown <| .bind (.counted fun condition _ => tells_condition condition) ?_
    by_cases hnone : c.conditions = []
    · rw [if_pos hnone, if_neg fun h => h.2 hnone, hnone]
      exact .unknown rfl <| .unknown rfl <| .pure _
    · have hsome : (!c.conditions.isEmpty) = true := by simpa using hnone
      rw [if_neg hnone, if_pos ⟨hsv, hnone⟩]
      exact .known hsome <| .bool <| .known hsome <| .bool <| .pure _
  · rw [if_neg hsv, if_neg fun h => hsv h.1]
    exact .unknown (decide_eq_false hsv) <| .unknown rfl <| .unknown rfl <| .pure _

theorem tells_pegBest (sv : ServerVersion) (p : OrderPegBest) :
    Tells (p.items sv) (readPegBest sv) (p.told sv) := by
  unfold OrderPegBest.items OrderPegBest.told Item.since
  by_cases hsv : Since.pegOffsets ≤ sv
  · have hknown : decide (Since.pegOffsets ≤ sv) = true := decide_eq_true hsv
    rw [if_pos hsv, if_pos hsv]
    exact .known hknown <| .optionalInt <| .known hknown <| .optionalInt <| .known hknown <|
      .optionalDouble <| .known hknown <| .optionalDouble <| .known hknown <| .optionalDouble <|
      .pure _
  · have hunknown : decide (Since.pegOffsets ≤ sv) = false := decide_eq_false hsv
    rw [if_neg hsv, if_neg hsv]
    exact .unknown hunknown <| .unknown hunknown <| .unknown hunknown <| .unknown hunknown <|
      .unknown hunknown <| .pure _

theorem tells_orderAllocation (a : OrderAllocation) : Tells a.items readOrderAllocation a :=
  .text <| .quantity <| .quantity <| .quantity <| .quantity <| .quantity <| .bool <| .pure _

theorem tells_softDollarTier (t : SoftDollarTier) : Tells t.items readSoftDollarTier t :=
  .text <| .text <| .text <| .pure _

/-- A message with the full preview has nine margins. -/
theorem tells_preview {sv : ServerVersion} (hsv : Since.previewFields ≤ sv) (s written : OrderState)
    (hmargins : Since.fullPreview ≤ sv → written.outsideRthMargins.length = 9) :
    Tells (written.items sv) (readPreview sv s) { s with
      initMarginBefore := written.initMarginBefore
      maintMarginBefore := written.maintMarginBefore
      equityWithLoanBefore := written.equityWithLoanBefore
      initMarginChange := written.initMarginChange
      maintMarginChange := written.maintMarginChange
      equityWithLoanChange := written.equityWithLoanChange
      initMarginAfter := written.initMarginAfter
      maintMarginAfter := written.maintMarginAfter
      equityWithLoanAfter := written.equityWithLoanAfter
      commissionAndFees := written.commissionAndFees
      minCommissionAndFees := written.minCommissionAndFees
      maxCommissionAndFees := written.maxCommissionAndFees
      commissionAndFeesCurrency := written.commissionAndFeesCurrency
      marginCurrency := if Since.fullPreview ≤ sv then written.marginCurrency else ""
      outsideRthMargins := if Since.fullPreview ≤ sv then written.outsideRthMargins else []
      suggestedSize := if Since.fullPreview ≤ sv then written.suggestedSize else none
      rejectReason := if Since.fullPreview ≤ sv then written.rejectReason else ""
      orderAllocations := if Since.fullPreview ≤ sv then written.orderAllocations else []
      warningText := written.warningText } := by
  have hcompared : decide (Since.previewFields ≤ sv) = true := decide_eq_true hsv
  simp only [OrderState.items, Item.since, if_pos hsv, List.append_assoc, List.cons_append,
    List.nil_append]
  refine .known hcompared <| .text <| .known hcompared <| .text <| .known hcompared <| .text <|
    .known hcompared <| .text <| .known hcompared <| .text <| .known hcompared <| .text <| .text <|
    .text <| .text <| .optionalDouble <| .optionalDouble <| .optionalDouble <| .text ?_
  by_cases hfull : Since.fullPreview ≤ sv
  · have hknown : decide (Since.fullPreview ≤ sv) = true := decide_eq_true hfull
    simp only [if_pos hfull, List.append_assoc, List.cons_append]
    -- No number stands in front of the margins: the reader takes nine.
    rw [← hmargins hfull]
    exact .known hknown <| .text <| .known hknown <|
      .bind (.list fun margin _ => tells_optionalDouble margin) <| .known hknown <| .quantity <|
      .known hknown <| .text <| .known hknown <|
      .bind (.counted fun a _ => tells_orderAllocation a) <| .text <| .pure _
  · have hunknown : decide (Since.fullPreview ≤ sv) = false := decide_eq_false hfull
    simp only [if_neg hfull, List.nil_append]
    exact .unknown hunknown <| .unknown hunknown <| .unknown hunknown <| .unknown hunknown <|
      .unknown hunknown <| .text <| .pure _

end Event

end BrokerWire
