import BrokerWire.Proofs.Event.OrderGroups
import BrokerWire.Proofs.Request.Admission
import BrokerWire.Proofs.Request.OrderLayout
import BrokerWire.Proofs.Wire.Delimiting

namespace BrokerWire

/-- Whether the text codes of a contract are the ones that their texts mean. -/
structure Contract.IsCanonical (c : Contract) : Prop where
  secType : ∀ word ∈ c.secType, word.IsCanonical
  right : ∀ word ∈ c.right, word.IsCanonical
  secIdType : ∀ word ∈ c.secIdType, word.IsCanonical
  actions : ∀ leg ∈ c.comboLegs, ∀ word ∈ leg.action, word.IsCanonical

/-- Whether the text codes of an order are the ones that their texts mean. -/
structure Order.IsCanonical (o : Order) : Prop where
  action : ∀ word ∈ o.terms.action, word.IsCanonical
  orderType : ∀ word ∈ o.terms.orderType, word.IsCanonical
  tif : ∀ word ∈ o.terms.tif, word.IsCanonical

/-- What every order sends of its contract. -/
def Contract.named (c : Contract) : Contract where
  conId := c.conId
  symbol := c.symbol
  secType := c.secType
  lastTradeDateOrContractMonth := c.lastTradeDateOrContractMonth
  strike := c.strike
  right := c.right
  multiplier := c.multiplier
  exchange := c.exchange
  primaryExchange := c.primaryExchange
  currency := c.currency
  localSymbol := c.localSymbol
  tradingClass := c.tradingClass
  secIdType := c.secIdType
  secId := c.secId

/-- What an order sends of the legs of its contract. -/
def Contract.placedLegs (c : Contract) : List ComboLeg :=
  if c.isCombo then c.comboLegs else []

/-- What an order sends of its contract. -/
def Contract.placed (c : Contract) : Contract :=
  { c.named with comboLegs := c.placedLegs, deltaNeutralContract := c.deltaNeutralContract }

/-- The quantity of an order is compared as a number. -/
def OrderTerms.placed (t : OrderTerms) : OrderTerms :=
  { t with totalQuantity := none }

def OrderCombo.placed (c : Contract) (combo : OrderCombo) : OrderCombo :=
  if c.isCombo then
    { orderComboLegs := combo.orderComboLegs
      smartComboRoutingParams := combo.smartComboRoutingParams }
  else {}

def ScaleParams.placed (s : ScaleParams) : ScaleParams :=
  { s.told with table := s.table }

def OrderAdjustment.placed (sv : ServerVersion) (a : OrderAdjustment) : OrderAdjustment :=
  if Since.benchmarkPegs ≤ sv then a else {}

def Order.placedPegBest (sv : ServerVersion) (c : Contract) (o : Order) : OrderPegBest :=
  if Since.pegOffsets ≤ sv then
    { minTradeQty := if c.exchange = leastQuantityExchange then o.pegBest.minTradeQty else none
      minCompeteSize := if o.isOfKind .peggedToBest then o.pegBest.minCompeteSize else none
      competeAgainstBestOffset :=
        if o.isOfKind .peggedToBest then o.pegBest.competeAgainstBestOffset else none
      midOffsetAtWhole := if o.pegsToQuote then o.pegBest.midOffsetAtWhole else none
      midOffsetAtHalf := if o.pegsToQuote then o.pegBest.midOffsetAtHalf else none }
  else {}

def OrderCompliance.placed (sv : ServerVersion) (c : OrderCompliance) : OrderCompliance where
  extOperator := if Since.externalOperators ≤ sv then c.extOperator else ""
  softDollarTier :=
    if Since.softDollarTiers ≤ sv then
      { name := c.softDollarTier.name, value := c.softDollarTier.value }
    else {}
  mifid2 :=
    { decisionMaker := if Since.decisionMakers ≤ sv then c.mifid2.decisionMaker else ""
      decisionAlgo := if Since.decisionMakers ≤ sv then c.mifid2.decisionAlgo else ""
      executionTrader := if Since.executingTraders ≤ sv then c.mifid2.executionTrader else ""
      executionAlgo := if Since.executingTraders ≤ sv then c.mifid2.executionAlgo else "" }
  advancedErrorOverride := if Since.advancedRejects ≤ sv then c.advancedErrorOverride else ""
  manualOrderIndicator := if Since.operatorTags ≤ sv then c.manualOrderIndicator else none

/-- What a server of a version is sent of an order for a contract, beside its quantity and its misc
options; everything else is as by default. -/
def Order.placed (sv : ServerVersion) (c : Contract) (o : Order) : Order where
  identity := { parentId := o.identity.parentId }
  terms := o.terms.placed
  amounts := { o.amounts with
    cashQty := if Since.cashQuantities ≤ sv then o.amounts.cashQty else none
    filledQuantity := none }
  timing := { o.timing with
    duration := if Since.durations ≤ sv then o.timing.duration else none
    autoCancelDate := ""
    manualOrderTime := if Since.manualOrderTimes ≤ sv then o.timing.manualOrderTime else ""
    includeOvernight := if Since.overnightOrders ≤ sv then o.timing.includeOvernight else false }
  handling := { o.handling with
    postToAts := if Since.postToAts ≤ sv then o.handling.postToAts else none
    routeMarketableToBbo := false
    imbalanceOnly := if Since.imbalanceOnly ≤ sv then o.handling.imbalanceOnly else false
    isOmsContainer := if Since.orderContainers ≤ sv then o.handling.isOmsContainer else false
    autoCancelParent := if Since.cancellingParents ≤ sv then o.handling.autoCancelParent else false
    usePriceMgmtAlgo := if Since.priceManagement ≤ sv then o.handling.usePriceMgmtAlgo else none
    orderMiscOptions := [] }
  trail := o.trail
  advisor := { o.advisor with
    modelCode := if Since.modelCodes ≤ sv then o.advisor.modelCode else "" }
  clearing := { o.clearing with
    customerAccount := if Since.customerAccounts ≤ sv then o.clearing.customerAccount else ""
    professionalCustomer :=
      if Since.professionalCustomers ≤ sv then o.clearing.professionalCustomer else false
    shareholder := "" }
  auction := { o.auction with
    discretionaryUpToLimitPrice :=
      if Since.discretionUpToLimit ≤ sv then o.auction.discretionaryUpToLimitPrice else false }
  volatility := o.volatility.told true
  combo := o.combo.placed c
  hedge := { o.hedge.told with
    dontUseAutoPriceForHedge :=
      if Since.hedgePricing ≤ sv then o.hedge.dontUseAutoPriceForHedge else false }
  algo := { o.algo.told with algoId := o.algo.algoId }
  pegBest := o.placedPegBest sv c
  adjustment := o.adjustment.placed sv
  conditional := o.conditional.told sv
  compliance := o.compliance.placed sv
  scale := o.scale.placed
  pegBench := o.pegBench.told sv o.terms.orderType

theorem Contract.placed_eq_iff {c c' : Contract} :
    c.placed = c'.placed ↔ c.named = c'.named ∧ c.placedLegs = c'.placedLegs ∧
      c.deltaNeutralContract = c'.deltaNeutralContract := by
  simp only [placed, named, mk.injEq]
  grind

theorem ScaleParams.placed_eq_iff {s s' : ScaleParams} :
    s.placed = s'.placed ↔ s.told = s'.told ∧ s.table = s'.table := by
  have htable (s : ScaleParams) : s.told = { s.placed with table := "" } := by
    unfold placed told
    split <;> rfl
  constructor
  · intro h
    have hsame := congrArg table h
    exact ⟨by rw [htable, h, ← htable], hsame⟩
  · rintro ⟨htold, htable⟩
    rw [placed, htold, htable]
    rfl

theorem ite_eq_ite_iff {α : Type} {p : Prop} [Decidable p] {x y z : α} :
    (if p then x else z) = (if p then y else z) ↔ (p → x = y) := by
  split <;> simp [*]

namespace Field

theorem delimits_pairs (params params' : List TagValue) :
    Delimits (pairs params) (pairs params') (params = params') := by
  refine .counted (fun _ => List.cons_ne_nil _ _) fun p _ p' _ => .fixed 2 rfl rfl ?_
  cases p
  cases p'
  simp

theorem delimits_prices (prices prices' : List (Option Double)) :
    Delimits (count prices :: prices.map (optional double))
      (count prices' :: prices'.map (optional double)) (prices = prices') := by
  rw [List.map_eq_flatMap, List.map_eq_flatMap]
  exact .counted (fun _ => List.cons_ne_nil _ _) fun _ _ _ _ => .fixed 1 rfl rfl (by simp)

theorem delimits_orderedLeg {leg leg' : ComboLeg} (h : ∀ word ∈ leg.action, word.IsCanonical)
    (h' : ∀ word ∈ leg'.action, word.IsCanonical) :
    Delimits (orderedLeg leg) (orderedLeg leg') (leg = leg') := by
  refine .fixed 8 rfl rfl ?_
  cases leg
  cases leg'
  simp [orderedLeg, optionalCode_inj h h']

theorem delimits_hedgeOrder (d d' : DeltaNeutralOrder) :
    Delimits (hedgeOrder d) (hedgeOrder d') (d.told true = d'.told true) := by
  refine (Delimits.cons Iff.rfl fun htype => .cons optionalDouble_inj fun _ =>
    .whenever (by rw [DeltaNeutralOrder.isSet, DeltaNeutralOrder.isSet, htype]) fun _ =>
      .fixed 8 rfl rfl Iff.rfl).congr ?_
  cases d
  cases d'
  simp only [DeltaNeutralOrder.told, DeltaNeutralOrder.isSet, decide_eq_true_eq, List.cons.injEq,
    int_inj, bool_inj, and_true]
  grind

theorem delimits_trail (t t' : OrderTrail) : Delimits
    [optional double t.trailStopPrice, optional double t.trailingPercent]
    [optional double t'.trailStopPrice, optional double t'.trailingPercent] (t = t') := by
  refine .fixed 2 rfl rfl ?_
  cases t
  cases t'
  simp

theorem delimits_volatility (v v' : OrderVolatility) :
    Delimits v.fields v'.fields (v.told true = v'.told true) := by
  refine (((Delimits.fixed 2 rfl rfl Iff.rfl).append fun _ => delimits_hedgeOrder _ _).append
    fun _ => .fixed 2 rfl rfl Iff.rfl).congr ?_
  simp only [OrderVolatility.told, OrderVolatility.mk.injEq, List.cons.injEq, bool_inj,
    optionalInt_inj, optionalDouble_inj, and_true]
  grind

theorem delimits_ladder (s s' : ScaleParams) :
    Delimits s.fields s'.fields (s.told = s'.told) := by
  have hsizes : Delimits
      [optional int s.initLevelSize, optional int s.subsLevelSize,
        optional double s.priceIncrement]
      [optional int s'.initLevelSize, optional int s'.subsLevelSize,
        optional double s'.priceIncrement]
      (s.initLevelSize = s'.initLevelSize ∧ s.subsLevelSize = s'.subsLevelSize ∧
        s.priceIncrement = s'.priceIncrement) :=
    .fixed 3 rfl rfl (by simp)
  refine (hsizes.append fun h =>
    .whenever (by rw [ScaleParams.hasAdjustments, ScaleParams.hasAdjustments, h.2.2]) fun _ =>
      .fixed 7 rfl rfl Iff.rfl).congr ?_
  cases s
  cases s'
  simp only [ScaleParams.told, ScaleParams.hasAdjustments, List.cons.injEq, bool_inj,
    optionalInt_inj, optionalDouble_inj, and_true]
  grind

theorem delimits_hedge (h h' : OrderHedge) : Delimits h.fields h'.fields (h.told = h'.told) := by
  refine (Delimits.cons Iff.rfl fun htype => .whenever (by rw [htype]) fun _ =>
    .fixed 1 rfl rfl List.singleton_inj).congr ?_
  simp only [OrderHedge.told, OrderHedge.mk.injEq]
  grind

theorem delimits_algo (a a' : OrderAlgo) : Delimits a.fields a'.fields (a.told = a'.told) := by
  refine (Delimits.cons Iff.rfl fun hstrategy => .whenever (by rw [hstrategy]) fun _ =>
    delimits_pairs _ _).congr ?_
  simp only [OrderAlgo.told, OrderAlgo.mk.injEq]
  grind

theorem delimits_underlying (d d' : Option DeltaNeutralContract) :
    Delimits (underlying d) (underlying d') (d = d') := by
  have hflag : bool false ≠ bool true := by simp
  cases d with
  | none =>
    cases d' with
    | none => exact .fixed 1 rfl rfl (by simp)
    | some d' => exact (Delimits.of_ne hflag).congr (by simp)
  | some d =>
    cases d' with
    | none => exact (Delimits.of_ne hflag.symm).congr (by simp)
    | some d' =>
      refine .fixed 4 rfl rfl ?_
      cases d
      cases d'
      simp [underlying]

theorem delimits_conditionKind {kind kind' : ConditionKind} (h : kind.type = kind'.type) :
    Delimits (conditionKind kind) (conditionKind kind') (kind = kind') := by
  cases kind <;> cases kind' <;> try cases h
  case price.price x s trigger x' s' trigger' =>
    refine .fixed 5 rfl rfl ?_
    cases x; cases s; cases x'; cases s'
    simp [conditionKind, comparison, scope, and_assoc]
  case time.time x x' =>
    refine .fixed 2 rfl rfl ?_
    cases x; cases x'
    simp [conditionKind, comparison]
  case margin.margin x x' =>
    refine .fixed 2 rfl rfl ?_
    cases x; cases x'
    simp [conditionKind, comparison]
  case execution.execution => exact .fixed 3 rfl rfl (by simp [conditionKind])
  case volume.volume x s x' s' =>
    refine .fixed 4 rfl rfl ?_
    cases x; cases s; cases x'; cases s'
    simp [conditionKind, comparison, scope, and_assoc]
  case percentChange.percentChange x s x' s' =>
    refine .fixed 4 rfl rfl ?_
    cases x; cases s; cases x'; cases s'
    simp [conditionKind, comparison, scope, and_assoc]

theorem delimits_condition (c c' : OrderCondition) :
    Delimits (condition c) (condition c') (c = c') := by
  have hletter : c.conjunction.letter = c'.conjunction.letter ↔ c.conjunction = c'.conjunction := by
    constructor
    · intro h
      rw [← Event.ofLetter_letter c.conjunction, h, Event.ofLetter_letter]
    · exact congrArg Conjunction.letter
  refine (Delimits.cons number_inj fun htype =>
    .cons hletter fun _ => delimits_conditionKind htype).congr ?_
  cases c
  cases c'
  grind

theorem conditions_eq (c : OrderConditions) :
    conditions c =
      (count c.conditions :: c.conditions.flatMap condition) ++
        if c.conditions ≠ [] then [bool c.conditionsIgnoreRth, bool c.conditionsCancelOrder]
        else [] := by
  unfold conditions
  cases c.conditions <;> simp

theorem delimits_conditions {sv : ServerVersion} (hsv : Since.benchmarkPegs ≤ sv)
    (c c' : OrderConditions) :
    Delimits (conditions c) (conditions c') (c.told sv = c'.told sv) := by
  have hlist : Delimits (count c.conditions :: c.conditions.flatMap condition)
      (count c'.conditions :: c'.conditions.flatMap condition) (c.conditions = c'.conditions) :=
    .counted (fun _ => List.cons_ne_nil _ _) fun _ _ _ _ => delimits_condition _ _
  rw [conditions_eq, conditions_eq]
  refine (hlist.append fun hsame => .whenever (by rw [hsame]) fun _ =>
    .fixed 2 rfl rfl Iff.rfl).congr ?_
  cases c
  cases c'
  simp only [OrderConditions.told, hsv, List.cons.injEq, bool_inj, true_and, and_true]
  grind

end Field

namespace Order

open BrokerWire.Field

theorem optionalFlag_inj {b b' : Option Bool} : optional flag b = optional flag b' ↔ b = b' := by
  refine optional_inj (fun _ => int_ne_empty _) fun a a' => ?_
  cases a <;> cases a' <;> simp

variable {sv : ServerVersion} {c c' : Contract} {o o' : Order}

theorem delimits_comboFields (o o' : Order) (hcombo : c.isCombo = c'.isCombo) (hc : c.IsCanonical)
    (hc' : c'.IsCanonical) : Delimits (o.comboFields c) (o'.comboFields c')
      (c.placedLegs = c'.placedLegs ∧ o.combo.placed c = o'.combo.placed c') := by
  have hlegs : Delimits (count c.comboLegs :: c.comboLegs.flatMap orderedLeg)
      (count c'.comboLegs :: c'.comboLegs.flatMap orderedLeg) (c.comboLegs = c'.comboLegs) :=
    .counted (fun _ => List.cons_ne_nil _ _) fun leg hm leg' hm' =>
      delimits_orderedLeg (hc.actions leg hm) (hc'.actions leg' hm')
  unfold comboFields Contract.placedLegs OrderCombo.placed
  rw [hcombo]
  split
  · refine ((hlegs.append fun _ => delimits_prices _ _).append fun _ =>
      delimits_pairs _ _).congr ?_
    simp [and_assoc]
  · exact Delimits.nil.congr (by simp)

theorem delimits_pegBenchFields (sv : ServerVersion)
    (hkind : o.terms.orderType = o'.terms.orderType) : Delimits
    (Field.since Since.benchmarkPegs sv o.pegBenchFields)
    (Field.since Since.benchmarkPegs sv o'.pegBenchFields)
    (o.pegBench.told sv o.terms.orderType = o'.pegBench.told sv o'.terms.orderType) := by
  have hof : o.isOfKind .peggedToBenchmark ↔ o'.isOfKind .peggedToBenchmark := by
    rw [isOfKind, isOfKind, hkind]
  refine (Delimits.since fun _ => .whenever hof fun _ => .fixed 5 rfl rfl Iff.rfl).congr ?_
  cases o.pegBench
  cases o'.pegBench
  simp only [PegBenchParams.told, IsBenchmarked, isOfKind, hkind, decide_eq_true_eq,
    List.cons.injEq, bool_inj, optionalInt_inj, optionalDouble_inj, and_true]
  grind

theorem delimits_conditionalFields (sv : ServerVersion) (o o' : Order) : Delimits
    (Field.since Since.benchmarkPegs sv (conditions o.conditional ++ o.adjustmentFields))
    (Field.since Since.benchmarkPegs sv (conditions o'.conditional ++ o'.adjustmentFields))
    (o.conditional.told sv = o'.conditional.told sv ∧
      o.adjustment.placed sv = o'.adjustment.placed sv) := by
  have hadjustment : Delimits o.adjustmentFields o'.adjustmentFields
      (o.adjustment = o'.adjustment) := by
    refine .fixed 7 rfl rfl ?_
    unfold adjustmentFields
    rcases o.adjustment with ⟨⟨⟩, _, _⟩
    rcases o'.adjustment with ⟨⟨⟩, _, _⟩
    simp only [OrderAdjustment.mk.injEq, AdjustedOrder.mk.injEq, List.cons.injEq,
      optionalInt_inj, optionalDouble_inj, and_true]
    grind
  refine (Delimits.since fun hsv => (delimits_conditions hsv _ _).append fun _ =>
    hadjustment).congr ?_
  by_cases hsv : Since.benchmarkPegs ≤ sv <;>
    simp [OrderConditions.told, OrderAdjustment.placed, hsv]

theorem delimits_pegBestFields (sv : ServerVersion) (hexchange : c.exchange = c'.exchange)
    (hkind : o.terms.orderType = o'.terms.orderType) : Delimits
    (Field.since Since.pegOffsets sv (o.pegBestFields c))
    (Field.since Since.pegOffsets sv (o'.pegBestFields c'))
    (o.placedPegBest sv c = o'.placedPegBest sv c') := by
  have hof (kind : OrderKind) : o.isOfKind kind = o'.isOfKind kind := by
    rw [isOfKind, hkind]
    rfl
  have hquote : o.pegsToQuote = o'.pegsToQuote := by
    rw [pegsToQuote, hof, hof]
    rfl
  unfold placedPegBest pegBestFields
  rw [hexchange, hof, hquote]
  refine (Delimits.since fun _ => ((Delimits.whenever Iff.rfl fun _ =>
    .fixed 1 rfl rfl Iff.rfl).append fun _ => .whenever Iff.rfl fun _ =>
    .fixed 2 rfl rfl Iff.rfl).append fun _ => .whenever Iff.rfl fun _ =>
    .fixed 2 rfl rfl Iff.rfl).congr ?_
  simp only [List.cons.injEq, optionalInt_inj, optionalDouble_inj, and_true]
  grind

theorem delimits_allocationFields (sv : ServerVersion) (o o' : Order) :
    Delimits (o.allocationFields sv) (o'.allocationFields sv)
      (o.auction.discretionaryAmt = o'.auction.discretionaryAmt ∧
        o.timing.goodAfterTime = o'.timing.goodAfterTime ∧
        o.timing.goodTillDate = o'.timing.goodTillDate ∧
        o.advisor.faGroup = o'.advisor.faGroup ∧ o.advisor.faMethod = o'.advisor.faMethod ∧
        o.advisor.faPercentage = o'.advisor.faPercentage ∧
        (Since.modelCodes ≤ sv → o.advisor.modelCode = o'.advisor.modelCode)) := by
  refine (((Delimits.fixed 7 rfl rfl Iff.rfl).append fun _ => .same _).append fun _ =>
    .since fun _ => .fixed 1 rfl rfl List.singleton_inj).congr ?_
  simp [and_assoc]

theorem delimits_operatorFields (sv : ServerVersion) (o o' : Order) :
    Delimits (o.operatorFields sv) (o'.operatorFields sv)
      ((Since.externalOperators ≤ sv → o.compliance.extOperator = o'.compliance.extOperator) ∧
        (Since.softDollarTiers ≤ sv →
          o.compliance.softDollarTier.name = o'.compliance.softDollarTier.name ∧
            o.compliance.softDollarTier.value = o'.compliance.softDollarTier.value) ∧
        (Since.cashQuantities ≤ sv → o.amounts.cashQty = o'.amounts.cashQty) ∧
        (Since.decisionMakers ≤ sv →
          o.compliance.mifid2.decisionMaker = o'.compliance.mifid2.decisionMaker ∧
            o.compliance.mifid2.decisionAlgo = o'.compliance.mifid2.decisionAlgo) ∧
        (Since.executingTraders ≤ sv →
          o.compliance.mifid2.executionTrader = o'.compliance.mifid2.executionTrader ∧
            o.compliance.mifid2.executionAlgo = o'.compliance.mifid2.executionAlgo) ∧
        (Since.hedgePricing ≤ sv →
          o.hedge.dontUseAutoPriceForHedge = o'.hedge.dontUseAutoPriceForHedge) ∧
        (Since.orderContainers ≤ sv → o.handling.isOmsContainer = o'.handling.isOmsContainer) ∧
        (Since.discretionUpToLimit ≤ sv →
          o.auction.discretionaryUpToLimitPrice = o'.auction.discretionaryUpToLimitPrice) ∧
        (Since.priceManagement ≤ sv →
          o.handling.usePriceMgmtAlgo = o'.handling.usePriceMgmtAlgo) ∧
        (Since.durations ≤ sv → o.timing.duration = o'.timing.duration) ∧
        (Since.postToAts ≤ sv → o.handling.postToAts = o'.handling.postToAts) ∧
        (Since.cancellingParents ≤ sv →
          o.handling.autoCancelParent = o'.handling.autoCancelParent) ∧
        (Since.advancedRejects ≤ sv →
          o.compliance.advancedErrorOverride = o'.compliance.advancedErrorOverride) ∧
        (Since.manualOrderTimes ≤ sv →
          o.timing.manualOrderTime = o'.timing.manualOrderTime)) := by
  unfold operatorFields
  simp only [List.append_assoc]
  exact
    .append (.since fun _ => .fixed 1 rfl rfl (by simp)) fun _ =>
    .append (.since fun _ => .fixed 2 rfl rfl (by simp)) fun _ =>
    .append (.since fun _ => .fixed 1 rfl rfl (by simp)) fun _ =>
    .append (.since fun _ => .fixed 2 rfl rfl (by simp)) fun _ =>
    .append (.since fun _ => .fixed 2 rfl rfl (by simp)) fun _ =>
    .append (.since fun _ => .fixed 1 rfl rfl (by simp)) fun _ =>
    .append (.since fun _ => .fixed 1 rfl rfl (by simp)) fun _ =>
    .append (.since fun _ => .fixed 1 rfl rfl (by simp)) fun _ =>
    .append (.since fun _ => .fixed 1 rfl rfl (by simp [optionalFlag_inj])) fun _ =>
    .append (.since fun _ => .fixed 1 rfl rfl (by simp)) fun _ =>
    .append (.since fun _ => .fixed 1 rfl rfl (by simp)) fun _ =>
    .append (.since fun _ => .fixed 1 rfl rfl (by simp)) fun _ =>
    .append (.since fun _ => .fixed 1 rfl rfl (by simp)) fun _ =>
    .since fun _ => .fixed 1 rfl rfl (by simp)

theorem delimits_customerFields (sv : ServerVersion) (o o' : Order) :
    Delimits (o.customerFields sv) (o'.customerFields sv)
      ((Since.customerAccounts ≤ sv →
          o.clearing.customerAccount = o'.clearing.customerAccount) ∧
        (Since.professionalCustomers ≤ sv →
          o.clearing.professionalCustomer = o'.clearing.professionalCustomer) ∧
        True ∧
        (Since.overnightOrders ≤ sv →
          o.timing.includeOvernight = o'.timing.includeOvernight) ∧
        (Since.operatorTags ≤ sv →
          o.compliance.manualOrderIndicator = o'.compliance.manualOrderIndicator) ∧
        (Since.imbalanceOnly ≤ sv → o.handling.imbalanceOnly = o'.handling.imbalanceOnly)) := by
  unfold customerFields
  simp only [List.append_assoc]
  exact
    .append (.since fun _ => .fixed 1 rfl rfl (by simp)) fun _ =>
    .append (.since fun _ => .fixed 1 rfl rfl (by simp)) fun _ =>
    .append (.same _) fun _ =>
    .append (.since fun _ => .fixed 1 rfl rfl (by simp)) fun _ =>
    .append (.since fun _ => .fixed 1 rfl rfl (by simp)) fun _ =>
    .since fun _ => .fixed 1 rfl rfl (by simp)

theorem delimits_contract (hc : c.IsCanonical) (hc' : c'.IsCanonical) :
    Delimits (contract c ++ [Field.optional code c.secIdType, c.secId])
      (contract c' ++ [Field.optional code c'.secIdType, c'.secId])
      (c.named = c'.named) := by
  refine .fixed 14 rfl rfl ?_
  simp [contract, Contract.named, optionalCode_inj hc.secType hc'.secType,
    optionalCode_inj hc.right hc'.right, optionalCode_inj hc.secIdType hc'.secIdType]

theorem delimits_termFields (hsv : Since.fractionalQuantities ≤ sv) (ho : o.IsCanonical)
    (ho' : o'.IsCanonical) : Delimits (o.termFields sv) (o'.termFields sv)
      (o.terms.placed = o'.terms.placed ∧
        o.terms.totalQuantity.map Decimal.value = o'.terms.totalQuantity.map Decimal.value) := by
  refine .fixed 11 rfl rfl ?_
  simp only [termFields, if_pos hsv, List.cons.injEq, optionalCode_inj ho.action ho'.action,
    optionalDecimal_eq_iff, optionalCode_inj ho.orderType ho'.orderType, optionalDouble_inj,
    optionalCode_inj ho.tif ho'.tif, number_inj, OrderTerms.placed, OrderTerms.mk.injEq, true_and,
    and_true]
  apply Iff.of_eq
  ac_rfl

theorem delimits_headFields {i i' : Int32} (hsv : Since.fractionalQuantities ≤ sv)
    (hc : c.IsCanonical) (hc' : c'.IsCanonical) (ho : o.IsCanonical) (ho' : o'.IsCanonical) :
    Delimits (o.headFields sv i c) (o'.headFields sv i' c')
      (i = i' ∧ c.named = c'.named ∧ (o.terms.placed = o'.terms.placed ∧
        o.terms.totalQuantity.map Decimal.value = o'.terms.totalQuantity.map Decimal.value) ∧
        o.handlingFields = o'.handlingFields) := by
  have hid : Delimits [int i] [int i'] (i = i') := .fixed 1 rfl rfl (by simp)
  refine (((((Delimits.same _).append fun _ => hid).append fun _ =>
    delimits_contract hc hc').append fun _ => delimits_termFields hsv ho ho').append fun _ =>
    .fixed 8 rfl rfl Iff.rfl).congr ?_
  simp only [true_and, and_assoc]

theorem isCombo_of_named (h : c.named = c'.named) : c.isCombo = c'.isCombo := by
  have hsecType := congrArg Contract.secType h
  simp only [Contract.named] at hsecType
  rw [Contract.isCombo, hsecType]
  rfl

theorem exchange_of_named (h : c.named = c'.named) : c.exchange = c'.exchange := by
  have hexchange := congrArg Contract.exchange h
  exact hexchange

theorem orderType_of_placed (h : o.terms.placed = o'.terms.placed) :
    o.terms.orderType = o'.terms.orderType := by
  have hkind := congrArg OrderTerms.orderType h
  exact hkind

/-- Two orders have the same fields exactly if a server is sent the same of them. -/
theorem fields_eq_iff {i i' : Int32} (hsv : Since.fractionalQuantities ≤ sv)
    (hc : c.IsCanonical) (hc' : c'.IsCanonical) (ho : o.IsCanonical) (ho' : o'.IsCanonical)
    (hshort : (o.fields sv i c).length ≤ maxPayload)
    (hshort' : (o'.fields sv i' c').length ≤ maxPayload) :
    o.fields sv i c = o'.fields sv i' c' ↔
      i = i' ∧ c.placed = c'.placed ∧ o.placed sv c = o'.placed sv c' ∧
        o.terms.totalQuantity.map Decimal.value = o'.terms.totalQuantity.map Decimal.value ∧
        tags o.handling.orderMiscOptions = tags o'.handling.orderMiscOptions := by
  rw [← flatten_groups] at hshort hshort' ⊢
  rw [← flatten_groups]
  simp only [groups, List.flatten_cons, List.flatten_nil, List.append_nil] at hshort hshort' ⊢
  rw [Delimits.eq_iff hshort hshort' <|
    .append (delimits_headFields hsv hc hc' ho ho') fun hhead =>
    .append (delimits_comboFields o o' (isCombo_of_named hhead.2.1) hc hc') fun _ =>
    .append (.append (delimits_allocationFields sv o o') fun _ =>
      .fixed 19 rfl rfl Iff.rfl) fun _ =>
    .append (delimits_volatility o.volatility o'.volatility) fun _ =>
    .append (delimits_trail o.trail o'.trail) fun _ =>
    .append (.append (delimits_ladder o.scale o'.scale) fun _ =>
      .fixed 1 rfl rfl List.singleton_inj) fun _ =>
    .append (.fixed 2 rfl rfl Iff.rfl) fun _ =>
    .append (delimits_hedge o.hedge o'.hedge) fun _ =>
    .append (.fixed 4 rfl rfl Iff.rfl) fun _ =>
    .append (delimits_underlying _ _) fun _ =>
    .append (delimits_algo o.algo o'.algo) fun _ =>
    .append (.fixed 6 rfl rfl Iff.rfl) fun _ =>
    .append (delimits_pegBenchFields sv (orderType_of_placed hhead.2.2.1.1)) fun _ =>
    .append (delimits_conditionalFields sv o o') fun _ =>
    .append (.append (delimits_operatorFields sv o o') fun _ =>
      delimits_pegBestFields sv (exchange_of_named hhead.2.1)
        (orderType_of_placed hhead.2.2.1.1)) fun _ => delimits_customerFields sv o o']
  simp only [Contract.placed_eq_iff, placed, Order.mk.injEq, OrderIdentity.mk.injEq,
    OrderAmounts.mk.injEq, OrderTiming.mk.injEq, OrderHandling.mk.injEq, OrderAdvisor.mk.injEq,
    OrderClearing.mk.injEq, OrderAuction.mk.injEq, OrderHedge.told, OrderHedge.mk.injEq,
    OrderAlgo.told, OrderAlgo.mk.injEq, OrderCompliance.placed, OrderCompliance.mk.injEq,
    SoftDollarTier.mk.injEq, DecisionMakers.mk.injEq, ScaleParams.placed_eq_iff, handlingFields,
    auctionFields, List.cons.injEq, bool_inj, int_inj, number_inj, optionalInt_inj,
    optionalDouble_inj, ite_eq_ite_iff, imp_and, true_and, and_true, and_assoc]
  apply Iff.of_eq
  ac_rfl

end Order

namespace Client

open BrokerWire.Field (tags)

/-- Two orders that are sent to servers of one version, without zero characters in their texts, have
the same frame exactly if the servers are sent the same of them: whoever reads a frame and knows the
version can tell the order. -/
theorem placeOrder_frame_eq_iff {a b : Client} {openA openB : Bool} {s s' : Session} {i i' : Int32}
    {c c' : Contract} {o o' : Order} {frame frame' : Bytes}
    (ha : a.live? = some s) (hb : b.live? = some s')
    (hversions : s'.serverVersion = s.serverVersion) (hsv : 101 ≤ s.serverVersion)
    (h : a.request openA (.placeOrder i c o) = .ok frame)
    (h' : b.request openB (.placeOrder i' c' o') = .ok frame')
    (hc : c.IsCanonical) (hc' : c'.IsCanonical) (ho : o.IsCanonical) (ho' : o'.IsCanonical)
    (htexts : ∀ t ∈ o.fields s.serverVersion i c, Utf8.IsTerminable t)
    (htexts' : ∀ t ∈ o'.fields s.serverVersion i' c', Utf8.IsTerminable t) :
    frame = frame' ↔
      i = i' ∧ c.placed = c'.placed ∧
        o.placed s.serverVersion c = o'.placed s.serverVersion c' ∧
        o.terms.totalQuantity.map Decimal.value = o'.terms.totalQuantity.map Decimal.value ∧
        tags o.handling.orderMiscOptions = tags o'.handling.orderMiscOptions := by
  obtain ⟨-, s₁, hlive, -, hlength, rfl⟩ := request_eq_ok_iff.mp h
  obtain ⟨-, s₂, hlive', -, hlength', rfl⟩ := request_eq_ok_iff.mp h'
  rw [ha] at hlive
  rw [hb] at hlive'
  cases hlive
  cases hlive'
  rw [hversions] at hlength' ⊢
  have hframe := Message.octets_ofKind_eq_iff hlength hlength' htexts htexts'
  have hfields := Order.fields_eq_iff hsv hc hc' ho ho' (Message.length_fields_le hlength)
    (Message.length_fields_le hlength')
  exact hframe.trans hfields

/-- A client in a session with a server that wants the fields of requests for quotes. -/
def ofQuoting : Client where
  phase := .connected
  session := some ⟨1, 188, "", 0⟩
  attempt := 1

/-- An order that is pegged to the best price and worked by an algorithm. -/
def pegged (quantity : Decimal) : Order where
  terms := { totalQuantity := some quantity, orderType := some (.known .peggedToBest) }
  algo := { algoStrategy := "Adaptive", algoParams := [⟨"adaptivePriority", "Urgent"⟩] }

/-- The frame of such an order. -/
def peggedOctets (orderId : Int32) (quantity : Decimal) : Bytes :=
  Frame.octets ((Request.placeOrder orderId {} (pegged quantity)).message 188).payload

theorem request_pegged {orderId : Int32} {quantity : Decimal}
    (hneeds : ∀ need ∈ (pegged quantity).needs {}, need.isMet 188 = true)
    (hlength :
      ((Request.placeOrder orderId {} (pegged quantity)).message 188).length ≤ maxPayload) :
    ofQuoting.request true (.placeOrder orderId {} (pegged quantity)) =
      .ok (peggedOctets orderId quantity) := by
  rw [request_eq_ok_iff]
  refine ⟨rfl, _, rfl, hneeds, ?_, rfl⟩
  rw [Message.length_payload]
  exact hlength

theorem isCanonical_default : ({} : Contract).IsCanonical :=
  ⟨nofun, nofun, nofun, nofun⟩

theorem isCanonical_pegged (quantity : Decimal) : (pegged quantity).IsCanonical :=
  ⟨nofun, by rintro _ ⟨⟩; trivial, nofun⟩

/-- The frames of `1.5` and `1.50` are the same, and those of two order numbers are not. -/
theorem placeOrder_frame_eq_iff_pegged :
    peggedOctets 7 ⟨15, 1, by decide, by decide⟩ = peggedOctets 7 ⟨150, 2, by decide, by decide⟩ ∧
      peggedOctets 7 ⟨15, 1, by decide, by decide⟩ ≠
        peggedOctets 8 ⟨15, 1, by decide, by decide⟩ := by
  have hshort := @request_pegged 7 ⟨15, 1, by decide, by decide⟩ (by decide) (by decide +kernel)
  have hlong := @request_pegged 7 ⟨150, 2, by decide, by decide⟩ (by decide) (by decide +kernel)
  have hother := @request_pegged 8 ⟨15, 1, by decide, by decide⟩ (by decide) (by decide +kernel)
  constructor
  · refine (placeOrder_frame_eq_iff rfl rfl rfl (by decide) hshort hlong isCanonical_default
      isCanonical_default (isCanonical_pegged _) (isCanonical_pegged _)
      (by decide +kernel) (by decide +kernel)).mpr ⟨rfl, rfl, rfl, ?_, rfl⟩
    norm_num [pegged, Decimal.value]
  · intro he
    have hid := ((placeOrder_frame_eq_iff rfl rfl rfl (by decide) hshort hother
      isCanonical_default isCanonical_default (isCanonical_pegged _) (isCanonical_pegged _)
      (by decide +kernel) (by decide +kernel)).mp he).1
    revert hid
    decide

end Client

end BrokerWire
