import BrokerWire.Proofs.Number.Decimal
import BrokerWire.Proofs.Request.Admission

namespace BrokerWire

namespace Order

open BrokerWire.Field

/-- The parts of an order that servers take from a version on. -/
inductive GatedPart where
  | conditions
  | adjusted
  | triggerPrice
  | lmtPriceOffset
  | modelCode
  | extOperator
  | softDollarName
  | softDollarValue
  | cashQty
  | decisionMaker
  | decisionAlgo
  | executionTrader
  | executionAlgo
  | dontUseAutoPriceForHedge
  | isOmsContainer
  | discretionaryUpToLimitPrice
  | usePriceMgmtAlgo
  | duration
  | postToAts
  | autoCancelParent
  | advancedErrorOverride
  | manualOrderTime
  | customerAccount
  | professionalCustomer
  | includeOvernight
  | manualOrderIndicator
  | imbalanceOnly
  deriving DecidableEq

namespace GatedPart

/-- The first version that takes a part. -/
def since : GatedPart → ServerVersion
  | .conditions => Since.benchmarkPegs
  | .adjusted => Since.benchmarkPegs
  | .triggerPrice => Since.benchmarkPegs
  | .lmtPriceOffset => Since.benchmarkPegs
  | .modelCode => Since.modelCodes
  | .extOperator => Since.externalOperators
  | .softDollarName => Since.softDollarTiers
  | .softDollarValue => Since.softDollarTiers
  | .cashQty => Since.cashQuantities
  | .decisionMaker => Since.decisionMakers
  | .decisionAlgo => Since.decisionMakers
  | .executionTrader => Since.executingTraders
  | .executionAlgo => Since.executingTraders
  | .dontUseAutoPriceForHedge => Since.hedgePricing
  | .isOmsContainer => Since.orderContainers
  | .discretionaryUpToLimitPrice => Since.discretionUpToLimit
  | .usePriceMgmtAlgo => Since.priceManagement
  | .duration => Since.durations
  | .postToAts => Since.postToAts
  | .autoCancelParent => Since.cancellingParents
  | .advancedErrorOverride => Since.advancedRejects
  | .manualOrderTime => Since.manualOrderTimes
  | .customerAccount => Since.customerAccounts
  | .professionalCustomer => Since.professionalCustomers
  | .includeOvernight => Since.overnightOrders
  | .manualOrderIndicator => Since.operatorTags
  | .imbalanceOnly => Since.imbalanceOnly

/-- An order with a part as it is by default. -/
def reset (o : Order) : GatedPart → Order
  | .conditions => { o with conditional.conditions := [] }
  | .adjusted => { o with adjustment.adjusted := {} }
  | .triggerPrice => { o with adjustment.triggerPrice := none }
  | .lmtPriceOffset => { o with adjustment.lmtPriceOffset := none }
  | .modelCode => { o with advisor.modelCode := "" }
  | .extOperator => { o with compliance.extOperator := "" }
  | .softDollarName => { o with compliance.softDollarTier.name := "" }
  | .softDollarValue => { o with compliance.softDollarTier.value := "" }
  | .cashQty => { o with amounts.cashQty := none }
  | .decisionMaker => { o with compliance.mifid2.decisionMaker := "" }
  | .decisionAlgo => { o with compliance.mifid2.decisionAlgo := "" }
  | .executionTrader => { o with compliance.mifid2.executionTrader := "" }
  | .executionAlgo => { o with compliance.mifid2.executionAlgo := "" }
  | .dontUseAutoPriceForHedge => { o with hedge.dontUseAutoPriceForHedge := false }
  | .isOmsContainer => { o with handling.isOmsContainer := false }
  | .discretionaryUpToLimitPrice => { o with auction.discretionaryUpToLimitPrice := false }
  | .usePriceMgmtAlgo => { o with handling.usePriceMgmtAlgo := none }
  | .duration => { o with timing.duration := none }
  | .postToAts => { o with handling.postToAts := none }
  | .autoCancelParent => { o with handling.autoCancelParent := false }
  | .advancedErrorOverride => { o with compliance.advancedErrorOverride := "" }
  | .manualOrderTime => { o with timing.manualOrderTime := "" }
  | .customerAccount => { o with clearing.customerAccount := "" }
  | .professionalCustomer => { o with clearing.professionalCustomer := false }
  | .includeOvernight => { o with timing.includeOvernight := false }
  | .manualOrderIndicator => { o with compliance.manualOrderIndicator := none }
  | .imbalanceOnly => { o with handling.imbalanceOnly := false }

/-- Whether a part is checked before an order is sent. -/
def isChecked : GatedPart → Bool
  | .adjusted => false
  | .triggerPrice => false
  | .lmtPriceOffset => false
  | .professionalCustomer => false
  | _ => true

end GatedPart

theorem since_of_lt {version sv : ServerVersion} (h : sv < version) (fields : List String) :
    since version sv fields = [] :=
  if_neg (Int.not_le.mpr h)

theorem since_of_le {version sv : ServerVersion} (h : version ≤ sv) (fields : List String) :
    since version sv fields = fields :=
  if_pos h

/-- What servers that know benchmarks are sent of them, of conditions and of adjustments. -/
def benchmarkFields (sv : ServerVersion) (o : Order) : List String :=
  since Since.benchmarkPegs sv (o.pegBenchFields ++ conditions o.conditional ++ o.adjustmentFields)

/-- The fields of an order with others in place of the groups that hold parts. -/
def fieldsWith (sv : ServerVersion) (orderId : Int32) (c : Contract) (o : Order)
    (allocation benchmark operator customer : List String) : List String :=
  before Since.orderContainers sv [int 45] ++ [int orderId] ++ contract c ++
    [Field.optional code c.secIdType, c.secId] ++ o.termFields sv ++ o.handlingFields ++
    o.comboFields c ++ allocation ++ o.auctionFields ++ o.volatilityFields ++
    Field.scale o.scale ++ o.clearingFields c ++ o.algoFields ++ benchmark ++ operator ++
    since Since.pegOffsets sv (o.pegBestFields c) ++ customer

theorem fields_eq_fieldsWith (sv : ServerVersion) (orderId : Int32) (c : Contract) (o : Order) :
    o.fields sv orderId c = o.fieldsWith sv orderId c (o.allocationFields sv)
      (o.benchmarkFields sv) (o.operatorFields sv) (o.customerFields sv) :=
  rfl

theorem fieldsWith_reset (part : GatedPart) (sv : ServerVersion) (orderId : Int32) (c : Contract)
    (o : Order) : (part.reset o).fieldsWith sv orderId c = o.fieldsWith sv orderId c := by
  cases part <;> rfl

section Groups

variable {sv : ServerVersion} {orderId : Int32} {c : Contract} {o : Order}
variable {allocation benchmark operator customer group : List String}

theorem allocation_of_fieldsWith
    (h : o.fieldsWith sv orderId c allocation benchmark operator customer =
      o.fieldsWith sv orderId c group benchmark operator customer) : allocation = group := by
  simpa only [fieldsWith, List.append_cancel_right_eq, List.append_cancel_left_eq] using h

theorem benchmark_of_fieldsWith
    (h : o.fieldsWith sv orderId c allocation benchmark operator customer =
      o.fieldsWith sv orderId c allocation group operator customer) : benchmark = group := by
  simpa only [fieldsWith, List.append_cancel_right_eq, List.append_cancel_left_eq] using h

theorem operator_of_fieldsWith
    (h : o.fieldsWith sv orderId c allocation benchmark operator customer =
      o.fieldsWith sv orderId c allocation benchmark group customer) : operator = group := by
  simpa only [fieldsWith, List.append_cancel_right_eq, List.append_cancel_left_eq] using h

theorem customer_of_fieldsWith
    (h : o.fieldsWith sv orderId c allocation benchmark operator customer =
      o.fieldsWith sv orderId c allocation benchmark operator group) : customer = group := by
  simpa only [fieldsWith, List.append_cancel_right_eq, List.append_cancel_left_eq] using h

end Groups

/-- Servers before the version of a part are sent nothing of it. -/
theorem fields_reset (part : GatedPart) {sv : ServerVersion} (hsv : sv < part.since)
    (orderId : Int32) (c : Contract) (o : Order) :
    (part.reset o).fields sv orderId c = o.fields sv orderId c := by
  have hnone := since_of_lt hsv
  have hpegBench : (part.reset o).pegBenchFields = o.pegBenchFields := by cases part <;> rfl
  have hallocation : (part.reset o).allocationFields sv = o.allocationFields sv := by
    unfold allocationFields
    cases part <;> simp only [GatedPart.since] at hnone <;> simp only [GatedPart.reset, hnone]
  have hbenchmark : (part.reset o).benchmarkFields sv = o.benchmarkFields sv := by
    unfold benchmarkFields
    rw [hpegBench]
    unfold adjustmentFields
    cases part <;> simp only [GatedPart.since] at hnone <;> simp only [GatedPart.reset, hnone]
  have hoperator : (part.reset o).operatorFields sv = o.operatorFields sv := by
    unfold operatorFields
    cases part <;> simp only [GatedPart.since] at hnone <;> simp only [GatedPart.reset, hnone]
  have hcustomer : (part.reset o).customerFields sv = o.customerFields sv := by
    unfold customerFields
    cases part <;> simp only [GatedPart.since] at hnone <;> simp only [GatedPart.reset, hnone]
  rw [fields_eq_fieldsWith, fields_eq_fieldsWith, fieldsWith_reset, hallocation, hbenchmark,
    hoperator, hcustomer]

/-- An order with all parts set. -/
def withAllParts : Order where
  conditional := { conditions := [⟨.and, .time ⟨true, ""⟩⟩] }
  adjustment :=
    { adjusted := { orderType := "STP" }
      triggerPrice := some .zero
      lmtPriceOffset := some .zero }
  advisor := { modelCode := "model" }
  compliance :=
    { extOperator := "operator"
      softDollarTier := { name := "name", value := "value" }
      mifid2 :=
        { decisionMaker := "maker"
          decisionAlgo := "algo"
          executionTrader := "trader"
          executionAlgo := "algo" }
      advancedErrorOverride := "override"
      manualOrderIndicator := some 0 }
  amounts := { cashQty := some .zero }
  hedge := { dontUseAutoPriceForHedge := true }
  handling :=
    { isOmsContainer := true
      usePriceMgmtAlgo := some true
      postToAts := some 0
      autoCancelParent := true
      imbalanceOnly := true }
  auction := { discretionaryUpToLimitPrice := true }
  timing := { duration := some 0, manualOrderTime := "time", includeOvernight := true }
  clearing := { customerAccount := "account", professionalCustomer := true }

/-- Servers from the version of a part on are sent it. -/
theorem fields_reset_withAllParts (part : GatedPart) {sv : ServerVersion} (hsv : part.since ≤ sv)
    (orderId : Int32) (c : Contract) :
    (part.reset withAllParts).fields sv orderId c ≠ withAllParts.fields sv orderId c := by
  intro h
  have hall := since_of_le hsv
  rw [fields_eq_fieldsWith, fields_eq_fieldsWith, fieldsWith_reset] at h
  -- A part shows in its own group only, so the other groups are equal by definition.
  cases part
  case modelCode =>
    have hgroup := allocation_of_fieldsWith h
    simp only [GatedPart.since] at hall
    simp only [allocationFields, GatedPart.reset, hall, List.append_cancel_left_eq] at hgroup
    revert hgroup
    decide
  case conditions | adjusted | triggerPrice | lmtPriceOffset =>
    have hgroup := benchmark_of_fieldsWith h
    simp only [GatedPart.since] at hall
    simp only [benchmarkFields, hall] at hgroup
    revert hgroup
    decide
  case customerAccount | professionalCustomer | includeOvernight | manualOrderIndicator |
      imbalanceOnly =>
    have hgroup := customer_of_fieldsWith h
    simp only [GatedPart.since] at hall
    simp only [customerFields, GatedPart.reset, hall, List.append_cancel_right_eq,
      List.append_cancel_left_eq] at hgroup
    revert hgroup
    decide
  all_goals
    have hgroup := operator_of_fieldsWith h
    simp only [GatedPart.since] at hall
    simp only [operatorFields, GatedPart.reset, hall, List.append_cancel_right_eq,
      List.append_cancel_left_eq] at hgroup
    revert hgroup
    decide

/-- Whether servers of a version are sent a part: it shows in the fields of some order. -/
def GatedPart.IsSent (part : GatedPart) (sv : ServerVersion) : Prop :=
  ∃ orderId c o, (part.reset o).fields sv orderId c ≠ o.fields sv orderId c

/-- Parts are sent from their versions on. -/
theorem GatedPart.isSent_iff {part : GatedPart} {sv : ServerVersion} :
    part.IsSent sv ↔ part.since ≤ sv := by
  constructor
  · rintro ⟨orderId, c, o, hne⟩
    by_contra hsv
    exact hne (fields_reset part (Int.not_le.mp hsv) orderId c o)
  · intro hsv
    exact ⟨0, {}, withAllParts, fields_reset_withAllParts part hsv 0 {}⟩

/-- An order whose needs are met has each checked part that the server does not take as it is by
default. -/
theorem reset_of_needs {sv : ServerVersion} {c : Contract} {o : Order}
    (h : ∀ need ∈ o.needs c, need.isMet sv = true) {part : GatedPart}
    (hchecked : part.isChecked = true) (hsv : sv < part.since) : part.reset o = o := by
  unfold needs at h
  simp only [List.forall_mem_append, Need.isMet_when, and_assoc] at h
  obtain ⟨hconditions, hmodel, hoperator, htier, hcash, hdecision, hexecution, hhedge, hcontainer,
    hdiscretion, hprice, hduration, hats, hcancel, hoverride, htime, -, haccount, hovernight,
    hmanual⟩ := h
  cases part with
  | conditions =>
    have hempty := Bool.or_eq_false_iff.mp (hconditions hsv)
    have hdefault : o.conditional.conditions = [] := by simpa using hempty.2
    simp only [GatedPart.reset]
    rw [← hdefault]
  | modelCode =>
    have hdefault : o.advisor.modelCode = "" := by simpa using hmodel hsv
    simp only [GatedPart.reset]
    rw [← hdefault]
  | extOperator =>
    have hdefault : o.compliance.extOperator = "" := by simpa using hoperator hsv
    simp only [GatedPart.reset]
    rw [← hdefault]
  | softDollarName =>
    have hempty := Bool.or_eq_false_iff.mp (htier hsv)
    have hdefault : o.compliance.softDollarTier.name = "" := by simpa using hempty.1
    simp only [GatedPart.reset]
    rw [← hdefault]
  | softDollarValue =>
    have hempty := Bool.or_eq_false_iff.mp (htier hsv)
    have hdefault : o.compliance.softDollarTier.value = "" := by simpa using hempty.2
    simp only [GatedPart.reset]
    rw [← hdefault]
  | cashQty =>
    have hdefault : o.amounts.cashQty = none := by simpa using hcash hsv
    simp only [GatedPart.reset]
    rw [← hdefault]
  | decisionMaker =>
    have hempty := Bool.or_eq_false_iff.mp (hdecision hsv)
    have hdefault : o.compliance.mifid2.decisionMaker = "" := by simpa using hempty.1
    simp only [GatedPart.reset]
    rw [← hdefault]
  | decisionAlgo =>
    have hempty := Bool.or_eq_false_iff.mp (hdecision hsv)
    have hdefault : o.compliance.mifid2.decisionAlgo = "" := by simpa using hempty.2
    simp only [GatedPart.reset]
    rw [← hdefault]
  | executionTrader =>
    have hempty := Bool.or_eq_false_iff.mp (hexecution hsv)
    have hdefault : o.compliance.mifid2.executionTrader = "" := by simpa using hempty.1
    simp only [GatedPart.reset]
    rw [← hdefault]
  | executionAlgo =>
    have hempty := Bool.or_eq_false_iff.mp (hexecution hsv)
    have hdefault : o.compliance.mifid2.executionAlgo = "" := by simpa using hempty.2
    simp only [GatedPart.reset]
    rw [← hdefault]
  | dontUseAutoPriceForHedge =>
    have hdefault : o.hedge.dontUseAutoPriceForHedge = false := hhedge hsv
    simp only [GatedPart.reset]
    rw [← hdefault]
  | isOmsContainer =>
    have hdefault : o.handling.isOmsContainer = false := hcontainer hsv
    simp only [GatedPart.reset]
    rw [← hdefault]
  | discretionaryUpToLimitPrice =>
    have hdefault : o.auction.discretionaryUpToLimitPrice = false := hdiscretion hsv
    simp only [GatedPart.reset]
    rw [← hdefault]
  | usePriceMgmtAlgo =>
    have hdefault : o.handling.usePriceMgmtAlgo = none := by simpa using hprice hsv
    simp only [GatedPart.reset]
    rw [← hdefault]
  | duration =>
    have hdefault : o.timing.duration = none := by simpa using hduration hsv
    simp only [GatedPart.reset]
    rw [← hdefault]
  | postToAts =>
    have hdefault : o.handling.postToAts = none := by simpa using hats hsv
    simp only [GatedPart.reset]
    rw [← hdefault]
  | autoCancelParent =>
    have hdefault : o.handling.autoCancelParent = false := hcancel hsv
    simp only [GatedPart.reset]
    rw [← hdefault]
  | advancedErrorOverride =>
    have hdefault : o.compliance.advancedErrorOverride = "" := by simpa using hoverride hsv
    simp only [GatedPart.reset]
    rw [← hdefault]
  | manualOrderTime =>
    have hdefault : o.timing.manualOrderTime = "" := by simpa using htime hsv
    simp only [GatedPart.reset]
    rw [← hdefault]
  | customerAccount =>
    have hdefault : o.clearing.customerAccount = "" := by simpa using haccount hsv
    simp only [GatedPart.reset]
    rw [← hdefault]
  | includeOvernight =>
    have hdefault : o.timing.includeOvernight = false := hovernight hsv
    simp only [GatedPart.reset]
    rw [← hdefault]
  | manualOrderIndicator =>
    have hboth : sv < if o.handling.imbalanceOnly = true then Since.imbalanceOnly
        else Since.operatorTags := by
      split
      · exact Int.lt_trans hsv (by decide)
      · exact hsv
    have hempty := Bool.or_eq_false_iff.mp (hmanual hboth)
    have hdefault : o.compliance.manualOrderIndicator = none := by simpa using hempty.1
    simp only [GatedPart.reset]
    rw [← hdefault]
  | imbalanceOnly =>
    have hdefault : o.handling.imbalanceOnly = false := by
      by_contra himbalance
      rw [Bool.not_eq_false] at himbalance
      rw [if_pos himbalance] at hmanual
      have hempty := Bool.or_eq_false_iff.mp (hmanual hsv)
      exact absurd himbalance (by rw [hempty.2]; exact Bool.false_ne_true)
    simp only [GatedPart.reset]
    rw [← hdefault]
  | adjusted => cases hchecked
  | triggerPrice => cases hchecked
  | lmtPriceOffset => cases hchecked
  | professionalCustomer => cases hchecked

def fieldsBeforeQuantity (sv : ServerVersion) (orderId : Int32) (c : Contract) (o : Order) :
    List String :=
  number Outbound.placeOrder :: before Since.orderContainers sv [int 45] ++ [int orderId] ++
    contract c ++ [Field.optional code c.secIdType, c.secId, Field.optional code o.terms.action]

/-- Whether a field holds a quantity. An empty field holds none, any other the number that it is
read as. -/
def Holds (field : String) : Option ℚ → Prop
  | none => field = ""
  | some quantity => ∃ d, Decimal.read field.toList = .ok d ∧ d.value = quantity

/-- The quantity of an order as a server takes it: old servers take whole quantities only. -/
def quantityAt (sv : ServerVersion) (o : Order) : Option ℚ :=
  o.terms.totalQuantity.map fun d =>
    if Since.fractionalQuantities ≤ sv then d.value else Decimal.wholePart d.value

theorem holds_decimal (d : Decimal) : Holds (decimal d) (some d.value) :=
  ⟨d.normalize, Decimal.read_text d.normalize, d.value_normalize⟩

def quantityField (sv : ServerVersion) (o : Order) : String :=
  Field.optional decimal
    (if Since.fractionalQuantities ≤ sv then o.terms.totalQuantity
    else o.terms.totalQuantity.map Decimal.truncate)

theorem holds_quantityField (sv : ServerVersion) (o : Order) :
    Holds (o.quantityField sv) (o.quantityAt sv) := by
  unfold quantityField quantityAt
  cases o.terms.totalQuantity with
  | none =>
    rw [Option.map_none, ite_self]
    rfl
  | some d =>
    rw [Option.map_some, Option.map_some]
    split
    · exact holds_decimal d
    · rw [← Decimal.value_truncate]
      exact holds_decimal d.truncate

theorem fields_eq_append (sv : ServerVersion) (orderId : Int32) (c : Contract) (o : Order) :
    ∃ behind, number Outbound.placeOrder :: o.fields sv orderId c =
      o.fieldsBeforeQuantity sv orderId c ++ o.quantityField sv :: behind := by
  obtain ⟨behind, hterms⟩ : ∃ behind, o.termFields sv =
      Field.optional code o.terms.action :: o.quantityField sv :: behind := ⟨_, rfl⟩
  apply Exists.intro
  unfold fields fieldsBeforeQuantity
  rw [hterms]
  simp only [List.append_assoc, List.cons_append, List.nil_append]
  rfl

end Order

namespace Client

open BrokerWire.Order

/-- An order that is sent has each checked part that the server is not sent as it is by default, and
its quantity is the one that was asked for, or its whole part where servers take no other. -/
theorem placeOrder_sent {client : Client} {queueOpen : Bool} {orderId : Int32} {c : Contract}
    {o : Order} {frame : Bytes}
    (h : client.request queueOpen (.placeOrder orderId c o) = .ok frame) :
    ∃ s, client.live? = some s ∧
      (∀ part : GatedPart, part.isChecked = true → ¬ part.IsSent s.serverVersion →
        part.reset o = o) ∧
      ∃ quantity behind,
        frame = Frame.octets (Message.payload
          ⟨o.fieldsBeforeQuantity s.serverVersion orderId c ++ quantity :: behind⟩) ∧
        Holds quantity (o.quantityAt s.serverVersion) := by
  obtain ⟨-, s, hlive, hneeds, -, rfl⟩ := request_eq_ok_iff.mp h
  obtain ⟨behind, hfields⟩ := fields_eq_append s.serverVersion orderId c o
  refine ⟨s, hlive, ?_, _, behind, ?_, holds_quantityField s.serverVersion o⟩
  · intro part hchecked hsent
    rw [GatedPart.isSent_iff, Int.not_le] at hsent
    exact reset_of_needs hneeds hchecked hsent
  · rw [← hfields]
    rfl

/-- A client in a session with a server of the lowest version. -/
def ofOldest : Client where
  phase := .connected
  session := some ⟨1, ServerVersion.lowest, "", 0⟩
  attempt := 1

/-- An order for one and a half with all parts set that are not checked. -/
def oneAndAHalf : Order where
  terms := { totalQuantity := some ⟨15, 1, by decide, by decide⟩ }
  adjustment :=
    { adjusted := { orderType := "STP" }
      triggerPrice := some .zero
      lmtPriceOffset := some .zero }
  clearing := { professionalCustomer := true }
  compliance := { softDollarTier := { displayName := "tier" } }

theorem request_oneAndAHalf :
    ofOldest.request true (.placeOrder 7 {} oneAndAHalf) =
      .ok (Frame.octets ((Request.placeOrder 7 {} oneAndAHalf).message 100).payload) := by
  rw [request_eq_ok_iff]
  refine ⟨rfl, _, rfl, by decide, ?_, rfl⟩
  rw [Message.length_payload]
  decide

/-- One and a half are sent as one. -/
theorem placeOrder_sent_whole :
    ofOldest.request true (.placeOrder 7 {} oneAndAHalf) =
        .ok (Frame.octets ((Request.placeOrder 7 {} oneAndAHalf).message 100).payload) ∧
      ∃ quantity behind,
        Frame.octets ((Request.placeOrder 7 {} oneAndAHalf).message 100).payload =
          Frame.octets (Message.payload
            ⟨oneAndAHalf.fieldsBeforeQuantity 100 7 {} ++ quantity :: behind⟩) ∧
        Holds quantity (some 1) := by
  obtain ⟨s, hlive, -, quantity, behind, hframe, hholds⟩ := placeOrder_sent request_oneAndAHalf
  cases hlive
  have hquantity : oneAndAHalf.quantityAt ServerVersion.lowest = some 1 := by
    have hold : ¬ Since.fractionalQuantities ≤ ServerVersion.lowest := by decide
    norm_num [quantityAt, oneAndAHalf, hold, Decimal.wholePart, Decimal.value]
  rw [hquantity] at hholds
  exact ⟨request_oneAndAHalf, quantity, behind, hframe, hholds⟩

/-- A server of the lowest version is sent one in place of one and a half, and nothing of the parts
that are set and not checked. -/
theorem placeOrder_alters_order :
    ofOldest.live?.map Session.serverVersion = some 100 ∧
      (∃ behind, ofOldest.request true (.placeOrder 7 {} oneAndAHalf) =
        .ok (Frame.octets (Message.payload
          ⟨oneAndAHalf.fieldsBeforeQuantity 100 7 {} ++ "1" :: behind⟩))) ∧
      ¬ Holds "1" (oneAndAHalf.terms.totalQuantity.map Decimal.value) ∧
      (∀ part : GatedPart, part.isChecked = false →
        ¬ part.IsSent 100 ∧ part.reset oneAndAHalf ≠ oneAndAHalf) ∧
      oneAndAHalf.compliance.softDollarTier ≠ ({} : Order).compliance.softDollarTier := by
  refine ⟨rfl, ?_, ?_, ?_, by decide⟩
  · obtain ⟨behind, hfields⟩ := fields_eq_append 100 7 {} oneAndAHalf
    have hfield : oneAndAHalf.quantityField 100 = "1" := by decide
    rw [hfield] at hfields
    refine ⟨behind, ?_⟩
    rw [request_oneAndAHalf, ← hfields]
    rfl
  · rintro ⟨d, hread, hvalue⟩
    have hone : Decimal.read "1".toList = .ok ⟨1, 0, by decide, by decide⟩ := by decide
    rw [hone] at hread
    cases hread
    norm_num [Decimal.value] at hvalue
  · intro part hunchecked
    rw [GatedPart.isSent_iff]
    cases part <;> cases hunchecked <;> exact ⟨by decide, by decide⟩

end Client

end BrokerWire
