import BrokerWire.Proofs.Event.Countless
import BrokerWire.Proofs.Wire.Lists
import BrokerWire.Session.ApiError

namespace BrokerWire

def Contract.elements (c : Contract) : Nat :=
  c.comboLegs.length

def ContractDescription.elements (d : ContractDescription) : Nat :=
  d.derivativeSecTypes.length

def ContractDetails.elements (d : ContractDetails) : Nat :=
  d.secIdList.length + d.ineligibilityReasons.length

def Order.elements (o : Order) : Nat :=
  o.combo.orderComboLegs.length + o.combo.smartComboRoutingParams.length +
    o.algo.algoParams.length + o.conditional.conditions.length

def OrderState.elements (s : OrderState) : Nat :=
  s.orderAllocations.length

/-- How many elements the lists of a notice have, with the lists in their elements. -/
def Notice.elements : Notice → Nat
  | .mktDepthExchanges descriptions => descriptions.length
  | .smartComponents _ components => components.length
  | .openOrder _ c o s => c.elements + o.elements + s.elements
  | .completedOrder c o s => c.elements + o.elements + s.elements
  | .familyCodes codes => codes.length
  | .softDollarTiers _ tiers => tiers.length
  | .contractDetails _ d => d.elements
  | .bondContractDetails _ d => d.elements
  | .symbolSamples _ descriptions => (descriptions.map fun d => 1 + d.elements).sum
  | .securityDefinitionOptionalParameter _ _ _ _ _ expirations strikes =>
    expirations.length + strikes.length
  | .marketRule _ priceIncrements => priceIncrements.length
  | .historicalTicks _ ticks _ => ticks.length
  | .historicalTicksBidAsk _ ticks _ => ticks.length
  | .historicalTicksLast _ ticks _ => ticks.length
  | .historicalSchedule _ _ _ _ sessions => sessions.length
  | .histogramData _ data => data.length
  | .newsProviders providers => providers.length
  | _ => 0

/-- How many elements the lists of an event have. -/
def Event.elements : Event → Nat
  | .notice n => n.elements
  | .historicalData _ bars _ => bars.length
  | .scannerData _ rows => rows.length
  | .tickPrice .. | .unknown .. => 0

namespace Event

open FieldReader

theorem pays_single {r : FieldReader Notice} {taken : Nat} (h : Pays Notice.elements taken r) :
    Pays Event.elements taken (single r) :=
  h.bind fun _ _ hmore => .done hmore

/-- A list of items without lists, if the message has it. -/
theorem pays_items {α : Type} (item : FieldReader α) [Countless item] (hitem : item.TakesField)
    (condition : Bool) : Pays List.length 0 (whenever condition (counted item) []) :=
  .whenever (.items item hitem) (Nat.le_refl 0)

section Details

variable {sv : ServerVersion} {version : Int} {taken : Nat} {d : ContractDetails}

theorem pays_contractTerms : Pays ContractDetails.elements 0 (readContractTerms sv) := by
  repeat refine .behind fun _ => ?_
  exact .done (Nat.le_refl 0)

theorem pays_contractTrading (h : d.elements ≤ taken) :
    Pays ContractDetails.elements taken (readContractTrading sv version d) := by
  repeat refine .behind fun _ => ?_
  exact .done h

theorem pays_contractListing (h : d.elements ≤ taken) :
    Pays ContractDetails.elements taken (readContractListing version d) := by
  repeat refine .behind fun _ => ?_
  refine .after (pays_items readTagValue ⟨_, rfl⟩ _) fun secIdList => .done ?_
  change secIdList.length + d.ineligibilityReasons.length ≤ _
  rw [ContractDetails.elements] at h
  omega

theorem pays_sizeRules (h : d.elements ≤ taken) :
    Pays ContractDetails.elements taken (readSizeRules sv d) := by
  repeat refine .behind fun _ => ?_
  exact .done h

theorem pays_contractAdditions (h : d.elements ≤ taken) :
    Pays ContractDetails.elements taken (readContractAdditions sv d) := by
  repeat refine .behind fun _ => ?_
  refine .bind (pays_sizeRules ?_) fun d more h => ?_
  · exact h
  · refine .behind fun fund => ?_
    refine .after (pays_items readIneligibility ⟨_, rfl⟩ _) fun reasons => .done ?_
    change d.secIdList.length + reasons.length ≤ _
    rw [ContractDetails.elements] at h
    omega

theorem pays_contractDetails : Pays Notice.elements 0 (readContractDetails sv) := by
  refine .behind fun version => .behind fun reqId => ?_
  refine pays_contractTerms.bind fun d more h => ?_
  refine (pays_contractTrading h).bind fun d more h => ?_
  refine (pays_contractListing h).bind fun d more h => ?_
  exact (pays_contractAdditions h).bind fun d more h => .done h

theorem pays_bondTerms : Pays ContractDetails.elements 0 (readBondTerms sv) := by
  repeat refine .behind fun _ => ?_
  exact .done (Nat.le_refl 0)

theorem pays_bondTrading (h : d.elements ≤ taken) :
    Pays ContractDetails.elements taken (readBondTrading sv version d) := by
  repeat refine .behind fun _ => ?_
  exact .done h

theorem pays_bondAdditions (h : d.elements ≤ taken) :
    Pays ContractDetails.elements taken (readBondAdditions sv version d) := by
  refine .behind fun evRule => .behind fun evMultiplier => ?_
  refine .after (pays_items readTagValue ⟨_, rfl⟩ _) fun secIdList => ?_
  refine .behind fun aggGroup => .behind fun marketRuleIds => pays_sizeRules ?_
  change secIdList.length + d.ineligibilityReasons.length ≤ _
  rw [ContractDetails.elements] at h
  omega

theorem pays_bondDetails : Pays Notice.elements 0 (readBondDetails sv) := by
  refine .behind fun version => .behind fun reqId => ?_
  refine pays_bondTerms.bind fun d more h => ?_
  refine (pays_bondTrading h).bind fun d more h => ?_
  exact (pays_bondAdditions h).bind fun d more h => .done h

end Details

section Orders

variable {sv : ServerVersion} {version : Int} {k taken : Nat} {c : Contract} {o : Order}

theorem pays_comboLegs :
    Pays (fun p => p.2.1.length + p.2.2.length) 0 (readComboLegs version) := by
  refine .behind fun description => ?_
  refine .after (pays_items readComboLeg ⟨_, rfl⟩ _) fun legs => ?_
  refine .after (pays_items optionalDouble ⟨_, rfl⟩ _) fun prices => .done ?_
  dsimp only
  omega

theorem pays_algo : Pays (fun a => a.algoParams.length) 0 (readAlgo version) := by
  refine .behind fun strategy => ?_
  exact .after (pays_items readTagValue ⟨_, rfl⟩ _) fun params => .done (Nat.zero_add _).ge

theorem pays_conditions : Pays (fun c => c.conditions.length) 0 (readConditions sv) := by
  refine .after (pays_items readCondition ⟨_, rfl⟩ _) fun conditions => ?_
  repeat refine .behind fun _ => ?_
  exact .done (Nat.zero_add _).ge

theorem pays_preview {s : OrderState} : Pays OrderState.elements 0 (readPreview sv s) := by
  repeat refine .behind fun _ => ?_
  refine .after (pays_items readOrderAllocation ⟨_, rfl⟩ _) fun allocations => ?_
  refine .behind fun warningText => .done (Nat.zero_add _).ge

theorem pays_contract : Pays Contract.elements 0 readContract := by
  repeat refine .behind fun _ => ?_
  exact .done (Nat.le_refl 0)

theorem pays_openHead : Pays (fun p => p.1.elements + p.2.elements) 0 readOpenHead := by
  refine .behind fun orderId => .after pays_contract fun contract => ?_
  repeat refine .behind fun _ => ?_
  exact .done (Nat.zero_add _).ge

theorem pays_allocation (h : k + o.elements ≤ taken) :
    Pays (fun o => k + o.elements) taken (readAllocation sv version o) := by
  repeat refine .behind fun _ => ?_
  exact .done h

theorem pays_openHandling (h : k + o.elements ≤ taken) :
    Pays (fun o => k + o.elements) taken (readOpenHandling o) := by
  repeat refine .behind fun _ => ?_
  exact .done h

theorem pays_openPricing (h : c.elements + o.elements ≤ taken) :
    Pays (fun p => p.1.elements + p.2.elements) taken (readOpenPricing version c o) := by
  repeat refine .behind fun _ => ?_
  refine .after pays_comboLegs fun (description, legs, prices) => ?_
  refine .after (pays_items readTagValue ⟨_, rfl⟩ _) fun routing => ?_
  refine .behind fun scale => .done ?_
  simp only [Contract.elements, Order.elements] at h ⊢
  omega

theorem pays_openClearing (h : c.elements + o.elements ≤ taken) :
    Pays (fun p => p.1.elements + p.2.elements) taken (readOpenClearing version c o) := by
  repeat refine .behind fun _ => ?_
  refine .after pays_algo fun algo => ?_
  refine .behind fun solicited => .behind fun whatIf => .done ?_
  simp only [Contract.elements, Order.elements] at h ⊢
  omega

theorem pays_openAdjustment (h : k + o.elements ≤ taken) :
    Pays (fun o => k + o.elements) taken (readOpenAdjustment o) := by
  repeat refine .behind fun _ => ?_
  exact .done h

theorem pays_openConditions (h : k + o.elements ≤ taken) :
    Pays (fun o => k + o.elements) taken (readOpenConditions sv version o) := by
  refine .behind fun auction => .behind fun pegBench => ?_
  refine .after pays_conditions fun conditional => ?_
  have hread : k + (o.combo.orderComboLegs.length + o.combo.smartComboRoutingParams.length +
      o.algo.algoParams.length + conditional.conditions.length) ≤
        taken + conditional.conditions.length := by
    rw [Order.elements] at h
    omega
  exact .whenever (pays_openAdjustment hread) hread

theorem pays_openAdditions (h : k + o.elements ≤ taken) :
    Pays (fun o => k + o.elements) taken (readOpenAdditions sv o) := by
  repeat refine .behind fun _ => ?_
  exact .done h

theorem pays_openOwner (h : k + o.elements ≤ taken) :
    Pays (fun o => k + o.elements) taken (readOpenOwner sv o) := by
  repeat refine .behind fun _ => ?_
  exact .done h

theorem pays_openOrder : Pays Notice.elements 0 (readOpenOrder sv) := by
  refine .behind fun version => ?_
  refine pays_openHead.bind fun (c, o) more h => ?_
  refine (pays_allocation h).bind fun o more h => ?_
  refine (pays_openHandling h).bind fun o more h => ?_
  refine (pays_openPricing h).bind fun (c, o) more h => ?_
  refine (pays_openClearing h).bind fun (c, o) more h => ?_
  refine .behind fun status => .after pays_preview fun state => ?_
  have hread : c.elements + state.elements + o.elements ≤ more + state.elements := by
    dsimp only at h
    omega
  refine (pays_openConditions hread).bind fun o more h => ?_
  refine (pays_openAdditions h).bind fun o more h => ?_
  refine (pays_openOwner h).bind fun o more h => .done ?_
  change c.elements + o.elements + state.elements ≤ more
  omega

theorem pays_completedHead :
    Pays (fun p => p.1.elements + p.2.elements) 0 readCompletedHead := by
  refine .after pays_contract fun contract => ?_
  repeat refine .behind fun _ => ?_
  exact .done (Nat.zero_add _).ge

theorem pays_completedHandling (h : k + o.elements ≤ taken) :
    Pays (fun o => k + o.elements) taken (readCompletedHandling o) := by
  repeat refine .behind fun _ => ?_
  exact .done h

theorem pays_completedPricing (h : c.elements + o.elements ≤ taken) :
    Pays (fun p => p.1.elements + p.2.elements) taken (readCompletedPricing c o) := by
  repeat refine .behind fun _ => ?_
  refine .after pays_comboLegs fun (description, legs, prices) => ?_
  refine .after (.items readTagValue ⟨_, rfl⟩) fun routing => ?_
  refine .behind fun scale => .done ?_
  simp only [Contract.elements, Order.elements] at h ⊢
  omega

theorem pays_completedClearing (h : c.elements + o.elements ≤ taken) :
    Pays (fun p => p.1.elements + p.2.elements) taken (readCompletedClearing c o) := by
  repeat refine .behind fun _ => ?_
  refine .after pays_algo fun algo => ?_
  refine .behind fun solicited => .done ?_
  simp only [Contract.elements, Order.elements] at h ⊢
  omega

theorem pays_completedConditions (h : k + o.elements ≤ taken) :
    Pays (fun o => k + o.elements) taken (readCompletedConditions sv o) := by
  refine .behind fun auction => .behind fun pegBench => ?_
  refine .after pays_conditions fun conditional => ?_
  repeat refine .behind fun _ => ?_
  refine .done ?_
  simp only [Order.elements] at h ⊢
  omega

theorem pays_completion {s : OrderState} (h : k + o.elements + s.elements ≤ taken) :
    Pays (fun p => k + p.1.elements + p.2.elements) taken (readCompletion o s) := by
  repeat refine .behind fun _ => ?_
  exact .done h

theorem pays_completedAdditions (h : k + o.elements ≤ taken) :
    Pays (fun o => k + o.elements) taken (readCompletedAdditions sv o) := by
  repeat refine .behind fun _ => ?_
  exact .done h

theorem pays_completedOrder : Pays Notice.elements 0 (readCompletedOrder sv) := by
  refine pays_completedHead.bind fun (c, o) more h => ?_
  refine (pays_allocation h).bind fun o more h => ?_
  refine (pays_completedHandling h).bind fun o more h => ?_
  refine (pays_completedPricing h).bind fun (c, o) more h => ?_
  refine (pays_completedClearing h).bind fun (c, o) more h => ?_
  refine .behind fun status => ?_
  refine (pays_completedConditions h).bind fun o more h => ?_
  refine (pays_completion h).bind fun (o, state) more h => ?_
  have hread : c.elements + state.elements + o.elements ≤ more := by
    dsimp only at h
    omega
  refine (pays_completedAdditions hread).bind fun o more h => .done ?_
  change c.elements + o.elements + state.elements ≤ more
  omega

end Orders

theorem pays_contractDescription (sv : ServerVersion) :
    Pays (fun d => 1 + d.elements) 0 (readContractDescription sv) := by
  refine .after (.one int ⟨_, rfl⟩) fun conId => ?_
  repeat refine .behind fun _ => ?_
  refine .after (.items text ⟨_, rfl⟩) fun derivatives => ?_
  repeat refine .behind fun _ => ?_
  exact .done (Nat.le_refl _)

theorem pays_symbolSamples (sv : ServerVersion) :
    Pays Notice.elements 0 (readSymbolSamples sv) := by
  refine .behind fun reqId => ?_
  refine .after (.weighed ⟨_, rfl⟩ (pays_contractDescription sv)) fun descriptions => ?_
  exact .done (Nat.zero_add _).ge

theorem pays_optionChain : Pays Notice.elements 0 readOptionChain := by
  repeat refine .behind fun _ => ?_
  refine .after (.items text ⟨_, rfl⟩) fun expirations => ?_
  refine .after (.items double ⟨_, rfl⟩) fun strikes => .done ?_
  change expirations.length + strikes.length ≤ _
  omega

theorem pays_historicalData (sv : ServerVersion) :
    Pays Event.elements 0 (readHistoricalData sv) := by
  repeat refine .behind fun _ => ?_
  exact .after (.items (readBar sv) ⟨_, rfl⟩) fun bars => .done (Nat.zero_add _).ge

theorem pays_scannerData : Pays Event.elements 0 readScannerData := by
  repeat refine .behind fun _ => ?_
  exact .after (.items readScannerRow ⟨_, rfl⟩) fun rows => .done (Nat.zero_add _).ge

theorem pays_trade (reqId type : Int32) (time : Int64) :
    Pays Notice.elements 0 (readTrade reqId type time) := by
  repeat refine .behind fun _ => ?_
  exact .done (Nat.le_refl 0)

theorem pays_quote (reqId : Int32) (time : Int64) :
    Pays Notice.elements 0 (readQuote reqId time) := by
  repeat refine .behind fun _ => ?_
  exact .done (Nat.le_refl 0)

theorem pays_tickByTick : Pays Event.elements 0 readTickByTick := by
  refine .behind fun reqId => .behind fun type => .behind fun time => ?_
  split
  · exact pays_single (pays_trade reqId type time)
  · split
    · exact pays_single (pays_quote reqId time)
    · split
      · exact .behind fun midPoint => .done (Nat.le_refl 0)
      · exact .done (Nat.le_refl 0)

/-- The lists of each message are paid with its fields. -/
theorem pays_reader (sv : ServerVersion) (kind : Inbound) :
    Pays Event.elements 0 (reader sv kind) := by
  cases kind
  case contractData => exact pays_single pays_contractDetails
  case bondContractData => exact pays_single pays_bondDetails
  case openOrder => exact pays_single pays_openOrder
  case completedOrder => exact pays_single pays_completedOrder
  case symbolSamples => exact pays_single (pays_symbolSamples sv)
  case securityDefinitionOptionParameter => exact pays_single pays_optionChain
  case historicalData => exact pays_historicalData sv
  case scannerData => exact pays_scannerData
  case tickByTick => exact pays_tickByTick
  case openOrderEnd | completedOrdersEnd | positionEnd => exact .done (Nat.le_refl 0)
  case tickPrice =>
    repeat refine .behind fun _ => ?_
    exact .done (Nat.le_refl 0)
  -- These messages have one list each.
  case mktDepthExchanges | smartComponents | familyCodes | softDollarTiers | marketRule |
      historicalTicks | historicalTicksBidAsk | historicalTicksLast | historicalSchedule |
      histogramData | newsProviders =>
    refine pays_single ?_
    repeat refine .behind fun _ => ?_
    refine .after (.items _ ?_) fun values => ?_
    · exact ⟨_, rfl⟩
    · repeat refine .behind fun _ => ?_
      exact .done (Nat.zero_add _).ge
  all_goals
    refine pays_single ?_
    repeat refine .behind fun _ => ?_
    exact .done (Nat.le_refl 0)

theorem pays_read (sv : ServerVersion) (payload : Bytes) :
    Pays Event.elements 0 (read sv payload) := by
  refine .behind fun code => ?_
  split
  · exact pays_reader sv _
  · exact .done (Nat.le_refl 0)

/-- What an event holds in lists is no more than its payload has fields, and where a payload claims a
number of items, a list of that length is read: its items are begun once more than there are fields
left at most, and if there are fewer fields left than items, the reading ends within the list, so
that the payload is refused. -/
theorem decode_lists_bounded (sv : ServerVersion) (payload : Bytes) :
    (∀ event, decode sv payload = .ok event → event.elements ≤ payload.count 0) ∧
    ∀ (here rest : Bytes) (next : Nat → FieldReader Event) (n : Nat),
      Reaches (read sv payload) payload (count.bind next) here →
      count.run here = (.ok n, rest) →
      ∃ (α : Type) (item : FieldReader α) (behind : List α → FieldReader Event),
        next n = (list n item).bind behind ∧ begun item n rest ≤ rest.count 0 + 1 ∧
          (next n).reads rest ≤ rest.count 0 ∧
          (rest.count 0 < n →
            ∃ fault, ((list n item).run rest).1 = .error fault ∧
              decode sv payload = .error fault ∧
              ApiError.ofField fault = .decoding fault.message) := by
  have hpays := pays_read sv payload
  constructor
  · intro event hdecode
    cases hrun : (read sv payload).run payload with
    | mk outcome unread =>
      rw [decode, hrun] at hdecode
      dsimp only at hdecode
      rw [hdecode] at hrun
      have hsize := hpays.size_le hrun
      omega
  · intro here rest next n hreach hcount
    obtain ⟨α, item, behind, hnext, hbegun, hreads, hshort⟩ := hpays.list_bounded hreach hcount
    refine ⟨α, item, behind, hnext, hbegun, hreads, fun hless => ?_⟩
    obtain ⟨fault, hlist, hdecode⟩ := hshort hless
    exact ⟨fault, hlist, hdecode, rfl⟩

/-- The fields of a contract with two derivatives. -/
def sampleFields : List String :=
  ["17", "IBM", "STK", "NYSE", "USD", "2", "OPT", "WAR"]

/-- The contracts that match a symbol, which are said to be so many. -/
def samples (count : String) : Bytes :=
  (["79", "7", count] ++ sampleFields).flatMap Message.fieldOctets

/-- One contract with its derivatives makes three elements. As many contracts as a number can claim
are refused, with the number spelled out as unset. -/
theorem decode_lists_bounded_samples :
    (∃ event, decode 108 (samples "1") = .ok event ∧ event.elements = 3 ∧
      event.elements ≤ (samples "1").count 0) ∧
    ∃ fault, decode 108 (samples "None") = .error fault ∧
      ApiError.ofField fault = .decoding fault.message := by
  obtain ⟨hevents, -⟩ := decode_lists_bounded 108 (samples "1")
  obtain ⟨-, hcounts⟩ := decode_lists_bounded 108 (samples "None")
  have hreader : single (readSymbolSamples 108) =
      int.bind fun reqId => count.bind fun n =>
        (list n (readContractDescription 108)).bind fun descriptions =>
          .done (.notice (.symbolSamples reqId descriptions)) := by
    simp only [single, readSymbolSamples, counted, bind_eq, pure_eq, bind_bind, pure_bind_eq]
  have hreach : Reaches (read 108 (samples "None")) (samples "None")
      (count.bind fun n =>
        (list n (readContractDescription 108)).bind fun descriptions =>
          .done (.notice (.symbolSamples 7 descriptions)))
      (("None" :: sampleFields).flatMap Message.fieldOctets) := by
    refine .behind (show int.run (samples "None") = (.ok 79, _) from rfl) ?_
    change Reaches (single (readSymbolSamples 108)) _ _ _
    rw [hreader]
    exact .behind (show int.run _ = (.ok 7, _) from rfl) (.here _ _)
  have hcount : count.run (("None" :: sampleFields).flatMap Message.fieldOctets) =
      (.ok 2147483647, sampleFields.flatMap Message.fieldOctets) := rfl
  obtain ⟨α, item, behind, -, -, -, hshort⟩ := hcounts _ _ _ _ hreach hcount
  obtain ⟨fault, -, hfault⟩ := hshort (by decide)
  exact ⟨⟨_, rfl, rfl, hevents _ rfl⟩, fault, hfault⟩

end Event

end BrokerWire
