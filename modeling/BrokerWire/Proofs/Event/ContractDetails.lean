import BrokerWire.Proofs.Event.Expiry
import BrokerWire.Proofs.Event.OrderMessages
import BrokerWire.Proofs.Text.EscapeGrammar

namespace BrokerWire

open Item (counted since)

def IneligibilityReason.items (r : IneligibilityReason) : List Item :=
  [⟨.text, r.id⟩, ⟨.text, r.description⟩]

def FundDetails.items (f : FundDetails) : List Item :=
  [⟨.text, f.name⟩, ⟨.text, f.family⟩, ⟨.text, f.kind⟩, ⟨.text, f.frontLoad⟩, ⟨.text, f.backLoad⟩,
    ⟨.text, f.backLoadTimeInterval⟩, ⟨.text, f.managementFee⟩, ⟨.bool, f.closed⟩,
    ⟨.bool, f.closedForNewInvestors⟩, ⟨.bool, f.closedForNewMoney⟩, ⟨.text, f.notifyAmount⟩,
    ⟨.text, f.minimumInitialPurchase⟩, ⟨.text, f.subsequentMinimumPurchase⟩,
    ⟨.text, f.blueSkyStates⟩, ⟨.text, f.blueSkyTerritories⟩,
    ⟨.optionalCode FundPayout, f.distributionPolicyIndicator⟩,
    ⟨.optionalCode FundAsset, f.assetType⟩]

/-- The texts of the sizes that some servers send and nobody reads. -/
structure UnreadSizes where
  multiplier : String := ""
  tick : String := ""
  deriving DecidableEq

namespace ContractDetails

/-- Old servers begin with the version of the message. -/
def headItems (sv : ServerVersion) (version reqId : Int32) : List Item :=
  (if sv < Since.sizeRules then [⟨.int, version⟩] else []) ++ [⟨.int, reqId⟩]

/-- The size multiplier that servers sent before they knew size rules. -/
def multiplierItems (sv : ServerVersion) (unread : UnreadSizes) : List Item :=
  if Since.sizeMultiplier ≤ sv ∧ sv < Since.sizeRules then [⟨.text, unread.multiplier⟩] else []

def sizeRulesItems (sv : ServerVersion) (d : ContractDetails) : List Item :=
  since Since.sizeRules sv
    [⟨.quantity, d.minSize⟩, ⟨.quantity, d.sizeIncrement⟩, ⟨.quantity, d.suggestedSizeIncrement⟩]

def termsItems (sv : ServerVersion) (d : ContractDetails) : List Item :=
  [⟨.text, d.contract.symbol⟩, ⟨.optionalCode Security, d.contract.secType⟩] ++
  since Since.lastTradeDates sv [⟨.text, d.contract.lastTradeDate⟩] ++
  [⟨.text, d.contract.lastTradeDateOrContractMonth⟩, ⟨.optionalDouble, d.contract.strike⟩,
    ⟨.optionalCode OptionRight, d.contract.right⟩, ⟨.text, d.contract.exchange⟩,
    ⟨.text, d.contract.currency⟩, ⟨.text, d.contract.localSymbol⟩, ⟨.text, d.marketName⟩,
    ⟨.text, d.contract.tradingClass⟩, ⟨.int, d.contract.conId⟩, ⟨.double, d.minTick⟩]

def tradingItems (sv : ServerVersion) (unread : UnreadSizes) (d : ContractDetails) : List Item :=
  multiplierItems sv unread ++
  [⟨.text, d.contract.multiplier⟩, ⟨.text, d.orderTypes⟩, ⟨.text, d.validExchanges⟩,
    ⟨.int, d.priceMagnifier⟩, ⟨.int, d.underConId⟩, ⟨.text, d.longName⟩,
    ⟨.text, d.contract.primaryExchange⟩]

def listingItems (d : ContractDetails) : List Item :=
  [⟨.text, d.contractMonth⟩, ⟨.text, d.industry⟩, ⟨.text, d.category⟩, ⟨.text, d.subcategory⟩,
    ⟨.text, d.timeZoneId⟩, ⟨.text, d.tradingHours⟩, ⟨.text, d.liquidHours⟩, ⟨.text, d.evRule⟩,
    ⟨.double, d.evMultiplier⟩] ++
  counted TagValue.items d.secIdList

/-- Whether a server of the version sends the details of a fund along. -/
def HasFund (sv : ServerVersion) (d : ContractDetails) : Prop :=
  Since.fundDetails ≤ sv ∧ d.contract.secType = some (.known .fund)

instance (sv : ServerVersion) (d : ContractDetails) : Decidable (d.HasFund sv) :=
  inferInstanceAs (Decidable (_ ∧ _))

/-- One server version sends a size tick. -/
def additionsItems (sv : ServerVersion) (unread : UnreadSizes) (d : ContractDetails) : List Item :=
  since Since.aggregationGroups sv [⟨.optionalInt, d.aggGroup⟩] ++
  since Since.underlyingInfo sv [⟨.text, d.underSymbol⟩] ++
  since Since.underlyingInfo sv [⟨.text, d.underSecType⟩] ++
  since Since.marketRules sv [⟨.text, d.marketRuleIds⟩] ++
  since Since.realExpirations sv [⟨.text, d.realExpirationDate⟩] ++
  since Since.stockTypes sv [⟨.text, d.stockType⟩] ++
  (if sv = Since.fractionalSizes then [⟨.text, unread.tick⟩] else []) ++
  d.sizeRulesItems sv ++
  (if d.HasFund sv then d.fund.items else []) ++
  since Since.ineligibilityReasons sv (counted IneligibilityReason.items d.ineligibilityReasons)

/-- The details of a contract, field by field. -/
def contractItems (sv : ServerVersion) (version reqId : Int32) (unread : UnreadSizes)
    (d : ContractDetails) : List Item :=
  headItems sv version reqId ++ d.termsItems sv ++ d.tradingItems sv unread ++ d.listingItems ++
  d.additionsItems sv unread

def contractMessage (sv : ServerVersion) (version reqId : Int32) (unread : UnreadSizes)
    (d : ContractDetails) : Message :=
  Item.message (Numbered.code Inbound.contractData) (d.contractItems sv version reqId unread)

/-- What the details of a contract carry. -/
def inContract (sv : ServerVersion) (d : ContractDetails) : ContractDetails where
  contract :=
    { conId := d.contract.conId
      symbol := d.contract.symbol
      secType := d.contract.secType
      lastTradeDateOrContractMonth := d.contract.lastTradeDateOrContractMonth
      lastTradeDate := if Since.lastTradeDates ≤ sv then d.contract.lastTradeDate else ""
      strike := d.contract.strike
      right := d.contract.right
      multiplier := d.contract.multiplier
      exchange := d.contract.exchange
      primaryExchange := d.contract.primaryExchange
      currency := d.contract.currency
      localSymbol := d.contract.localSymbol
      tradingClass := d.contract.tradingClass }
  marketName := d.marketName
  minTick := d.minTick
  orderTypes := d.orderTypes
  validExchanges := d.validExchanges
  priceMagnifier := d.priceMagnifier
  underConId := d.underConId
  longName := d.longName
  contractMonth := d.contractMonth
  industry := d.industry
  category := d.category
  subcategory := d.subcategory
  timeZoneId := d.timeZoneId
  tradingHours := d.tradingHours
  liquidHours := d.liquidHours
  evRule := d.evRule
  evMultiplier := d.evMultiplier
  aggGroup := if Since.aggregationGroups ≤ sv then d.aggGroup else none
  underSymbol := if Since.underlyingInfo ≤ sv then d.underSymbol else ""
  underSecType := if Since.underlyingInfo ≤ sv then d.underSecType else ""
  marketRuleIds := if Since.marketRules ≤ sv then d.marketRuleIds else ""
  realExpirationDate := if Since.realExpirations ≤ sv then d.realExpirationDate else ""
  stockType := if Since.stockTypes ≤ sv then d.stockType else ""
  minSize := if Since.sizeRules ≤ sv then d.minSize else none
  sizeIncrement := if Since.sizeRules ≤ sv then d.sizeIncrement else none
  suggestedSizeIncrement := if Since.sizeRules ≤ sv then d.suggestedSizeIncrement else none
  secIdList := d.secIdList
  fund := if d.HasFund sv then d.fund else {}
  ineligibilityReasons :=
    if Since.ineligibilityReasons ≤ sv then d.ineligibilityReasons else []

end ContractDetails

namespace Event

open FieldReader

theorem tells_ineligibility (r : IneligibilityReason) : Tells r.items readIneligibility r :=
  .text <| .text <| .pure _

theorem tells_fund (f : FundDetails) : Tells f.items readFund f :=
  .text <| .text <| .text <| .text <| .text <| .text <| .text <| .bool <| .bool <| .bool <|
    .text <| .text <| .text <| .text <| .text <| .code <| .code <| .pure _

theorem tells_unescaped {t : String} (h : '\\' ∉ t.toList) : Tells [⟨.text, t⟩] unescaped t := by
  have hcopied : Escape.unescape t.toList = t.toList := by
    have hplain := Escape.unescape_plain (fun c hm he => h (he ▸ hm)) []
    rwa [List.append_nil, Escape.unescape, List.append_nil] at hplain
  intro hplain rest
  obtain ⟨hterminable, -⟩ := hplain _ List.mem_cons_self
  rw [List.flatMap_singleton]
  change (FieldReader.field _).run ([t].flatMap Message.fieldOctets ++ rest) = _
  rw [List.flatMap_singleton, run_field hterminable, hcopied, String.ofList_toList]
  rfl

theorem tells_longName (sv : ServerVersion) {t : String} (h : '\\' ∉ t.toList) :
    Tells [⟨.text, t⟩] (readLongName sv) t := by
  unfold readLongName
  split
  · exact tells_unescaped h
  · exact tells_text t

theorem tells_request {version : Int} (hv : 3 ≤ version) (reqId : Int32) :
    Tells [⟨.int, reqId⟩] (readDetailsRequest version) reqId :=
  .last <| .known (decide_eq_true hv) <| .int <| .pure _

theorem tells_multiplier (sv : ServerVersion) (unread : UnreadSizes) :
    Tells (ContractDetails.multiplierItems sv unread) (skipSizeMultiplier sv) () := by
  rw [← List.append_nil (ContractDetails.multiplierItems sv unread)]
  exact .last <| .whenever (fun _ => .last <| .skip <| .pure _) <| .pure _

theorem tells_sizeRules (sv : ServerVersion) (d written : ContractDetails) :
    Tells (written.sizeRulesItems sv) (readSizeRules sv d) { d with
      minSize := if Since.sizeRules ≤ sv then written.minSize else none
      sizeIncrement := if Since.sizeRules ≤ sv then written.sizeIncrement else none
      suggestedSizeIncrement :=
        if Since.sizeRules ≤ sv then written.suggestedSizeIncrement else none } := by
  unfold ContractDetails.sizeRulesItems Item.since
  by_cases hsv : Since.sizeRules ≤ sv
  · have hknown : decide (Since.sizeRules ≤ sv) = true := decide_eq_true hsv
    simp only [if_pos hsv]
    exact .known hknown <| .quantity <| .known hknown <| .quantity <| .known hknown <|
      .quantity <| .pure _
  · have hunknown : decide (Since.sizeRules ≤ sv) = false := decide_eq_false hsv
    simp only [if_neg hsv]
    exact .unknown hunknown <| .unknown hunknown <| .unknown hunknown <| .pure _

theorem tells_contractTerms (sv : ServerVersion) (d : ContractDetails) :
    Tells (d.termsItems sv) (readContractTerms sv)
      (setExpiry d.contract.lastTradeDateOrContractMonth {
        contract :=
          { symbol := d.contract.symbol
            secType := d.contract.secType
            lastTradeDate := if Since.lastTradeDates ≤ sv then d.contract.lastTradeDate else ""
            strike := d.contract.strike
            right := d.contract.right
            exchange := d.contract.exchange
            currency := d.contract.currency
            localSymbol := d.contract.localSymbol
            tradingClass := d.contract.tradingClass
            conId := d.contract.conId }
        marketName := d.marketName
        minTick := d.minTick }) := by
  simp only [ContractDetails.termsItems, List.cons_append, List.nil_append]
  exact .text <| .code <| .since (fun _ => tells_text _) <| .text <| .optionalDouble <| .code <|
    .text <| .text <| .text <| .text <| .text <| .int <| .double <| .pure _

theorem tells_contractTrading (sv : ServerVersion) {version : Int} (hv : 5 ≤ version)
    (unread : UnreadSizes) (d written : ContractDetails) (hname : '\\' ∉ written.longName.toList) :
    Tells (written.tradingItems sv unread) (readContractTrading sv version d) { d with
      contract := { d.contract with
        multiplier := written.contract.multiplier
        primaryExchange := written.contract.primaryExchange }
      orderTypes := written.orderTypes
      validExchanges := written.validExchanges
      priceMagnifier := written.priceMagnifier
      underConId := written.underConId
      longName := written.longName } := by
  have hunder : decide (4 ≤ version) = true := decide_eq_true (by omega)
  have hnamed : decide (5 ≤ version) = true := decide_eq_true hv
  exact .bind (tells_multiplier sv unread) <| .text <| .text <| .text <| .int <|
    .known hunder <| .int <| .known hnamed <| .bind (tells_longName sv hname) <|
    .known hnamed <| .text <| .pure _

theorem tells_contractListing {version : Int} (hv : 8 ≤ version) (d written : ContractDetails) :
    Tells written.listingItems (readContractListing version d) { d with
      contractMonth := written.contractMonth
      industry := written.industry
      category := written.category
      subcategory := written.subcategory
      timeZoneId := written.timeZoneId
      tradingHours := written.tradingHours
      liquidHours := written.liquidHours
      evRule := written.evRule
      evMultiplier := written.evMultiplier
      secIdList := written.secIdList } := by
  have hlisted : decide (6 ≤ version) = true := decide_eq_true (by omega)
  have hvalued : decide (8 ≤ version) = true := decide_eq_true hv
  have hidentified : decide (7 ≤ version) = true := decide_eq_true (by omega)
  exact .known hlisted <| .text <| .known hlisted <| .text <| .known hlisted <| .text <|
    .known hlisted <| .text <| .known hlisted <| .text <| .known hlisted <| .text <|
    .known hlisted <| .text <| .known hvalued <| .text <| .known hvalued <| .double <|
    .known hidentified <| .final (.counted fun p _ => tells_tagValue p) <| .pure _

theorem tells_contractAdditions (sv : ServerVersion) (unread : UnreadSizes)
    (d written : ContractDetails) (htype : d.contract.secType = written.contract.secType) :
    Tells (written.additionsItems sv unread) (readContractAdditions sv d) { d with
      aggGroup := if Since.aggregationGroups ≤ sv then written.aggGroup else none
      underSymbol := if Since.underlyingInfo ≤ sv then written.underSymbol else ""
      underSecType := if Since.underlyingInfo ≤ sv then written.underSecType else ""
      marketRuleIds := if Since.marketRules ≤ sv then written.marketRuleIds else ""
      realExpirationDate := if Since.realExpirations ≤ sv then written.realExpirationDate else ""
      stockType := if Since.stockTypes ≤ sv then written.stockType else ""
      minSize := if Since.sizeRules ≤ sv then written.minSize else none
      sizeIncrement := if Since.sizeRules ≤ sv then written.sizeIncrement else none
      suggestedSizeIncrement :=
        if Since.sizeRules ≤ sv then written.suggestedSizeIncrement else none
      fund := if written.HasFund sv then written.fund else {}
      ineligibilityReasons :=
        if Since.ineligibilityReasons ≤ sv then written.ineligibilityReasons else [] } := by
  have htick : sv = Since.fractionalSizes ↔ Since.fractionalSizes ≤ sv ∧ sv < Since.sizeRules := by
    constructor
    · rintro rfl
      decide
    · rintro ⟨hlow, hhigh⟩
      exact Int.le_antisymm (Int.le_of_lt_add_one hhigh) hlow
  have hfund : written.HasFund sv ↔
      Since.fundDetails ≤ sv ∧ d.contract.secType = some (.known .fund) := by
    rw [htype]
    rfl
  unfold readContractAdditions
  simp only [ContractDetails.additionsItems, List.append_assoc, htick, hfund]
  rw [← List.append_nil (since Since.ineligibilityReasons sv _)]
  exact .since (fun _ => tells_optionalInt _) <| .since (fun _ => tells_text _) <|
    .since (fun _ => tells_text _) <| .since (fun _ => tells_text _) <|
    .since (fun _ => tells_text _) <| .since (fun _ => tells_text _) <|
    .whenever (fun _ => .last <| .skip <| .pure _) <| .bind (tells_sizeRules sv _ written) <|
    .whenever (fun _ => tells_fund _) <|
    .since (fun _ => .counted fun r _ => tells_ineligibility r) <| .pure _

/-- Whether a text is a date at most: it has no blank and no dash. -/
def IsDate (t : String) : Prop :=
  ∀ c ∈ t.toList, Blank.isBlank c = false ∧ c ≠ '-'

instance : DecidablePred IsDate := fun t =>
  List.decidableBAll (fun c => Blank.isBlank c = false ∧ c ≠ '-') t.toList

/-- The version that the fields of details depend on. -/
theorem version_of_details {sv : ServerVersion} {version : Int32} {least : Int32}
    (hversion : sv < Since.sizeRules → least ≤ version) (hleast : least.toInt ≤ 164) :
    least.toInt ≤ if sv < Since.sizeRules then version.toInt else sv := by
  by_cases hsv : sv < Since.sizeRules
  · rw [if_pos hsv]
    exact Int32.le_iff_toInt_le.mp (hversion hsv)
  · rw [if_neg hsv]
    exact Int.le_trans hleast (Int.not_lt.mp hsv)

/-- A date is all of its field, and leaves nothing to the time and the zone. -/
theorem expiryParts_date {t : String} (h : IsDate t) :
    expiryParts t = if t = "" then [] else [t] := by
  by_cases hempty : t = ""
  · subst hempty
    rfl
  · rw [if_neg hempty]
    exact expiryParts_single ⟨hempty, h⟩

theorem setExpiry_date {t : String} (h : IsDate t) {d : ContractDetails}
    (hunset : d.contract.lastTradeDateOrContractMonth = "") :
    setExpiry t d =
      { d with contract := { d.contract with lastTradeDateOrContractMonth := t } } := by
  rw [setExpiry, expiryParts_date h, hunset]
  split
  · next hempty => rw [hempty]; rfl
  · rfl

theorem tells_contractDetails {sv : ServerVersion} {version : Int32}
    (hversion : sv < Since.sizeRules → 8 ≤ version) (reqId : Int32) (unread : UnreadSizes)
    (d : ContractDetails) (hdate : IsDate d.contract.lastTradeDateOrContractMonth)
    (hname : '\\' ∉ d.longName.toList) :
    Tells (d.contractItems sv version reqId unread) (readContractDetails sv)
      (.contractDetails reqId (d.inContract sv)) := by
  have hv : (8 : Int) ≤ if sv < Since.sizeRules then version.toInt else sv :=
    version_of_details hversion (by decide)
  simp only [ContractDetails.contractItems, ContractDetails.headItems, List.append_assoc]
  refine .bind (tells_messageVersion Since.sizeRules sv version) <|
    .bind (tells_request (by omega) reqId) <| .bind (tells_contractTerms sv d) ?_
  rw [setExpiry_date hdate rfl]
  exact .bind (tells_contractTrading sv (by omega) unread _ d hname) <|
    .bind (tells_contractListing hv _ d) <| .final (tells_contractAdditions sv unread _ d rfl) <|
    .pure _

/-- What is told of a contract is enough to write its message again. -/
theorem contractItems_told (sv : ServerVersion) (version reqId : Int32) (unread : UnreadSizes)
    (d : ContractDetails) :
    (d.inContract sv).contractItems sv version reqId unread =
      d.contractItems sv version reqId unread := by
  have hterms : (d.inContract sv).termsItems sv = d.termsItems sv := by
    simp +contextual only [ContractDetails.termsItems, ContractDetails.inContract, if_true]
  have hfund : (d.inContract sv).HasFund sv ↔ d.HasFund sv := Iff.rfl
  have hadditions : (d.inContract sv).additionsItems sv unread = d.additionsItems sv unread := by
    simp only [ContractDetails.additionsItems, hfund]
    simp +contextual only [ContractDetails.sizeRulesItems, ContractDetails.inContract, if_true]
  simp only [ContractDetails.contractItems, hterms, hadditions]
  rfl

theorem readsAs_contractDetails {sv : ServerVersion} {version : Int32}
    (hversion : sv < Since.sizeRules → 8 ≤ version) {reqId : Int32} {unread : UnreadSizes}
    {d : ContractDetails} (hdate : IsDate d.contract.lastTradeDateOrContractMonth)
    (hname : '\\' ∉ d.longName.toList)
    (hplain : ∀ item ∈ d.contractItems sv version reqId unread, item.IsPlain) :
    ReadsAs sv (d.contractMessage sv version reqId unread)
      (.notice (.contractDetails reqId (d.inContract sv))) :=
  readsAs_single rfl (tells_contractDetails hversion reqId unread d hdate hname) hplain

end Event

end BrokerWire
