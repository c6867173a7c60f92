import BrokerWire.Proofs.Event.ContractDetails

namespace BrokerWire

open Item (counted since)

namespace ContractDetails

def bondTermsItems (sv : ServerVersion) (d : ContractDetails) : List Item :=
  [⟨.text, d.contract.symbol⟩, ⟨.optionalCode Security, d.contract.secType⟩, ⟨.text, d.bond.cusip⟩,
    ⟨.double, d.bond.coupon⟩] ++
  since Since.lastTradeDates sv [⟨.text, d.contract.lastTradeDate⟩] ++
  [⟨.text, d.bond.maturity⟩, ⟨.text, d.bond.issueDate⟩, ⟨.text, d.bond.ratings⟩,
    ⟨.text, d.bond.bondType⟩, ⟨.text, d.bond.couponType⟩, ⟨.bool, d.bond.convertible⟩,
    ⟨.bool, d.bond.callable⟩, ⟨.bool, d.bond.putable⟩, ⟨.text, d.bond.descAppend⟩,
    ⟨.text, d.contract.exchange⟩, ⟨.text, d.contract.currency⟩, ⟨.text, d.marketName⟩,
    ⟨.text, d.contract.tradingClass⟩, ⟨.int, d.contract.conId⟩, ⟨.double, d.minTick⟩]

def bondTradingItems (sv : ServerVersion) (unread : UnreadSizes) (d : ContractDetails) :
    List Item :=
  multiplierItems sv unread ++
  [⟨.text, d.orderTypes⟩, ⟨.text, d.validExchanges⟩, ⟨.text, d.bond.nextOptionDate⟩,
    ⟨.text, d.bond.nextOptionType⟩, ⟨.bool, d.bond.nextOptionPartial⟩, ⟨.text, d.bond.notes⟩,
    ⟨.text, d.longName⟩] ++
  since Since.bondTradingHours sv [⟨.text, d.timeZoneId⟩] ++
  since Since.bondTradingHours sv [⟨.text, d.tradingHours⟩] ++
  since Since.bondTradingHours sv [⟨.text, d.liquidHours⟩]

def bondAdditionsItems (sv : ServerVersion) (d : ContractDetails) : List Item :=
  [⟨.text, d.evRule⟩, ⟨.double, d.evMultiplier⟩] ++ counted TagValue.items d.secIdList ++
  since Since.aggregationGroups sv [⟨.optionalInt, d.aggGroup⟩] ++
  since Since.marketRules sv [⟨.text, d.marketRuleIds⟩] ++
  d.sizeRulesItems sv

/-- The details of a bond, field by field. -/
def bondItems (sv : ServerVersion) (version reqId : Int32) (unread : UnreadSizes)
    (d : ContractDetails) : List Item :=
  headItems sv version reqId ++ d.bondTermsItems sv ++ d.bondTradingItems sv unread ++
  d.bondAdditionsItems sv

def bondMessage (sv : ServerVersion) (version reqId : Int32) (unread : UnreadSizes)
    (d : ContractDetails) : Message :=
  Item.message (Numbered.code Inbound.bondContractData) (d.bondItems sv version reqId unread)

/-- What the details of a bond carry. -/
def inBond (sv : ServerVersion) (d : ContractDetails) : ContractDetails where
  contract :=
    { conId := d.contract.conId
      symbol := d.contract.symbol
      secType := d.contract.secType
      lastTradeDate := if Since.lastTradeDates ≤ sv then d.contract.lastTradeDate else ""
      exchange := d.contract.exchange
      currency := d.contract.currency
      tradingClass := d.contract.tradingClass }
  marketName := d.marketName
  minTick := d.minTick
  orderTypes := d.orderTypes
  validExchanges := d.validExchanges
  longName := d.longName
  timeZoneId := if Since.bondTradingHours ≤ sv then d.timeZoneId else ""
  tradingHours := if Since.bondTradingHours ≤ sv then d.tradingHours else ""
  liquidHours := if Since.bondTradingHours ≤ sv then d.liquidHours else ""
  evRule := d.evRule
  evMultiplier := d.evMultiplier
  aggGroup := if Since.aggregationGroups ≤ sv then d.aggGroup else none
  marketRuleIds := if Since.marketRules ≤ sv then d.marketRuleIds else ""
  minSize := if Since.sizeRules ≤ sv then d.minSize else none
  sizeIncrement := if Since.sizeRules ≤ sv then d.sizeIncrement else none
  suggestedSizeIncrement := if Since.sizeRules ≤ sv then d.suggestedSizeIncrement else none
  secIdList := d.secIdList
  bond := d.bond

end ContractDetails

namespace Event

open FieldReader

theorem tells_bondTerms (sv : ServerVersion) (d : ContractDetails) :
    Tells (d.bondTermsItems sv) (readBondTerms sv) (setMaturity d.bond.maturity {
      contract :=
        { symbol := d.contract.symbol
          secType := d.contract.secType
          lastTradeDate := if Since.lastTradeDates ≤ sv then d.contract.lastTradeDate else ""
          exchange := d.contract.exchange
          currency := d.contract.currency
          tradingClass := d.contract.tradingClass
          conId := d.contract.conId }
      marketName := d.marketName
      minTick := d.minTick
      bond :=
        { cusip := d.bond.cusip
          ratings := d.bond.ratings
          descAppend := d.bond.descAppend
          bondType := d.bond.bondType
          couponType := d.bond.couponType
          coupon := d.bond.coupon
          callable := d.bond.callable
          putable := d.bond.putable
          convertible := d.bond.convertible
          issueDate := d.bond.issueDate } }) := by
  simp only [ContractDetails.bondTermsItems, List.cons_append, List.nil_append]
  exact .text <| .code <| .text <| .double <| .since (fun _ => tells_text _) <| .text <| .text <|
    .text <| .text <| .text <| .bool <| .bool <| .bool <| .text <| .text <| .text <| .text <|
    .text <| .int <| .double <| .pure _

theorem tells_bondTrading (sv : ServerVersion) {version : Int} (hv : 4 ≤ version)
    (unread : UnreadSizes) (d written : ContractDetails) :
    Tells (written.bondTradingItems sv unread) (readBondTrading sv version d) { d with
      orderTypes := written.orderTypes
      validExchanges := written.validExchanges
      bond := { d.bond with
        nextOptionDate := written.bond.nextOptionDate
        nextOptionType := written.bond.nextOptionType
        nextOptionPartial := written.bond.nextOptionPartial
        notes := written.bond.notes }
      longName := written.longName
      timeZoneId := if Since.bondTradingHours ≤ sv then written.timeZoneId else d.timeZoneId
      tradingHours := if Since.bondTradingHours ≤ sv then written.tradingHours else ""
      liquidHours := if Since.bondTradingHours ≤ sv then written.liquidHours else "" } := by
  have hoption : decide (2 ≤ version) = true := decide_eq_true (by omega)
  have hnamed : decide (4 ≤ version) = true := decide_eq_true hv
  simp only [ContractDetails.bondTradingItems, List.append_assoc, List.cons_append,
    List.nil_append]
  rw [← List.append_nil (since Since.bondTradingHours sv [⟨.text, written.liquidHours⟩])]
  exact .bind (tells_multiplier sv unread) <| .text <| .text <| .known hoption <| .text <|
    .known hoption <| .text <| .known hoption <| .bool <| .known hoption <| .text <|
    .known hnamed <| .text <| .since (fun _ => tells_text _) <| .since (fun _ => tells_text _) <|
    .since (fun _ => tells_text _) <| .pure _

theorem tells_bondAdditions (sv : ServerVersion) {version : Int} (hv : 6 ≤ version)
    (d written : ContractDetails) :
    Tells (written.bondAdditionsItems sv) (readBondAdditions sv version d) { d with
      evRule := written.evRule
      evMultiplier := written.evMultiplier
      secIdList := written.secIdList
      aggGroup := if Since.aggregationGroups ≤ sv then written.aggGroup else none
      marketRuleIds := if Since.marketRules ≤ sv then written.marketRuleIds else ""
      minSize := if Since.sizeRules ≤ sv then written.minSize else none
      sizeIncrement := if Since.sizeRules ≤ sv then written.sizeIncrement else none
      suggestedSizeIncrement :=
        if Since.sizeRules ≤ sv then written.suggestedSizeIncrement else none } := by
  have hvalued : decide (6 ≤ version) = true := decide_eq_true hv
  have hidentified : decide (5 ≤ version) = true := decide_eq_true (by omega)
  simp only [ContractDetails.bondAdditionsItems, List.append_assoc, List.cons_append,
    List.nil_append]
  exact .known hvalued <| .text <| .known hvalued <| .double <|
    .known hidentified <| .bind (.counted fun p _ => tells_tagValue p) <|
    .since (fun _ => tells_optionalInt _) <| .since (fun _ => tells_text _) <|
    tells_sizeRules sv _ written

theorem setMaturity_date {t : String} (h : IsDate t) {d : ContractDetails}
    (hunset : d.bond.maturity = "") :
    setMaturity t d = { d with bond := { d.bond with maturity := t } } := by
  rw [setMaturity, expiryParts_date h, hunset]
  split
  · next hempty => rw [hempty]; rfl
  · rfl

theorem tells_bondDetails {sv : ServerVersion} {version : Int32}
    (hversion : sv < Since.sizeRules → 6 ≤ version) (reqId : Int32) (unread : UnreadSizes)
    (d : ContractDetails) (hdate : IsDate d.bond.maturity) :
    Tells (d.bondItems sv version reqId unread) (readBondDetails sv)
      (.bondContractDetails reqId (d.inBond sv)) := by
  have hv : (6 : Int) ≤ if sv < Since.sizeRules then version.toInt else sv :=
    version_of_details hversion (by decide)
  simp only [ContractDetails.bondItems, ContractDetails.headItems, List.append_assoc]
  refine .bind (tells_messageVersion Since.sizeRules sv version) <|
    .bind (tells_request (by omega) reqId) <| .bind (tells_bondTerms sv d) ?_
  rw [setMaturity_date hdate rfl]
  exact .bind (tells_bondTrading sv (by omega) unread _ d) <|
    .final (tells_bondAdditions sv hv _ d) <| .pure _

/-- What is told of a bond is enough to write its message again. -/
theorem bondItems_told (sv : ServerVersion) (version reqId : Int32) (unread : UnreadSizes)
    (d : ContractDetails) :
    (d.inBond sv).bondItems sv version reqId unread = d.bondItems sv version reqId unread := by
  have hterms : (d.inBond sv).bondTermsItems sv = d.bondTermsItems sv := by
    simp +contextual only [ContractDetails.bondTermsItems, ContractDetails.inBond, if_true]
  have htrading : (d.inBond sv).bondTradingItems sv unread = d.bondTradingItems sv unread := by
    simp +contextual only [ContractDetails.bondTradingItems, ContractDetails.inBond, if_true]
  have hadditions : (d.inBond sv).bondAdditionsItems sv = d.bondAdditionsItems sv := by
    simp +contextual only [ContractDetails.bondAdditionsItems, ContractDetails.sizeRulesItems,
      ContractDetails.inBond, if_true]
  simp only [ContractDetails.bondItems, hterms, htrading, hadditions]

theorem readsAs_bondDetails {sv : ServerVersion} {version : Int32}
    (hversion : sv < Since.sizeRules → 6 ≤ version) {reqId : Int32} {unread : UnreadSizes}
    {d : ContractDetails} (hdate : IsDate d.bond.maturity)
    (hplain : ∀ item ∈ d.bondItems sv version reqId unread, item.IsPlain) :
    ReadsAs sv (d.bondMessage sv version reqId unread)
      (.notice (.bondContractDetails reqId (d.inBond sv))) :=
  readsAs_single rfl (tells_bondDetails hversion reqId unread d hdate) hplain

/-- The details of a contract, and those of a bond, are decoded as all that their message carries
for the server version, with nothing left unread, and that is all that its writer put into it.
Details that have nothing else come back as they are. -/
theorem decode_details (sv : ServerVersion) (version reqId : Int32) (unread : UnreadSizes)
    (d : ContractDetails) :
    ((sv < Since.sizeRules → 8 ≤ version) → IsDate d.contract.lastTradeDateOrContractMonth →
      '\\' ∉ d.longName.toList →
      (∀ item ∈ d.contractItems sv version reqId unread, item.IsPlain) →
      ReadsAs sv (d.contractMessage sv version reqId unread)
        (.notice (.contractDetails reqId (d.inContract sv))) ∧
      (d.inContract sv).contractMessage sv version reqId unread =
        d.contractMessage sv version reqId unread ∧
      (d.inContract sv = d →
        ReadsAs sv (d.contractMessage sv version reqId unread)
          (.notice (.contractDetails reqId d)))) ∧
    ((sv < Since.sizeRules → 6 ≤ version) → IsDate d.bond.maturity →
      (∀ item ∈ d.bondItems sv version reqId unread, item.IsPlain) →
      ReadsAs sv (d.bondMessage sv version reqId unread)
        (.notice (.bondContractDetails reqId (d.inBond sv))) ∧
      (d.inBond sv).bondMessage sv version reqId unread =
        d.bondMessage sv version reqId unread ∧
      (d.inBond sv = d →
        ReadsAs sv (d.bondMessage sv version reqId unread)
          (.notice (.bondContractDetails reqId d)))) := by
  constructor
  · intro hversion hdate hname hplain
    have hread := readsAs_contractDetails hversion hdate hname hplain
    refine ⟨hread, ?_, fun hd => ?_⟩
    · rw [ContractDetails.contractMessage, contractItems_told]
      rfl
    · rwa [hd] at hread
  · intro hversion hdate hplain
    have hread := readsAs_bondDetails hversion hdate hplain
    refine ⟨hread, ?_, fun hd => ?_⟩
    · rw [ContractDetails.bondMessage, bondItems_told]
      rfl
    · rwa [hd] at hread

/-- A fund with two identifiers that nobody may trade. -/
def closedFund : ContractDetails where
  contract :=
    { conId := 53, symbol := "VFIAX", secType := some (.known .fund), exchange := "FUNDSERV"
      currency := "USD" }
  longName := "Vanguard 500 Index"
  timeZoneId := "US/Eastern"
  secIdList := [⟨"ISIN", "US9229087104"⟩, ⟨"CUSIP", "922908710"⟩]
  fund :=
    { name := "500 Index", family := "Vanguard", closedForNewInvestors := true
      distributionPolicyIndicator := some (.known .incomeFund)
      assetType := some (.known .equity) }
  ineligibilityReasons := [⟨"CLOSED", "closed for new money"⟩]

/-- A treasury bond. -/
def treasury : ContractDetails where
  contract := { conId := 17, symbol := "US-T", secType := some (.known .bond), currency := "USD" }
  timeZoneId := "US/Eastern"
  secIdList := [⟨"CUSIP", "912810TM0"⟩]
  bond := { cusip := "912810TM0", maturity := "20530215", issueDate := "20230215" }

/-- A new server reports a fund, and an old one a bond, behind the version of the message. -/
theorem decode_details_closedFund :
    ReadsAs 200 (closedFund.contractMessage 200 0 5 {})
        (.notice (.contractDetails 5 closedFund)) ∧
      ReadsAs 163 (treasury.bondMessage 163 8 6 { multiplier := "1" })
        (.notice (.bondContractDetails 6 { treasury with timeZoneId := "" })) := by
  have hfund : ∀ item ∈ closedFund.contractItems 200 0 5 {}, item.IsPlain := by
    decide +kernel
  have hbond : ∀ item ∈ treasury.bondItems 163 8 6 { multiplier := "1" }, item.IsPlain := by
    decide +kernel
  obtain ⟨hread, -⟩ := decode_details 200 0 5 {} closedFund
  obtain ⟨-, hbonds⟩ := decode_details 163 8 6 { multiplier := "1" } treasury
  exact ⟨(hread (by decide) (by decide) (by decide) hfund).2.2 (by decide),
    (hbonds (by decide) (by decide) hbond).1⟩

end Event

end BrokerWire
