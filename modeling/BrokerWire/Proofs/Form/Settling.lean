import BrokerWire.Proofs.Form.Records
import BrokerWire.Proofs.Form.Written

namespace BrokerWire

namespace Member

variable {ρ α : Type} [JsonForm α] {name : String}

/-- Whether a member may be missing exactly if it may be null, or is left out when it is empty. -/
def MissesNull (m : Member ρ) : Prop :=
  m.absence ≠ .fault ↔
    (∃ value : m.Value, ofJson? .null = some value) ∨ ∃ value, m.omits value = true

theorem missesNull_of {get : ρ → α} {set : α → ρ → ρ} {set_get : ∀ r, set (get r) r = r}
    (h : (ofJson? .null : Option α) = none) : (of name get set set_get).MissesNull := by
  refine iff_of_false (fun hmissing => hmissing rfl) ?_
  rintro (⟨value, hvalue⟩ | ⟨_, homits⟩)
  · cases h.symm.trans hvalue
  · cases homits

theorem missesNull_opt {get : ρ → Option α} {set : Option α → ρ → ρ}
    {set_get : ∀ r, set (get r) r = r} : (opt name get set set_get).MissesNull :=
  iff_of_true nofun (.inl ⟨none, rfl⟩)

theorem missesNull_items {get : ρ → List α} {set : List α → ρ → ρ}
    {set_get : ∀ r, set (get r) r = r} : (items name get set set_get).MissesNull :=
  iff_of_true nofun (.inr ⟨[], rfl⟩)

theorem absence_of_mem_map_kept {ms : List (Member ρ)} :
    ∀ m ∈ ms.map kept, m.absence = .kept := by
  rintro _ hm
  obtain ⟨m, -, rfl⟩ := List.mem_map.mp hm
  rfl

end Member

/-- A type with its JSON form, whose values settle. -/
structure FormType where
  Value : Type
  [form : JsonForm Value]
  [settling : SettlingForm Value]

attribute [instance] FormType.form

/-- A type of records: its members make it up, and either all of them may be missing, or those that
may be null or empty. -/
structure RecordType where
  Record : Type
  [form : JsonForm Record]
  members : List (Member Record)
  blank : Record
  form_eq : form = Member.form members blank
  lawful : Member.Lawful members blank
  missing : (∀ m ∈ members, m.absence = .kept) ∨ ∀ m ∈ members, m.MissesNull

namespace RecordType

attribute [instance] RecordType.form

variable {ρ : Type} [form : JsonForm ρ] {members : List (Member ρ)} {blank : ρ}

/-- The type of records with these members, of which those that are null or empty may be missing. -/
def of (lawful : Member.Lawful members blank)
    (form_eq : form = Member.form members blank := by rfl)
    (missing : ∀ m ∈ members, m.MissesNull := by
      repeat refine List.forall_mem_cons.mpr ⟨by
        first
        | exact Member.missesNull_opt
        | exact Member.missesNull_items
        | exact Member.missesNull_of rfl, ?_⟩
      exact List.forall_mem_nil _) : RecordType :=
  ⟨ρ, members, blank, form_eq, lawful, .inr missing⟩

/-- The type of records of whose members all may be missing. -/
def ofKept {members : List (Member ρ)} (lawful : Member.Lawful (members.map .kept) blank)
    (form_eq : form = Member.form (members.map .kept) blank := by rfl) : RecordType :=
  ⟨ρ, _, blank, form_eq, lawful, .inl Member.absence_of_mem_map_kept⟩

def formType (t : RecordType) : FormType where
  Value := t.Record
  settling := t.form_eq ▸ t.lawful.settlingForm

end RecordType

def recordTypes : List RecordType :=
  [
    .of Contract.lawful, .of ComboLeg.lawful, .of DeltaNeutralContract.lawful,
    .of ContractDetails.lawful, .of BondDetails.lawful, .of FundDetails.lawful,
    .of ContractDescription.lawful,
    .ofKept Order.lawful, .ofKept DeltaNeutralOrder.lawful, .ofKept ScaleParams.lawful,
    .ofKept PegBenchParams.lawful, .ofKept AdjustedOrder.lawful, .ofKept DecisionMakers.lawful,
    .of OrderState.lawful, .of OrderProgress.lawful, .of OrderAllocation.lawful,
    .of OrderCancel.lawful,
    .of OrderCondition.lawful, .of Comparison.lawful, .of ContractScope.lawful,
    .of Execution.lawful, .of ExecutionFilter.lawful, .of CommissionReport.lawful,
    .of PortfolioItem.lawful, .of Position.lawful,
    .of TagValue.lawful, .of SoftDollarTier.lawful, .of FamilyCode.lawful,
    .of NewsProvider.lawful, .of HistogramEntry.lawful, .of PriceIncrement.lawful,
    .of IneligibilityReason.lawful, .of SmartComponent.lawful, .of DepthMarket.lawful,
    .of PriceFlags.lawful, .of QuoteFlags.lawful, .of TradeFlags.lawful,
    .of OptionComputation.lawful, .of ExchangeForPhysical.lawful,
    .of Bar.lawful, .of RealTimeBar.lawful, .of MidpointTick.lawful, .of QuoteTick.lawful,
    .of TradeTick.lawful, .of TradingSession.lawful
  ]

/-- All types that settle: the records, and the enumerations that stand in them. -/
def formTypes : List FormType :=
  recordTypes.map RecordType.formType ++
    [⟨ConditionKind⟩, ⟨Conjunction⟩, ⟨TriggerMethod⟩, ⟨LegOpenClose⟩, ⟨Origin⟩, ⟨AuctionStrategy⟩]

/-- Whether the objects of a type of records are read and written member by member. -/
structure RecordType.IsMemberwise (t : RecordType) : Prop where
  read_iff : ∀ (found : List (String × Json)) (r : t.Record), ofJson? (.object found) = some r ↔
    ∀ m ∈ t.members, match Json.find? m.name found with
      | some json => ofJson? json = some (m.get r)
      | none => m.absence ≠ .fault ∧ m.get r = m.get t.blank
  exists_iff : ∀ found : List (String × Json), (∃ r : t.Record, ofJson? (.object found) = some r) ↔
    ∀ m ∈ t.members, match Json.find? m.name found with
      | some json => ∃ value : m.Value, ofJson? json = some value
      | none => m.absence ≠ .fault
  written : ∀ r : t.Record, ∃ entries, toJson r = .object entries ∧
    ∀ m ∈ t.members, Json.find? m.name entries =
      if m.omits (m.get r) then none else some (toJson (m.get r))
  omitted : ∀ m ∈ t.members, ∀ value, m.omits value = true →
    m.absence ≠ .fault ∧ m.get t.blank = value
  missing : (∀ m ∈ t.members, m.absence = .kept) ∨ ∀ m ∈ t.members, m.MissesNull

theorem RecordType.isMemberwise (t : RecordType) : t.IsMemberwise := by
  obtain ⟨Record, members, blank, rfl, lawful, missing⟩ := t
  refine ⟨fun _ _ => lawful.ofObject_iff, fun _ => lawful.exists_ofObject_iff, ?_,
    fun m hm => (lawful.settles m hm).omits, missing⟩
  intro r
  exact ⟨_, rfl, fun m hm => Member.find?_entries lawful.nodup hm r⟩

/-- Whether a member is a text code that may be unset. -/
structure Member.IsCode {ρ : Type} (κ : Type) [Vocabulary κ] (m : Member ρ) : Prop where
  form_eq : (⟨m.Value, m.valueForm⟩ : Sigma JsonForm) = ⟨Option (Code κ), inferInstance⟩
  written : ∀ value, m.omits value = false

theorem Member.IsCode.toJson_of_read {ρ κ : Type} [Vocabulary κ] {m : Member ρ} (h : m.IsCode κ)
    {text : String} {value : m.Value} (hread : ofJson? (.string text) = some value) :
    toJson value = .string (Code.ofText text : Code κ).text := by
  obtain ⟨name, Value, get, set, omits, absence, set_get⟩ := m
  obtain ⟨hform, -⟩ := h
  cases hform
  cases hread
  rfl

/-- A member of a record that is a text code. -/
structure CodedMember where
  type : RecordType
  name : String
  Word : Type
  [vocabulary : Vocabulary Word]
  [lawful : LawfulVocabulary Word]
  member : ∃ m ∈ type.members, m.name = name ∧ m.IsCode Word

namespace CodedMember

attribute [instance] CodedMember.vocabulary CodedMember.lawful

/-- Whether the text of a code is written as the word that it is a spelling of, or as it came. -/
def KeepsTexts (e : CodedMember) : Prop :=
  ∀ (found : List (String × Json)) (r : e.type.Record) (text : String),
    ofJson? (.object found) = some r → Json.find? e.name found = some (.string text) →
    ∃ entries, toJson r = .object entries ∧
      ((∃ word ∈ (Vocabulary.words : List e.Word),
        (Vocabulary.text word = text ∨ text ∈ Vocabulary.aliases word) ∧
        Json.find? e.name entries = some (.string (Vocabulary.text word))) ∨
      (∀ word ∈ (Vocabulary.words : List e.Word),
        Vocabulary.text word ≠ text ∧ text ∉ Vocabulary.aliases word) ∧
        Json.find? e.name entries = some (.string text))

theorem keepsTexts (e : CodedMember) : e.KeepsTexts := by
  intro found r text hread hfound
  obtain ⟨m, hm, hname, hcode⟩ := e.member
  obtain ⟨entries, hentries, hmembers⟩ := e.type.isMemberwise.written r
  have hvalue := (e.type.isMemberwise.read_iff found r).mp hread m hm
  rw [hname, hfound] at hvalue
  have hwritten : Json.find? e.name entries =
      some (.string (Code.ofText text : Code e.Word).text) := by
    rw [← hname, hmembers m hm, hcode.written, hcode.toJson_of_read hvalue]
    rfl
  refine ⟨entries, hentries, ?_⟩
  obtain ⟨word, hw, hspelled, hword⟩ | ⟨hnone, hother⟩ := Code.ofText_cases (κ := e.Word) text
  · rw [hword] at hwritten
    exact .inl ⟨word, hw, hspelled, hwritten⟩
  · rw [hother] at hwritten
    exact .inr ⟨hnone, hwritten⟩

end CodedMember

/-- The text codes that stand in records. -/
def codedMembers : List CodedMember :=
  [
    ⟨.of Contract.lawful, "secType", Security,
      _, List.mem_of_getElem? (rfl : Contract.members[2]? = _), rfl, rfl, fun _ => rfl⟩,
    ⟨.of Contract.lawful, "right", OptionRight,
      _, List.mem_of_getElem? (rfl : Contract.members[6]? = _), rfl, rfl, fun _ => rfl⟩,
    ⟨.of Contract.lawful, "secIdType", SecurityIdScheme,
      _, List.mem_of_getElem? (rfl : Contract.members[14]? = _), rfl, rfl, fun _ => rfl⟩,
    ⟨.of ComboLeg.lawful, "action", Side,
      _, List.mem_of_getElem? (rfl : ComboLeg.members[2]? = _), rfl, rfl, fun _ => rfl⟩,
    ⟨.of FundDetails.lawful, "distributionPolicyIndicator", FundPayout,
      _, List.mem_of_getElem? (rfl : FundDetails.members[15]? = _), rfl, rfl, fun _ => rfl⟩,
    ⟨.of FundDetails.lawful, "assetType", FundAsset,
      _, List.mem_of_getElem? (rfl : FundDetails.members[16]? = _), rfl, rfl, fun _ => rfl⟩,
    ⟨.ofKept Order.lawful, "action", Side,
      _, List.mem_of_getElem? (rfl : Order.members[5]? = _), rfl, rfl, fun _ => rfl⟩,
    ⟨.ofKept Order.lawful, "orderType", OrderKind,
      _, List.mem_of_getElem? (rfl : Order.members[7]? = _), rfl, rfl, fun _ => rfl⟩,
    ⟨.ofKept Order.lawful, "tif", TimeInForce,
      _, List.mem_of_getElem? (rfl : Order.members[10]? = _), rfl, rfl, fun _ => rfl⟩
  ]

namespace Order

theorem absence_eq : ∀ m ∈ members, m.absence = .kept :=
  Member.absence_of_mem_map_kept

/-- An order is the blank one with the members of the object that it was read from. -/
theorem ofObject_iff {found : List (String × Json)} {o : Order} :
    ofJson? (.object found) = some o ↔
      ∀ m ∈ members, match Json.find? m.name found with
        | some json => ofJson? json = some (m.get o)
        | none => m.get o = m.get {} := by
  refine lawful.ofObject_iff.trans (forall₂_congr fun m hm => ?_)
  cases Json.find? m.name found with
  | some json => exact Iff.rfl
  | none => simp [absence_eq m hm]

/-- An object is an order if those members of an order that it has can be read. -/
theorem exists_ofObject_iff {found : List (String × Json)} :
    (∃ o : Order, ofJson? (.object found) = some o) ↔
      ∀ m ∈ members, ∀ json, Json.find? m.name found = some json →
        ∃ value : m.Value, ofJson? json = some value := by
  refine lawful.exists_ofObject_iff.trans (forall₂_congr fun m hm => ?_)
  cases Json.find? m.name found with
  | some json => simp
  | none => simp [absence_eq m hm]

end Order

end BrokerWire
