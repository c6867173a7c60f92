import BrokerWire.Proofs.Request.Readback
import BrokerWire.Proofs.Wire.Answers

namespace BrokerWire

open FieldReader (Recovers Ensures)
open Utf8 (IsTerminable)

/-- The texts of a condition that its author is free to choose. -/
def ConditionKind.texts : ConditionKind → List String
  | .price comparison scope _ => [comparison.value, scope.exchange]
  | .time comparison => [comparison.value]
  | .margin comparison => [comparison.value]
  | .execution secType exchange symbol => [secType, exchange, symbol]
  | .volume comparison scope => [comparison.value, scope.exchange]
  | .percentChange comparison scope => [comparison.value, scope.exchange]

/-- Whether each text of a condition can be a field. -/
def OrderCondition.IsWritable (c : OrderCondition) : Prop :=
  ∀ t ∈ c.kind.texts, IsTerminable t

instance : DecidablePred OrderCondition.IsWritable := fun c =>
  inferInstanceAs (Decidable (∀ t ∈ c.kind.texts, IsTerminable t))

/-- Whether an integer can count the conditions and each of them can be written. -/
structure OrderConditions.IsWritable (c : OrderConditions) : Prop where
  length_lt : c.conditions.length < 2 ^ 31
  isWritable : ∀ condition ∈ c.conditions, condition.IsWritable

theorem ConditionKind.flatMap_fields (kind : ConditionKind) :
    kind.items.flatMap Item.fields = Field.conditionKind kind := by
  cases kind <;> rfl

theorem OrderCondition.flatMap_fields (c : OrderCondition) :
    c.items.flatMap Item.fields = Field.condition c := by
  rw [items, List.flatMap_append, ConditionKind.flatMap_fields]
  rfl

theorem OrderConditions.flatMap_fields {sv : ServerVersion} (hsv : Since.benchmarkPegs ≤ sv)
    (c : OrderConditions) : (c.items sv).flatMap Item.fields = Field.conditions c := by
  have heach : (fun condition : OrderCondition => condition.items.flatMap Item.fields) =
      Field.condition := funext OrderCondition.flatMap_fields
  rw [items, Item.since, if_pos hsv, List.flatMap_append, Item.flatMap_fields_counted, heach,
    Field.conditions, List.cons_append]
  by_cases hnone : c.conditions = []
  · simp [hnone]
  · have hsome : c.conditions.isEmpty = false := by simpa using hnone
    rw [if_neg hnone, hsome]
    rfl

theorem ConditionKind.isPlain_items {kind : ConditionKind}
    (h : ∀ t ∈ kind.texts, IsTerminable t) : ∀ item ∈ kind.items, item.IsPlain := by
  cases kind <;>
    simp only [texts, List.forall_mem_cons, List.not_mem_nil, false_imp_iff, implies_true, and_true,
      items, Comparison.items, ContractScope.items, List.cons_append, List.nil_append,
      Item.IsPlain, Item.Admits, Kind.Admits, Kind.IsPlain, true_and] at h ⊢ <;>
    exact h

theorem OrderCondition.isPlain_items {c : OrderCondition} (h : c.IsWritable) :
    ∀ item ∈ c.items, item.IsPlain := by
  have hletter : IsTerminable c.conjunction.letter := by cases c.conjunction <;> decide
  rw [items]
  refine List.forall_mem_append.mpr ⟨?_, ConditionKind.isPlain_items h⟩
  simp only [List.forall_mem_cons, List.not_mem_nil, false_imp_iff, implies_true, and_true]
  exact ⟨⟨trivial, trivial⟩, hletter, trivial⟩

theorem OrderConditions.isPlain_items {c : OrderConditions} (h : c.IsWritable)
    (sv : ServerVersion) : ∀ item ∈ c.items sv, item.IsPlain := by
  have hcounted : ∀ item ∈ Item.counted OrderCondition.items c.conditions, item.IsPlain := by
    refine List.forall_mem_cons.mpr ⟨⟨h.length_lt, trivial⟩, ?_⟩
    intro item hm
    obtain ⟨condition, hcondition, hitem⟩ := List.mem_flatMap.mp hm
    exact OrderCondition.isPlain_items (h.isWritable condition hcondition) item hitem
  unfold items Item.since
  split
  · refine List.forall_mem_append.mpr ⟨hcounted, ?_⟩
    split
    · exact nofun
    · exact List.forall_mem_cons.mpr
        ⟨⟨trivial, trivial⟩, List.forall_mem_singleton.mpr ⟨trivial, trivial⟩⟩
  · exact nofun

namespace Event

open FieldReader

theorem ensures_comparison : readComparison.Ensures fun c => IsTerminable c.value :=
  (Ensures.any bool).bind fun _ _ => Ensures.text.bind fun _ hvalue => .done hvalue

theorem ensures_scope : readScope.Ensures fun s => IsTerminable s.exchange :=
  (Ensures.any int).bind fun _ _ => Ensures.text.bind fun _ hexchange => .done hexchange

theorem ensures_conditionKind (type : ConditionType) :
    (readConditionKind type).Ensures fun kind => ∀ t ∈ kind.texts, IsTerminable t := by
  have hone {t : String} (ht : IsTerminable t) : ∀ t' ∈ [t], IsTerminable t' :=
    List.forall_mem_singleton.mpr ht
  have htwo {t t' : String} (ht : IsTerminable t) (ht' : IsTerminable t') :
      ∀ t'' ∈ [t, t'], IsTerminable t'' := List.forall_mem_cons.mpr ⟨ht, hone ht'⟩
  cases type with
  | price =>
    refine ensures_comparison.bind fun comparison hvalue => ?_
    refine ensures_scope.bind fun scope hexchange => ?_
    exact (Ensures.any _).bind fun _ _ => .done (htwo hvalue hexchange)
  | time => exact ensures_comparison.bind fun comparison hvalue => .done (hone hvalue)
  | margin => exact ensures_comparison.bind fun comparison hvalue => .done (hone hvalue)
  | execution =>
    refine Ensures.text.bind fun _ hsecType => Ensures.text.bind fun _ hexchange => ?_
    refine Ensures.text.bind fun _ hsymbol => .done ?_
    exact List.forall_mem_cons.mpr ⟨hsecType, htwo hexchange hsymbol⟩
  | volume =>
    refine ensures_comparison.bind fun comparison hvalue => ?_
    exact ensures_scope.bind fun scope hexchange => .done (htwo hvalue hexchange)
  | percentChange =>
    refine ensures_comparison.bind fun comparison hvalue => ?_
    exact ensures_scope.bind fun scope hexchange => .done (htwo hvalue hexchange)

theorem ensures_condition : readCondition.Ensures OrderCondition.IsWritable := by
  refine (Ensures.any int).bind fun n _ => ?_
  split
  · exact Ensures.fail _
  · next type _ =>
    refine (Ensures.any text).bind fun letter _ => ?_
    exact (ensures_conditionKind type).bind fun kind hkind => .done hkind

/-- Conditions that were read can be written, and without conditions no flag is set. -/
theorem ensures_conditions (sv : ServerVersion) :
    (readConditions sv).Ensures fun c => c.IsWritable ∧ (c.conditions = [] → c = {}) := by
  have hlist : (whenever (Since.benchmarkPegs ≤ sv) (counted readCondition) []).Ensures
      fun conditions => conditions.length < 2 ^ 31 ∧
        ∀ condition ∈ conditions, condition.IsWritable :=
    .whenever (fun _ => ensures_condition.counted) fun _ => ⟨by decide, nofun⟩
  refine hlist.bind fun conditions hconditions => ?_
  have hflag : (whenever (!conditions.isEmpty) bool false).Ensures
      fun flag => conditions = [] → flag = false := by
    refine .whenever (fun hsome => (Ensures.any bool).mono fun flag _ hnone => ?_) fun _ _ => rfl
    simp [hnone] at hsome
  refine hflag.bind fun ignoreRth hignoreRth => hflag.bind fun cancelOrder hcancelOrder => ?_
  refine .done ⟨⟨hconditions.1, hconditions.2⟩, fun hnone => ?_⟩
  dsimp only at hnone
  rw [hnone, hignoreRth hnone, hcancelOrder hnone]

end Event

namespace OrderConditions

/-- What is written of conditions is read back; without conditions there are no flags to read. -/
theorem recovers_conditions {sv : ServerVersion} (hsv : Since.benchmarkPegs ≤ sv)
    {c : OrderConditions} (h : c.IsWritable) :
    Recovers (Event.readConditions sv) (Field.conditions c)
      (if c.conditions = [] then {} else c) := by
  have htold : c.told sv = if c.conditions = [] then {} else c := by
    by_cases hnone : c.conditions = [] <;> simp [told, hsv, hnone]
  rw [← htold]
  exact (Event.tells_conditions sv c).recovers (isPlain_items h sv) (flatMap_fields hsv c)

/-- Conditions that an integer cannot count are too long for a message. -/
theorem maxPayload_lt_length {c : OrderConditions} (h : 2 ^ 31 ≤ c.conditions.length) :
    maxPayload < (⟨Field.conditions c⟩ : Message).payload.length := by
  have hsome : c.conditions.isEmpty = false := by
    cases hc : c.conditions with
    | nil => simp [hc] at h
    | cons condition conditions => rfl
  have hmany : c.conditions.length ≤ (Field.conditions c).length := by
    have heach := @length_le_length_flatMap _ Field.condition (fun _ => List.cons_ne_nil _ _)
      c.conditions
    rw [Field.conditions, hsome, List.length_cons, if_neg Bool.false_ne_true, List.length_append]
    omega
  have hoctets : (Field.conditions c).length ≤
      (⟨Field.conditions c⟩ : Message).payload.length :=
    Item.length_le_length_octets (Field.conditions c)
  change 16777215 < _
  omega

/-- Conditions that are written are read back with their flags, and nothing behind them is touched;
their number is an integer as soon as they fit into a message. Conditions that were read, from
whatever payload, are read once more as they are from what is written of them. -/
theorem conditions_recovered {sv : ServerVersion} (hsv : Since.benchmarkPegs ≤ sv) :
    (∀ c : OrderConditions, c.IsWritable →
      Recovers (Event.readConditions sv) (Field.conditions c)
        (if c.conditions = [] then {} else c)) ∧
    (∀ c : OrderConditions, c.conditions = [] → Field.conditions c = ["0"]) ∧
    (∀ c : OrderConditions, 2 ^ 31 ≤ c.conditions.length →
      maxPayload < (⟨Field.conditions c⟩ : Message).payload.length) ∧
    ∀ payload c unread, (Event.readConditions sv).run payload = (.ok c, unread) →
      Recovers (Event.readConditions sv) (Field.conditions c) c := by
  refine ⟨fun c h => recovers_conditions hsv h, ?_, fun c h => maxPayload_lt_length h, ?_⟩
  · intro c hnone
    rw [Field.conditions, hnone]
    rfl
  · intro payload c unread hread
    obtain ⟨hwritable, hdefault⟩ := Event.ensures_conditions sv payload c unread hread
    have hrecovers := recovers_conditions hsv hwritable
    by_cases hnone : c.conditions = []
    · rw [if_pos hnone] at hrecovers
      rwa [hdefault hnone] at hrecovers ⊢
    · rwa [if_neg hnone] at hrecovers

/-- A condition on a price, and one on a trade as its alternative. -/
def eitherWay : OrderConditions where
  conditions :=
    [⟨.and, .price ⟨true, "150.5"⟩ ⟨265598, "SMART"⟩ .last⟩,
      ⟨.or, .execution "STK" "SMART" "AAPL"⟩]
  conditionsCancelOrder := true

/-- Both come back with their flags, and so does a condition that was read in another spelling. -/
theorem conditions_recovered_eitherWay :
    Recovers (Event.readConditions 102)
        ["2", "1", "a", "1", "150.5", "265598", "SMART", "2", "5", "o", "STK", "SMART", "AAPL",
          "0", "1"] eitherWay ∧
      Recovers (Event.readConditions 102) ["1", "3", "o", "0", "t", "0", "0"]
        { conditions := [⟨.or, .time ⟨false, "t"⟩⟩] } := by
  have hall := @conditions_recovered 102 (by decide)
  have hwritten : Field.conditions eitherWay =
      ["2", "1", "a", "1", "150.5", "265598", "SMART", "2", "5", "o", "STK", "SMART", "AAPL",
        "0", "1"] := rfl
  have hwrittenOnce : Field.conditions { conditions := [⟨.or, .time ⟨false, "t"⟩⟩] } =
      ["1", "3", "o", "0", "t", "0", "0"] := rfl
  have hread : (Event.readConditions 102).run
      (["+1", "03", "b", "", "t", "", "0"].flatMap Message.fieldOctets) =
        (.ok { conditions := [⟨.or, .time ⟨false, "t"⟩⟩] }, []) := rfl
  have hreread := hall.2.2.2 _ _ _ hread
  rw [hwrittenOnce] at hreread
  rw [← hwritten]
  exact ⟨hall.1 eitherWay ⟨by decide, by decide⟩, hreread⟩

end OrderConditions

end BrokerWire
