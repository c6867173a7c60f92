import BrokerWire.Form.Condition
import BrokerWire.Proofs.Form.Members

namespace BrokerWire

open Member (Lawful)

instance : LastingForm Conjunction := ⟨by rintro ⟨⟩ <;> rfl⟩

instance : LastingForm TriggerMethod := ⟨LawfulNames.ofName?_name⟩

theorem Comparison.lawful : Lawful Comparison.members {} where
  settles := by simp [Comparison.members]

theorem ContractScope.lawful : Lawful ContractScope.members {} where
  settles := by simp [ContractScope.members]

instance : LastingForm Comparison := Comparison.lawful.lastingForm (by
  intro m hm
  simp only [Comparison.members, List.mem_cons, List.not_mem_nil, or_false] at hm
  obtain rfl | rfl := hm
  · exact inferInstanceAs (LastingForm Bool)
  · exact inferInstanceAs (LastingForm String))

instance : LastingForm ContractScope := ContractScope.lawful.lastingForm (by
  intro m hm
  simp only [ContractScope.members, List.mem_cons, List.not_mem_nil, or_false] at hm
  obtain rfl | rfl := hm
  · exact inferInstanceAs (LastingForm Int32)
  · exact inferInstanceAs (LastingForm String))

namespace ConditionKind

/-- A condition is read from the values that its own members are written as. -/
theorem ofValues?_payload (kind : ConditionKind) :
    ofValues? kind.type (kind.payload.map Prod.snd) = some kind := by
  have lasting {α : Type} [JsonForm α] [LastingForm α] (value : α) :
      ofJson? (toJson value) = some value := LastingForm.lasts value
  cases kind with
  | execution secType exchange symbol => rfl
  | _ => simp [type, payload, ofValues?, lasting]

/-- The members behind the tag are found by their names. -/
theorem ofJson?_toJson (kind : ConditionKind) :
    (ofJson? (toJson kind) : Option ConditionKind) =
      ofValues? kind.type (kind.payload.map Prod.snd) := by
  cases kind <;> rfl

end ConditionKind

instance : LastingForm ConditionKind :=
  ⟨fun kind => kind.ofJson?_toJson.trans kind.ofValues?_payload⟩

theorem OrderCondition.lawful : Lawful OrderCondition.members ⟨.and, .time {}⟩ where
  settles := by simp [OrderCondition.members]

instance : SettlingForm OrderCondition := OrderCondition.lawful.settlingForm

end BrokerWire
