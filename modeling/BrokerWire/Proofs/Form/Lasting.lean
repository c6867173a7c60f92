import BrokerWire.Form.Basic
import BrokerWire.Proofs.Code.Lawful
import BrokerWire.Proofs.Number.Decimal

namespace BrokerWire

/-- Whether a value is read back from what it is written as. -/
def Lasts {α : Type} [JsonForm α] (value : α) : Prop :=
  ofJson? (toJson value) = some value

/-- Types whose values all last. -/
class LastingForm (α : Type) [JsonForm α] : Prop where
  lasts : ∀ value : α, Lasts value

/-- Types whose values last if they have been read. -/
class SettlingForm (α : Type) [JsonForm α] : Prop where
  lasts_of_read : ∀ {json : Json} {value : α}, ofJson? json = some value → Lasts value

/-- Types whose values are never written as null. -/
class NeverNull (α : Type) [JsonForm α] : Prop where
  toJson_ne_null : ∀ value : α, toJson value ≠ .null

@[simp] theorem LastingForm.lasts_value {α : Type} [JsonForm α] [LastingForm α] (value : α) :
    Lasts value :=
  LastingForm.lasts value

instance (priority := low) LastingForm.settling {α : Type} [JsonForm α] [LastingForm α] :
    SettlingForm α :=
  ⟨fun _ => LastingForm.lasts _⟩

instance : LastingForm Bool := ⟨fun _ => rfl⟩
instance : LastingForm String := ⟨fun _ => rfl⟩
instance : LastingForm Double := ⟨fun _ => rfl⟩

instance : LastingForm Int32 where
  lasts n := by
    change inRange? Int32.minValue.toInt Int32.maxValue.toInt Int32.ofInt n.toInt = some n
    rw [inRange?, if_pos ⟨n.minValue_le_toInt, n.toInt_le⟩, Int32.ofInt_toInt]

instance : LastingForm Int64 where
  lasts n := by
    change inRange? Int64.minValue.toInt Int64.maxValue.toInt Int64.ofInt n.toInt = some n
    rw [inRange?, if_pos ⟨n.minValue_le_toInt, n.toInt_le⟩, Int64.ofInt_toInt]

instance : LastingForm Decimal where
  lasts d := by
    change (Decimal.read d.text.toList).toOption = some d
    rw [Decimal.read_text]
    rfl

instance : NeverNull Bool := ⟨fun _ => nofun⟩
instance : NeverNull String := ⟨fun _ => nofun⟩
instance : NeverNull Int32 := ⟨fun _ => nofun⟩
instance : NeverNull Int64 := ⟨fun _ => nofun⟩
instance : NeverNull Double := ⟨fun _ => nofun⟩
instance : NeverNull Decimal := ⟨fun _ => nofun⟩

/-- Each member is the one that its name means. -/
class LawfulNames (κ : Type) [Numbered κ] : Prop where
  ofName?_name : ∀ member : κ, Numbered.ofName? (Numbered.name member) = some member

instance : LawfulNames Origin := ⟨by rintro ⟨⟩ <;> rfl⟩
instance : LawfulNames AuctionStrategy := ⟨by rintro ⟨⟩ <;> rfl⟩
instance : LawfulNames LegOpenClose := ⟨by rintro ⟨⟩ <;> rfl⟩
instance : LawfulNames TriggerMethod := ⟨by rintro ⟨⟩ <;> rfl⟩

theorem Numbered.lasting {κ : Type} [Numbered κ] [LawfulNames κ] :
    @LastingForm κ Numbered.form :=
  @LastingForm.mk κ Numbered.form LawfulNames.ofName?_name

namespace Code

variable {κ : Type} [Vocabulary κ]

/-- A text means a word that it is a spelling of, or itself if it is a spelling of none. -/
theorem ofText_cases (text : String) :
    (∃ word ∈ (Vocabulary.words : List κ),
      (Vocabulary.text word = text ∨ text ∈ Vocabulary.aliases word) ∧
        ofText text = .known word) ∨
    ((∀ word ∈ (Vocabulary.words : List κ),
      Vocabulary.text word ≠ text ∧ text ∉ Vocabulary.aliases word) ∧
        ofText text = (.other text : Code κ)) := by
  unfold ofText
  split
  · next word hfound =>
    have hspelled := List.find?_some hfound
    rw [Bool.or_eq_true, decide_eq_true_iff, List.contains_iff_mem] at hspelled
    exact .inl ⟨word, List.mem_of_find?_eq_some hfound, hspelled, rfl⟩
  · next hnone =>
    refine .inr ⟨fun word hm => ?_, rfl⟩
    have hnot := List.find?_eq_none.mp hnone word hm
    rw [Bool.or_eq_true, decide_eq_true_iff, List.contains_iff_mem] at hnot
    exact not_or.mp hnot

/-- A code that came from a text is the one that its own text means. -/
theorem ofText_text_ofText [LawfulVocabulary κ] (text : String) :
    ofText (ofText text : Code κ).text = (ofText text : Code κ) := by
  obtain ⟨word, -, -, hword⟩ | ⟨-, hother⟩ := ofText_cases (κ := κ) text
  · rw [hword]
    exact (LawfulVocabulary.isMeant word).1
  · rw [hother]
    exact hother

end Code

instance {κ : Type} [Vocabulary κ] [LawfulVocabulary κ] : SettlingForm (Code κ) where
  lasts_of_read {json code} h := by
    cases json with
    | string text =>
      cases h
      exact congrArg some (Code.ofText_text_ofText text)
    | _ => cases h

instance {κ : Type} [Vocabulary κ] : NeverNull (Code κ) := ⟨fun _ => nofun⟩

section Option

variable {α : Type} [JsonForm α]

theorem ofJson?_of_ne_null {json : Json} (h : json ≠ .null) :
    (ofJson? json : Option (Option α)) = (ofJson? json).map some := by
  cases json with
  | null => exact absurd rfl h
  | _ => rfl

@[simp] theorem lasts_none : Lasts (none : Option α) := rfl

theorem lasts_some [NeverNull α] {value : α} (h : Lasts value) : Lasts (some value) := by
  change ofJson? (toJson value) = some (some value)
  rw [ofJson?_of_ne_null (NeverNull.toJson_ne_null value), h]
  rfl

instance [LastingForm α] [NeverNull α] : LastingForm (Option α) where
  lasts value := by
    cases value with
    | none => exact lasts_none
    | some value => exact lasts_some (LastingForm.lasts value)

instance [SettlingForm α] [NeverNull α] : SettlingForm (Option α) where
  lasts_of_read {json value} h := by
    by_cases hnull : json = .null
    · subst hnull
      cases h
      exact lasts_none
    · rw [ofJson?_of_ne_null hnull] at h
      obtain ⟨inner, hinner, rfl⟩ := Option.map_eq_some_iff.mp h
      exact lasts_some (SettlingForm.lasts_of_read hinner)

end Option

section List

variable {α : Type} [JsonForm α]

/-- A list lasts if its items do. -/
theorem lasts_list {items : List α} (h : ∀ item ∈ items, Lasts item) : Lasts items := by
  change ofJsonItems? (items.map toJson) = some items
  induction items with
  | nil => rfl
  | cons item items ih =>
    obtain ⟨hitem, hitems⟩ := List.forall_mem_cons.mp h
    rw [List.map_cons, ofJsonItems?, hitem, ih hitems]
    rfl

theorem ofJsonItems?_eq_some {jsons : List Json} {items : List α}
    (h : ofJsonItems? jsons = some items) :
    ∀ item ∈ items, ∃ json, ofJson? json = some item := by
  induction jsons generalizing items with
  | nil =>
    cases h
    exact nofun
  | cons json jsons ih =>
    rw [ofJsonItems?] at h
    obtain ⟨item, hitem, hrest⟩ := Option.bind_eq_some_iff.mp h
    obtain ⟨later, hlater, he⟩ := Option.bind_eq_some_iff.mp hrest
    cases he
    exact List.forall_mem_cons.mpr ⟨⟨json, hitem⟩, ih hlater⟩

instance [LastingForm α] : LastingForm (List α) :=
  ⟨fun _ => lasts_list fun item _ => LastingForm.lasts item⟩

instance [SettlingForm α] : SettlingForm (List α) where
  lasts_of_read {json items} h := by
    cases json with
    | array jsons =>
      refine lasts_list fun item hm => ?_
      obtain ⟨_, hread⟩ := ofJsonItems?_eq_some h item hm
      exact SettlingForm.lasts_of_read hread
    | _ => cases h

end List

end BrokerWire
