import BrokerWire.Code.Inbound
import BrokerWire.Code.Numbers
import BrokerWire.Code.TickType
import BrokerWire.Code.Words
import BrokerWire.Proofs.Text.Utf8

namespace BrokerWire

/-- Each word is the one that its text means, and its text can fill a field. -/
class LawfulVocabulary (κ : Type) [Vocabulary κ] : Prop where
  isMeant : ∀ word : κ, Code.ofText (Vocabulary.text word) = .known word ∧
    Vocabulary.text word ≠ "" ∧ Utf8.IsTerminable (Vocabulary.text word)

instance : LawfulVocabulary Security := ⟨by rintro ⟨⟩ <;> decide⟩
instance : LawfulVocabulary OptionRight := ⟨by rintro ⟨⟩ <;> decide⟩
instance : LawfulVocabulary SecurityIdScheme := ⟨by rintro ⟨⟩ <;> decide⟩
instance : LawfulVocabulary Side := ⟨by rintro ⟨⟩ <;> decide⟩
instance : LawfulVocabulary OrderKind := ⟨by rintro ⟨⟩ <;> decide⟩
instance : LawfulVocabulary TimeInForce := ⟨by rintro ⟨⟩ <;> decide⟩
instance : LawfulVocabulary FundAsset := ⟨by rintro ⟨⟩ <;> decide⟩
instance : LawfulVocabulary FundPayout := ⟨by rintro ⟨⟩ <;> decide⟩

/-- Each member is the one that its code means. -/
class LawfulNumbered (κ : Type) [Numbered κ] : Prop where
  ofCode?_code : ∀ member : κ, Numbered.ofCode? (Numbered.code member) = some member

instance : LawfulNumbered Origin := ⟨by rintro ⟨⟩ <;> rfl⟩
instance : LawfulNumbered AuctionStrategy := ⟨by rintro ⟨⟩ <;> rfl⟩
instance : LawfulNumbered LegOpenClose := ⟨by rintro ⟨⟩ <;> rfl⟩
instance : LawfulNumbered MarketDataKind := ⟨by rintro ⟨⟩ <;> rfl⟩
instance : LawfulNumbered TriggerMethod := ⟨by rintro ⟨⟩ <;> rfl⟩
instance : LawfulNumbered ConditionType := ⟨by rintro ⟨⟩ <;> rfl⟩
instance : LawfulNumbered TickType := ⟨by rintro ⟨⟩ <;> rfl⟩
instance : LawfulNumbered Inbound := ⟨by rintro ⟨⟩ <;> rfl⟩

namespace Code

variable {κ : Type} [Vocabulary κ]

/-- Whether a code is the one that its text means: a known word, or a text that can fill a field and
that no word claims. -/
def IsCanonical : Code κ → Prop
  | .known _ => True
  | .other text =>
    text ≠ "" ∧ Utf8.IsTerminable text ∧
      ∀ word ∈ (Vocabulary.words : List κ),
        Vocabulary.text word ≠ text ∧ text ∉ Vocabulary.aliases word

instance : DecidablePred (IsCanonical (κ := κ))
  | .known _ => .isTrue trivial
  | .other text => by unfold IsCanonical; infer_instance

theorem ofText_text [LawfulVocabulary κ] {c : Code κ} (h : c.IsCanonical) : ofText c.text = c := by
  cases c with
  | known word => exact (LawfulVocabulary.isMeant word).1
  | other text =>
    obtain ⟨-, -, hfree⟩ := h
    unfold ofText
    split
    · next word hfound =>
      have hclaimed := List.find?_some hfound
      have hnot := hfree word (List.mem_of_find?_eq_some hfound)
      simp [Code.text, hnot] at hclaimed
    · rfl

theorem text_ne_empty [LawfulVocabulary κ] {c : Code κ} (h : c.IsCanonical) : c.text ≠ "" := by
  cases c with
  | known word => exact (LawfulVocabulary.isMeant word).2.1
  | other text => exact h.1

theorem text_isTerminable [LawfulVocabulary κ] {c : Code κ} (h : c.IsCanonical) :
    Utf8.IsTerminable c.text := by
  cases c with
  | known word => exact (LawfulVocabulary.isMeant word).2.2
  | other text => exact h.2.1

end Code

end BrokerWire
