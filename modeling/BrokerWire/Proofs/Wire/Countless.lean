import BrokerWire.Wire.Value

namespace BrokerWire.FieldReader

variable {α β : Type}

/-- Whether a reader asks for no number of items: it refuses no number for being negative. -/
class inductive Countless {α : Type} : FieldReader α → Prop
  | done (value : α) : Countless (.done value)
  | fail {fault : FieldFault} (h : ∀ n, fault ≠ .negativeCount n) : Countless (.fail fault)
  | field {next : String → FieldReader α} (h : ∀ text, Countless (next text)) :
    Countless (.field next)

namespace Countless

attribute [instance] done

instance pure (value : α) : Countless (Pure.pure value : FieldReader α) :=
  done value

theorem of_bind {r : FieldReader α} {next : α → FieldReader β} (hr : Countless r)
    (hnext : ∀ value, Countless (next value)) : Countless (r.bind next) := by
  induction hr with
  | done value => exact hnext value
  | fail h => exact .fail h
  | field _ ih => exact .field fun text => ih text

instance bind (r : FieldReader α) (next : α → FieldReader β) [hr : Countless r]
    [hnext : ∀ value, Countless (next value)] : Countless (r >>= next) :=
  of_bind hr hnext

instance map (f : α → β) (r : FieldReader α) [hr : Countless r] : Countless (f <$> r) :=
  of_bind hr fun value => done (f value)

instance ite (p : Prop) [Decidable p] (r s : FieldReader α) [hr : Countless r]
    [hs : Countless s] : Countless (if p then r else s) := by
  split
  · exact hr
  · exact hs

instance whenever (condition : Bool) (r : FieldReader α) (other : α) [hr : Countless r] :
    Countless (whenever condition r other) := by
  cases condition with
  | true => exact hr
  | false => exact done other

instance text : Countless text :=
  field done

instance skip : Countless skip :=
  field fun _ => done ()

instance skips (n : Nat) : Countless (skips n) := by
  induction n with
  | zero => exact done ()
  | succ n ih => exact field fun _ => ih

theorem listFrom {item : FieldReader α} (hitem : Countless item) (before : List α) (n : Nat) :
    Countless (listFrom item before n) := by
  induction n generalizing before with
  | zero => exact done before.reverse
  | succ n ih => exact of_bind hitem fun value => ih (value :: before)

instance list (n : Nat) (item : FieldReader α) [hitem : Countless item] :
    Countless (list n item) :=
  listFrom hitem [] n

instance unescaped : Countless unescaped :=
  field fun text => done (String.ofList (Escape.unescape text.toList))

instance bool : Countless bool :=
  field fun text => done (decide (text ≠ "" ∧ text ≠ "0"))

instance code {κ : Type} [Vocabulary κ] : Countless (code : FieldReader (Option (Code κ))) :=
  field fun text => done (if text = "" then none else some (Code.ofText text))

end Countless

/-- Whether the fault of a reading, if there is one, is none of a number of items. -/
class IsValue (outcome : Except FieldFault α) : Prop where
  ne_negativeCount : ∀ n, outcome ≠ .error (.negativeCount n)

namespace IsValue

instance ok (value : α) : IsValue (.ok value) :=
  ⟨nofun⟩

instance ite (p : Prop) [Decidable p] (outcome other : Except FieldFault α)
    [h : IsValue outcome] [hother : IsValue other] : IsValue (if p then outcome else other) := by
  split
  · exact h
  · exact hother

instance map (f : α → β) (outcome : Except FieldFault α) [h : IsValue outcome] :
    IsValue (outcome.map f) := by
  cases outcome with
  | ok value => exact ok (f value)
  | error fault => exact ⟨fun n he => h.ne_negativeCount n (congrArg _ (Except.error.inj he))⟩

instance intOf (text : String) : IsValue (intOf text) := by
  unfold FieldReader.intOf
  cases Number.readInt32 text.toList <;> exact ⟨nofun⟩

instance longOf (text : String) : IsValue (longOf text) := by
  unfold FieldReader.longOf
  cases Number.readInt64 text.toList <;> exact ⟨nofun⟩

instance doubleOf (text : String) : IsValue (doubleOf text) := by
  unfold FieldReader.doubleOf
  cases Double.read text.toList <;> exact ⟨nofun⟩

instance decimalOf (text : String) : IsValue (decimalOf text) := by
  unfold FieldReader.decimalOf
  cases Decimal.read text.toList <;> exact ⟨nofun⟩

theorem countless {outcome : Except FieldFault α} (h : IsValue outcome) :
    Countless (ofExcept outcome) := by
  cases outcome with
  | ok value => exact .done value
  | error fault => exact .fail fun n he => h.ne_negativeCount n (congrArg _ he)

end IsValue

namespace Countless

theorem parsed {parse : String → Except FieldFault α} (h : ∀ text, IsValue (parse text)) :
    Countless (parsed parse) :=
  field fun text => (h text).countless

instance int : Countless int :=
  parsed fun _ => inferInstance

instance optionalInt : Countless optionalInt :=
  parsed fun _ => inferInstance

instance long : Countless long :=
  parsed fun _ => inferInstance

instance optionalLong : Countless optionalLong :=
  parsed fun _ => inferInstance

instance double : Countless double :=
  parsed fun _ => inferInstance

instance optionalDouble : Countless optionalDouble :=
  parsed fun _ => inferInstance

instance decimal : Countless decimal :=
  parsed fun _ => inferInstance

instance number {κ : Type} [Numbered κ] (other : κ) : Countless (number other) :=
  of_bind int fun n => done ((Numbered.ofCode? n).getD other)

instance tickType : Countless tickType :=
  number TickType.notSet

end Countless

end BrokerWire.FieldReader
