import BrokerWire.Code.Outbound
import BrokerWire.Event.Contract
import BrokerWire.Proofs.Wire.Framing
import BrokerWire.Proofs.Wire.Value
import Mathlib.Algebra.Group.Action.Defs

namespace BrokerWire

open Message (fieldOctets)
open Utf8 (IsTerminable)

/-- The kinds of value that messages carry. A quantity is a decimal that keeps its trailing zeros;
the reader of an enumeration answers `other` to a code that it does not know. -/
inductive Kind : Type 1 where
  | int
  | long
  | bool
  | text
  | double
  | decimal
  | code (κ : Type) [Vocabulary κ] [LawfulVocabulary κ]
  | number (κ : Type) [Numbered κ] [LawfulNumbered κ] (other : κ)
  | optionalInt
  | optionalLong
  | optionalDouble
  | optionalDecimal
  | quantity
  | optionalCode (κ : Type) [Vocabulary κ] [LawfulVocabulary κ]
  | count
  | pairs

namespace Kind

/-- What is written. -/
abbrev Value : Kind → Type
  | int => Int32
  | long => Int64
  | bool => Bool
  | text => String
  | double => Double
  | decimal => Decimal
  | code κ => Code κ
  | number κ _ => κ
  | optionalInt => Option Int32
  | optionalLong => Option Int64
  | optionalDouble => Option Double
  | optionalDecimal => Option Decimal
  | quantity => Option Decimal
  | optionalCode κ => Option (Code κ)
  | count => Nat
  | pairs => List TagValue

/-- What is read. Decimals and text codes are always read as values that may be unset. -/
abbrev Answer : Kind → Type
  | decimal => Option Decimal
  | code κ => Option (Code κ)
  | kind => kind.Value

/-- The fields of a value. -/
def fields : (kind : Kind) → kind.Value → List String
  | int, n => [Field.int n]
  | long, n => [Field.long n]
  | bool, flag => [Field.bool flag]
  | text, t => [t]
  | double, x => [Field.double x]
  | decimal, d => [Field.decimal d]
  | code _, c => [Field.code c]
  | number _ _, member => [Field.number member]
  | optionalInt, n => [Field.optional Field.int n]
  | optionalLong, n => [Field.optional Field.long n]
  | optionalDouble, x => [Field.optional Field.double x]
  | optionalDecimal, d => [Field.optional Field.decimal d]
  | quantity, d => [Field.optional Decimal.text d]
  | optionalCode _, c => [Field.optional Field.code c]
  | count, n => [Field.int (Int32.ofNat n)]
  | pairs, params => Field.pairs params

def reader : (kind : Kind) → FieldReader kind.Answer
  | int => FieldReader.int
  | long => FieldReader.long
  | bool => FieldReader.bool
  | text => FieldReader.text
  | double => FieldReader.double
  | decimal => FieldReader.decimal
  | code _ => FieldReader.code
  | number _ other => FieldReader.number other
  | optionalInt => FieldReader.optionalInt
  | optionalLong => FieldReader.optionalLong
  | optionalDouble => FieldReader.optionalDouble
  | optionalDecimal => FieldReader.decimal
  | quantity => FieldReader.decimal
  | optionalCode _ => FieldReader.code
  | count => FieldReader.count
  | pairs => FieldReader.counted Event.readTagValue

/-- The values whose fields can be told apart from those around them and from other values. -/
def Admits : (kind : Kind) → kind.Value → Prop
  | text, t => IsTerminable t
  | code _, c => c.IsCanonical
  | optionalCode _, c => ∀ word ∈ c, word.IsCanonical
  | count, n => n < 2 ^ 31
  | pairs, params => ∀ p ∈ params, IsTerminable p.tag ∧ IsTerminable p.value
  | _, _ => True

instance (kind : Kind) (value : kind.Value) : Decidable (kind.Admits value) :=
  match kind, value with
  | text, t => inferInstanceAs (Decidable (IsTerminable t))
  | code _, c => inferInstanceAs (Decidable c.IsCanonical)
  | optionalCode _, c => inferInstanceAs (Decidable (∀ word ∈ c, word.IsCanonical))
  | count, n => inferInstanceAs (Decidable (n < 2 ^ 31))
  | pairs, params =>
    inferInstanceAs (Decidable (∀ p ∈ params, IsTerminable p.tag ∧ IsTerminable p.value))
  | int, _ | long, _ | bool, _ | double, _ | decimal, _ | number _ _, _ | optionalInt, _
  | optionalLong, _ | optionalDouble, _ | optionalDecimal, _ | quantity, _ => .isTrue trivial

/-- What reading a value answers: the value itself, unless it is the mark of an unset one. Decimals
come back without trailing zeros. -/
def readBack : (kind : Kind) → kind.Value → kind.Answer
  | int, n => n
  | long, n => n
  | bool, flag => flag
  | text, t => t
  | double, x => x
  | decimal, d => (some d.normalize).filter (· ∉ unsetDecimals)
  | code _, c => some c
  | number _ _, member => member
  | optionalInt, n => n.filter (· ≠ unsetInt)
  | optionalLong, n => n.filter (· ≠ unsetLong)
  | optionalDouble, x => x.filter (· ≠ unsetDouble)
  | optionalDecimal, d => (d.map Decimal.normalize).filter (· ∉ unsetDecimals)
  | quantity, d => d.filter (· ∉ unsetDecimals)
  | optionalCode _, c => c
  | count, n => n
  | pairs, params => params

theorem run_single {α : Type} {reader : FieldReader α} {t : String} {answer : α} {rest : Bytes}
    (h : reader.run (fieldOctets t ++ rest) = (.ok answer, rest)) :
    reader.run ([t].flatMap fieldOctets ++ rest) = (.ok answer, rest) := by
  rwa [List.flatMap_singleton]

theorem run_pairs {params : List TagValue}
    (hparams : ∀ p ∈ params, IsTerminable p.tag ∧ IsTerminable p.value)
    (hfields : (Field.pairs params).length ≤ 2 ^ 31) (rest : Bytes) :
    (FieldReader.counted Event.readTagValue).run
      ((Field.pairs params).flatMap fieldOctets ++ rest) = (.ok params, rest) := by
  have hlength : params.length < 2 ^ 31 := by
    have htwo (p : TagValue) : [p.tag, p.value].length = 2 := rfl
    simp only [Field.pairs, List.length_cons, List.length_flatMap, htwo, List.map_const',
      List.sum_replicate, smul_eq_mul] at hfields
    omega
  have hpair (p : TagValue) (hp : p ∈ params) (rest : Bytes) :
      Event.readTagValue.run ([p.tag, p.value].flatMap fieldOctets ++ rest) = (.ok p, rest) := by
    obtain ⟨htag, hvalue⟩ := hparams p hp
    rw [List.flatMap_cons, List.flatMap_singleton, List.append_assoc]
    exact (FieldReader.run_field htag _ _).trans (FieldReader.run_field hvalue _ rest)
  rw [Field.pairs, List.flatMap_cons, List.append_assoc, List.flatMap_assoc]
  exact FieldReader.run_counted hlength hpair rest

/-- Each kind of value is read back from its own fields, whatever follows them. -/
theorem run_reader (kind : Kind) {value : kind.Value} (h : kind.Admits value)
    (hfields : (kind.fields value).length ≤ 2 ^ 31) (rest : Bytes) :
    kind.reader.run ((kind.fields value).flatMap fieldOctets ++ rest) =
      (.ok (kind.readBack value), rest) := by
  cases kind with
  | int => exact run_single (FieldReader.run_int value rest)
  | long => exact run_single (FieldReader.run_long value rest)
  | bool => exact run_single (FieldReader.run_bool value rest)
  | text => exact run_single (FieldReader.run_field h .done rest)
  | double => exact run_single (FieldReader.run_double value rest)
  | decimal => exact run_single (FieldReader.run_decimal (some value.normalize) rest)
  | code κ =>
    have hword : ∀ word ∈ some value, word.IsCanonical := by
      rintro _ ⟨⟩
      exact h
    exact run_single (FieldReader.run_code hword rest)
  | number κ other => exact run_single (FieldReader.run_number other value rest)
  | optionalInt => exact run_single (FieldReader.run_optionalInt value rest)
  | optionalLong => exact run_single (FieldReader.run_optionalLong value rest)
  | optionalDouble => exact run_single (FieldReader.run_optionalDouble value rest)
  | optionalDecimal =>
    have hfield : fields optionalDecimal value = fields quantity (value.map Decimal.normalize) := by
      cases value <;> rfl
    rw [hfield]
    exact run_single (FieldReader.run_decimal (value.map Decimal.normalize) rest)
  | quantity => exact run_single (FieldReader.run_decimal value rest)
  | optionalCode κ => exact run_single (FieldReader.run_code h rest)
  | count => exact run_single (FieldReader.run_count h rest)
  | pairs => exact run_pairs h hfields rest

end Kind

structure Item : Type 1 where
  kind : Kind
  value : kind.Value

namespace Item

def Admits (item : Item) : Prop :=
  item.kind.Admits item.value

def fields (item : Item) : List String :=
  item.kind.fields item.value

/-- The octets of an item's fields. -/
def octets (item : Item) : Bytes :=
  item.fields.flatMap fieldOctets

/-- The message of a kind with items in order. -/
def message (id : Int32) (items : List Item) : Message :=
  ⟨Field.int id :: items.flatMap fields⟩

/-- One answer for each kind. -/
def Answers : List Kind → Type
  | [] => Unit
  | kind :: kinds => kind.Answer × Answers kinds

/-- Reads a value of each kind, in order. -/
def readAll : (kinds : List Kind) → FieldReader (Answers kinds)
  | [] => .done ()
  | kind :: kinds => do
    let answer ← kind.reader
    let answers ← readAll kinds
    return (answer, answers)

/-- Reads the number of a message, and a value of each kind. -/
def readMessage (kinds : List Kind) : FieldReader (Int32 × Answers kinds) := do
  let id ← FieldReader.int
  let answers ← readAll kinds
  return (id, answers)

def answers : (items : List Item) → Answers (items.map kind)
  | [] => ()
  | item :: items => (item.kind.readBack item.value, answers items)

theorem payload_message (id : Int32) (items : List Item) :
    (message id items).payload = fieldOctets (Field.int id) ++ items.flatMap octets := by
  rw [message, Message.payload, List.flatMap_cons, List.flatMap_assoc]
  rfl

/-- Every field has its zero octet, so a payload has at least as many octets as fields. -/
theorem length_le_length_octets (fields : List String) :
    fields.length ≤ (fields.flatMap fieldOctets).length := by
  induction fields with
  | nil => exact Nat.le_refl 0
  | cons t fields ih =>
    rw [List.flatMap_cons, List.length_append, List.length_cons, Message.length_fieldOctets]
    omega

theorem length_octets_le {items : List Item} {item : Item} (h : item ∈ items) :
    item.octets.length ≤ (items.flatMap octets).length := by
  obtain ⟨before, behind, rfl⟩ := List.append_of_mem h
  rw [List.flatMap_append, List.flatMap_cons, List.length_append, List.length_append]
  omega

/-- The answers come back in order, and what follows the items stays unread. -/
theorem run_readAll {items : List Item} (h : ∀ item ∈ items, item.Admits)
    (hfields : ∀ item ∈ items, item.fields.length ≤ 2 ^ 31) (rest : Bytes) :
    (readAll (items.map kind)).run (items.flatMap octets ++ rest) = (.ok (answers items), rest) := by
  induction items with
  | nil => rfl
  | cons item items ih =>
    have hread := item.kind.run_reader (h item List.mem_cons_self)
      (hfields item List.mem_cons_self) (items.flatMap octets ++ rest)
    have hrest := ih (fun other hm => h other (List.mem_cons_of_mem item hm))
      (fun other hm => hfields other (List.mem_cons_of_mem item hm))
    rw [List.flatMap_cons, List.append_assoc]
    change (item.kind.reader.bind fun answer =>
      (readAll (items.map kind)).bind fun answers => .done (answer, answers)).run _ = _
    rw [FieldReader.run_bind, octets, fields, hread]
    dsimp only
    rw [FieldReader.run_bind, hrest]
    rfl

/-- A frame of typed values is the frame of their fields, a scanner hands out its payload, and the
values come back in order with nothing left unread. Unset values are never mistaken for zero. -/
theorem read_encode {id : Int32} {items : List Item} {frame : Bytes}
    (h : ∀ item ∈ items, item.Admits) (hframe : (message id items).encode = .ok frame) :
    Frame.encode (message id items).payload = .ok frame ∧
      (Scanner.push {} frame).next = (.ok (some (message id items).payload), {}) ∧
      (readMessage (items.map kind)).run (message id items).payload =
        (.ok (id, answers items), []) ∧
      Kind.optionalInt.readBack (some 0) ≠ Kind.optionalInt.readBack none ∧
      Kind.optionalDouble.readBack (some .zero) ≠ Kind.optionalDouble.readBack none ∧
      Kind.optionalDecimal.readBack (some .zero) ≠ Kind.optionalDecimal.readBack none := by
  rw [Message.encode_eq] at hframe
  obtain ⟨hlength, rfl⟩ := (Frame.encode_eq_ok_iff _ _).mp hframe
  refine ⟨hframe, ?_, ?_, by decide, by decide, by decide⟩
  · have hnext := Scanner.next_octets (message id items).payload [] hlength
    rwa [List.append_nil] at hnext
  · have hfields (item : Item) (hm : item ∈ items) : item.fields.length ≤ 2 ^ 31 := by
      have hpart := length_octets_le hm
      have hfew := length_le_length_octets item.fields
      rw [payload_message, List.length_append] at hlength
      change _ ≤ 16777215 at hlength
      change item.fields.length ≤ item.octets.length at hfew
      omega
    have hread := run_readAll h hfields []
    rw [List.append_nil] at hread
    rw [payload_message]
    change (FieldReader.int.bind fun id =>
      (readAll (items.map kind)).bind fun answers => .done (id, answers)).run _ = _
    rw [FieldReader.run_bind, FieldReader.run_int]
    dsimp only
    rw [FieldReader.run_bind, hread]
    rfl

/-- The values of an order at a gateway that knows a new side. -/
def newSideOrder : List Item :=
  [⟨.optionalInt, some 0⟩, ⟨.optionalInt, some unsetInt⟩,
    ⟨.decimal, ⟨150, 2, by decide, by decide⟩⟩, ⟨.code Side, .other "AUTO"⟩,
    ⟨.pairs, [⟨"account", "DU1"⟩]⟩]

/-- Zero comes back as zero, the mark of an unset integer as unset, and `1.50` as `1.5`. -/
theorem read_encode_newSideOrder :
    (readMessage [.optionalInt, .optionalInt, .decimal, .code Side, .pairs]).run
        (message 3 newSideOrder).payload =
      (.ok (3, some 0, none, some ⟨15, 1, by decide, by decide⟩, some (.other "AUTO"),
        [⟨"account", "DU1"⟩], ()), []) := by
  have hitems : ∀ item ∈ newSideOrder, item.Admits := by
    simp only [newSideOrder, List.forall_mem_cons, List.not_mem_nil, false_imp_iff, implies_true,
      and_true, Admits, Kind.Admits, true_and]
    decide
  have hlength : (message 3 newSideOrder).payload.length ≤ maxPayload := by
    rw [Message.length_payload]
    decide +kernel
  have hframe := (Message.encode_eq (message 3 newSideOrder)).trans
    ((Frame.encode_eq_ok_iff _ _).mpr ⟨hlength, rfl⟩)
  exact (read_encode hitems hframe).2.2.1

end Item

end BrokerWire
