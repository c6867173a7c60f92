import BrokerWire.Proofs.Wire.Value

namespace BrokerWire

open Message (fieldOctets)
open Utf8 (IsTerminable)

namespace FieldReader

variable {α β : Type}

/-- What the text of a number stands for: none is zero, and one word marks a value that is not
set. -/
inductive StandsFor (read : String → Except FieldFault α) (zero unset : α) : String → α → Prop
  | empty : StandsFor read zero unset "" zero
  | unset : StandsFor read zero unset "None" unset
  | written {text : String} {value : α} (h : read text = .ok value) :
    StandsFor read zero unset text value

/-- Whether a payload begins with a field that means a value. -/
def Begins (means : String → α → Prop) (payload : Bytes) (value : α) (rest : Bytes) : Prop :=
  ∃ text, IsTerminable text ∧ means text value ∧ payload = fieldOctets text ++ rest

/-- Whether a payload begins with an integer. -/
def BeginsInt : Bytes → Int32 → Bytes → Prop :=
  Begins (StandsFor intOf 0 unsetInt)

/-- Whether a payload begins with a long integer. -/
def BeginsLong : Bytes → Int64 → Bytes → Prop :=
  Begins (StandsFor longOf 0 unsetLong)

theorem nextField_iff {payload rest : Bytes} {text : String} :
    nextField payload = .ok (text, rest) ↔
      IsTerminable text ∧ payload = fieldOctets text ++ rest := by
  constructor
  · intro h
    obtain ⟨piece, rfl, hzero, hdecode⟩ := nextField_eq_ok h
    have hterminable := Utf8.isTerminable_of_decode hdecode hzero
    rw [String.ofList_toList] at hterminable
    refine ⟨hterminable, ?_⟩
    rw [fieldOctets, Utf8.encode_decode hdecode, List.append_assoc, List.singleton_append]
  · rintro ⟨hterminable, rfl⟩
    exact nextField_fieldOctets hterminable rest

theorem run_parsed_iff {parse : String → Except FieldFault α} {means : String → α → Prop}
    (h : ∀ text value, parse text = .ok value ↔ means text value) {payload rest : Bytes}
    {value : α} :
    (parsed parse).run payload = (.ok value, rest) ↔ Begins means payload value rest := by
  constructor
  · intro hrun
    rw [parsed, run] at hrun
    cases hfield : nextField payload with
    | error fault =>
      rw [hfield] at hrun
      cases hrun
    | ok step =>
      obtain ⟨text, behind⟩ := step
      obtain ⟨hterminable, hpayload⟩ := nextField_iff.mp hfield
      rw [hfield] at hrun
      dsimp only at hrun
      cases hparse : parse text with
      | error fault =>
        rw [hparse] at hrun
        cases hrun
      | ok other =>
        rw [hparse] at hrun
        cases hrun
        exact ⟨text, hterminable, (h text value).mp hparse, hpayload⟩
  · rintro ⟨text, hterminable, hmeans, rfl⟩
    exact run_parsed hterminable ((h text value).mpr hmeans) rest

/-- The texts that are read apart from the others are no numbers. -/
theorem standsFor_iff {read : String → Except FieldFault α} {zero unset : α}
    (hempty : ∀ value, read "" ≠ .ok value) (hunset : ∀ value, read "None" ≠ .ok value)
    (text : String) (value : α) :
    (if text = "" then .ok zero else if text = "None" then .ok unset else read text) = .ok value ↔
      StandsFor read zero unset text value := by
  constructor
  · intro h
    split at h
    · next he =>
      cases h
      rw [he]
      exact .empty
    split at h
    · next hu =>
      cases h
      rw [hu]
      exact .unset
    · exact .written h
  · intro h
    cases h with
    | empty => rfl
    | unset => rfl
    | written hread =>
      have hne : text ≠ "" := by
        rintro rfl
        exact hempty value hread
      have hset : text ≠ "None" := by
        rintro rfl
        exact hunset value hread
      rw [if_neg hne, if_neg hset, hread]

theorem run_int_iff {payload rest : Bytes} {n : Int32} :
    int.run payload = (.ok n, rest) ↔ BeginsInt payload n rest :=
  run_parsed_iff (standsFor_iff (by rintro value ⟨⟩) (by rintro value ⟨⟩))

theorem run_long_iff {payload rest : Bytes} {n : Int64} :
    long.run payload = (.ok n, rest) ↔ BeginsLong payload n rest :=
  run_parsed_iff (standsFor_iff (by rintro value ⟨⟩) (by rintro value ⟨⟩))

theorem bind_eq (r : FieldReader α) (f : α → FieldReader β) : r >>= f = r.bind f :=
  rfl

theorem pure_eq (value : α) : (pure value : FieldReader α) = .done value :=
  rfl

theorem run_bind_eq_ok {r : FieldReader α} {f : α → FieldReader β} {payload unread : Bytes}
    {answer : β} :
    (r.bind f).run payload = (.ok answer, unread) ↔
      ∃ value rest, r.run payload = (.ok value, rest) ∧
        (f value).run rest = (.ok answer, unread) := by
  rw [run_bind]
  constructor
  · intro h
    cases hr : r.run payload with
    | mk outcome rest =>
      rw [hr] at h
      cases outcome with
      | error fault => cases h
      | ok value => exact ⟨value, rest, rfl, h⟩
  · rintro ⟨value, rest, hr, hf⟩
    rw [hr]
    exact hf

/-- Rows at the front of a payload, each read from where the one before it ended. -/
inductive Rows (item : FieldReader α) : Bytes → List α → Bytes → Prop
  | nil {payload : Bytes} : Rows item payload [] payload
  | cons {payload behind unread : Bytes} {value : α} {values : List α}
    (hrow : item.run payload = (.ok value, behind)) (hrest : Rows item behind values unread) :
    Rows item payload (value :: values) unread

theorem rows_of_listFrom {item : FieldReader α} {before all : List α} {count : Nat}
    {payload unread : Bytes} (h : (listFrom item before count).run payload = (.ok all, unread)) :
    ∃ values, values.length = count ∧ all = before.reverse ++ values ∧
      Rows item payload values unread := by
  induction count generalizing before payload with
  | zero =>
    cases h
    exact ⟨[], rfl, (List.append_nil _).symm, .nil⟩
  | succ count ih =>
    obtain ⟨value, behind, hrow, hrest⟩ := run_bind_eq_ok.mp h
    obtain ⟨values, hlength, hall, hrows⟩ := ih hrest
    refine ⟨value :: values, congrArg Nat.succ hlength, ?_, .cons hrow hrows⟩
    rw [hall, List.reverse_cons, List.append_assoc, List.singleton_append]

theorem rows_of_list {item : FieldReader α} {values : List α} {count : Nat}
    {payload unread : Bytes} (h : (list count item).run payload = (.ok values, unread)) :
    values.length = count ∧ Rows item payload values unread := by
  obtain ⟨others, hlength, hall, hrows⟩ := rows_of_listFrom h
  rw [List.reverse_nil, List.nil_append] at hall
  subst hall
  exact ⟨hlength, hrows⟩

end FieldReader

end BrokerWire
