import BrokerWire.Proofs.Code.Lawful
import BrokerWire.Proofs.Number.Decimal
import BrokerWire.Proofs.Number.Double.Text
import BrokerWire.Proofs.Wire.Cursor
import BrokerWire.Wire.Message
import BrokerWire.Wire.Value

namespace BrokerWire

open Message (fieldOctets)
open Utf8 (IsTerminable)

/-- The decimals that mark a quantity as unset. -/
def unsetDecimals : List Decimal :=
  [⟨2147483647, 0, by decide, Nat.zero_le Decimal.maxScale⟩,
    ⟨9223372036854775807, 0, by decide, Nat.zero_le Decimal.maxScale⟩,
    ⟨-9223372036854775808, 0, by decide, Nat.zero_le Decimal.maxScale⟩]

namespace FieldReader

variable {α : Type}

/-- A text that is parsed as a value is read as that value. -/
theorem run_parsed {t : String} (h : IsTerminable t) {parse : String → Except FieldFault α}
    {value : α} (hparse : parse t = .ok value) (rest : Bytes) :
    (parsed parse).run (fieldOctets t ++ rest) = (.ok value, rest) := by
  rw [parsed, run_field h, hparse]
  rfl

theorem intOf_int (n : Int32) : intOf (Field.int n) = .ok n := by
  rw [intOf, Field.int, String.toList_ofList, Number.readInt32_integerText]
  rfl

theorem longOf_long (n : Int64) : longOf (Field.long n) = .ok n := by
  rw [longOf, Field.long, String.toList_ofList, Number.readInt64_integerText]
  rfl

theorem doubleOf_text (x : Double) : doubleOf x.text = .ok x := by
  rw [doubleOf, Double.read_text]
  rfl

theorem decimalOf_text (d : Decimal) : decimalOf d.text = .ok d := by
  rw [decimalOf, Decimal.read_text]
  rfl

theorem isTerminable_int (n : Int32) : IsTerminable (Field.int n) := by
  intro c hm
  rw [Field.int, String.toList_ofList] at hm
  exact Number.toNat_ne_zero_of_mem_integerText hm

theorem isTerminable_long (n : Int64) : IsTerminable (Field.long n) := by
  intro c hm
  rw [Field.long, String.toList_ofList] at hm
  exact Number.toNat_ne_zero_of_mem_integerText hm

theorem isTerminable_double (x : Double) : IsTerminable (Field.double x) := by
  unfold Field.double
  split
  · decide
  · exact x.text_isTerminable

/-- The text of a value is none of the texts that are read otherwise: read as a number, it gives the
value. -/
theorem int_ne_of_intOf {n : Int32} {t : String} (h : intOf t ≠ .ok n) : Field.int n ≠ t := by
  rintro rfl
  exact h (intOf_int n)

theorem long_ne_of_longOf {n : Int64} {t : String} (h : longOf t ≠ .ok n) : Field.long n ≠ t := by
  rintro rfl
  exact h (longOf_long n)

theorem text_ne_of_doubleOf {x : Double} {t : String} (h : doubleOf t ≠ .ok x) : x.text ≠ t := by
  rintro rfl
  exact h (doubleOf_text x)

theorem text_ne_of_decimalOf {d : Decimal} {t : String} (h : decimalOf t ≠ .ok d) : d.text ≠ t := by
  rintro rfl
  exact h (decimalOf_text d)

theorem run_int (n : Int32) (rest : Bytes) :
    int.run (fieldOctets (Field.int n) ++ rest) = (.ok n, rest) := by
  apply run_parsed (isTerminable_int n)
  rw [if_neg (int_ne_of_intOf (by rintro ⟨⟩)), if_neg (int_ne_of_intOf (by rintro ⟨⟩)), intOf_int]

theorem run_long (n : Int64) (rest : Bytes) :
    long.run (fieldOctets (Field.long n) ++ rest) = (.ok n, rest) := by
  apply run_parsed (isTerminable_long n)
  rw [if_neg (long_ne_of_longOf (by rintro ⟨⟩)), if_neg (long_ne_of_longOf (by rintro ⟨⟩)),
    longOf_long]

theorem run_bool (flag : Bool) (rest : Bytes) :
    bool.run (fieldOctets (Field.bool flag) ++ rest) = (.ok flag, rest) := by
  rw [bool, run_field (by cases flag <;> decide)]
  cases flag <;> rfl

theorem isTerminable_optional {β : Type} {text : β → String} (h : ∀ value, IsTerminable (text value))
    (value : Option β) : IsTerminable (Field.optional text value) := by
  cases value with
  | none => exact fun c hm => absurd hm List.not_mem_nil
  | some value => exact h value

theorem run_optionalInt (n : Option Int32) (rest : Bytes) :
    optionalInt.run (fieldOctets (Field.optional Field.int n) ++ rest) =
      (.ok (n.filter (· ≠ unsetInt)), rest) := by
  apply run_parsed (isTerminable_optional isTerminable_int n)
  cases n with
  | none => rfl
  | some n =>
    by_cases hn : n = unsetInt
    · subst hn
      rfl
    · have hplain : ¬ (Field.int n = "" ∨ Field.int n = "None" ∨ Field.int n = "2147483647") := by
        rintro (h | h | h) <;> refine int_ne_of_intOf ?_ h <;> rintro ⟨⟩
        exact hn rfl
      rw [Field.optional, if_neg hplain, intOf_int]
      simp [Except.map, Option.filter, hn]

theorem run_optionalLong (n : Option Int64) (rest : Bytes) :
    optionalLong.run (fieldOctets (Field.optional Field.long n) ++ rest) =
      (.ok (n.filter (· ≠ unsetLong)), rest) := by
  apply run_parsed (isTerminable_optional isTerminable_long n)
  cases n with
  | none => rfl
  | some n =>
    by_cases hn : n = unsetLong
    · subst hn
      rfl
    · have hplain :
          ¬ (Field.long n = "" ∨ Field.long n = "None" ∨ Field.long n = "9223372036854775807") := by
        rintro (h | h | h) <;> refine long_ne_of_longOf ?_ h <;> rintro ⟨⟩
        exact hn rfl
      rw [Field.optional, if_neg hplain, longOf_long]
      simp [Except.map, Option.filter, hn]

theorem run_double (x : Double) (rest : Bytes) :
    double.run (fieldOctets (Field.double x) ++ rest) = (.ok x, rest) := by
  apply run_parsed (isTerminable_double x)
  by_cases hx : x = .infinity false
  · subst hx
    rfl
  · have hempty : x.text ≠ "" := text_ne_of_doubleOf (by rintro ⟨⟩)
    have hnone : x.text ≠ "None" := text_ne_of_doubleOf (by rintro ⟨⟩)
    have hinfinity : x.text ≠ "Infinity" := by
      apply text_ne_of_doubleOf
      rintro ⟨⟩
      exact hx rfl
    rw [Field.double, if_neg hx, if_neg hempty, if_neg hnone, if_neg hinfinity, doubleOf_text]

theorem doubleOf_marker : doubleOf "1.7976931348623157E308" = .ok unsetDouble := by
  decide +kernel

/-- Only the mark is the same number as the mark: it is not zero. -/
theorem sameNumber_unsetDouble (x : Double) :
    x.sameNumber unsetDouble = true ↔ x = unsetDouble := by
  cases x with
  | nan => simp [Double.sameNumber, unsetDouble, Double.largest]
  | infinity negative => simp [Double.sameNumber, unsetDouble, Double.largest]
  | finite negative rank =>
    have hsome : Double.rankCount - 1 ≠ 0 := by decide
    simp only [Double.sameNumber, unsetDouble, Double.largest, Bool.and_eq_true, Bool.or_eq_true,
      beq_iff_eq, Double.finite.injEq]
    constructor
    · rintro ⟨rfl, hsign | hzero⟩
      · exact ⟨hsign, rfl⟩
      · exact absurd hzero hsome
    · rintro ⟨rfl, rfl⟩
      exact ⟨rfl, .inl rfl⟩

theorem run_optionalDouble (x : Option Double) (rest : Bytes) :
    optionalDouble.run (fieldOctets (Field.optional Field.double x) ++ rest) =
      (.ok (x.filter (· ≠ unsetDouble)), rest) := by
  apply run_parsed (isTerminable_optional isTerminable_double x)
  cases x with
  | none => rfl
  | some x =>
    by_cases hx : x = .infinity false
    · subst hx
      rfl
    · have hinfinity : x.text ≠ "Infinity" := by
        apply text_ne_of_doubleOf
        rintro ⟨⟩
        exact hx rfl
      have hmarker (h : x.text = "" ∨ x.text = "None" ∨ x.text = "1.7976931348623157E308") :
          x = unsetDouble := by
        obtain h | h | h := h
        · exact absurd h (text_ne_of_doubleOf (by rintro ⟨⟩))
        · exact absurd h (text_ne_of_doubleOf (by rintro ⟨⟩))
        · have hread := doubleOf_text x
          rw [h, doubleOf_marker] at hread
          cases hread
          rfl
      rw [Field.optional, Field.double, if_neg hx]
      by_cases hmark : x.text = "" ∨ x.text = "None" ∨ x.text = "1.7976931348623157E308"
      · rw [if_pos hmark, hmarker hmark]
        simp [Option.filter]
      · rw [if_neg hmark, if_neg hinfinity, doubleOf_text]
        by_cases hn : x = unsetDouble
        · simp [Except.map, Option.filter, hn, (sameNumber_unsetDouble unsetDouble).mpr rfl]
        · simp [Except.map, Option.filter, hn, sameNumber_unsetDouble]

theorem text_mem_unsetDecimalTexts {d : Decimal} :
    unsetDecimalTexts.contains d.text = true ↔ d ∈ unsetDecimals := by
  constructor
  · intro h
    by_contra hd
    simp only [unsetDecimalTexts, List.contains_eq_mem, List.mem_cons, List.not_mem_nil, or_false,
      decide_eq_true_eq] at h
    obtain h | h | h | h | h | h := h <;> refine text_ne_of_decimalOf ?_ h <;> rintro ⟨⟩ <;>
      exact hd (by decide)
  · intro hd
    simp only [unsetDecimals, List.mem_cons, List.not_mem_nil, or_false] at hd
    obtain rfl | rfl | rfl := hd <;> rfl

theorem run_decimal (d : Option Decimal) (rest : Bytes) :
    decimal.run (fieldOctets (Field.optional Decimal.text d) ++ rest) =
      (.ok (d.filter (· ∉ unsetDecimals)), rest) := by
  apply run_parsed (isTerminable_optional Decimal.text_isTerminable d)
  cases d with
  | none => rfl
  | some d =>
    rw [Field.optional]
    by_cases hd : d ∈ unsetDecimals
    · rw [if_pos (text_mem_unsetDecimalTexts.mpr hd)]
      simp [Option.filter, hd]
    · rw [if_neg (fun h => hd (text_mem_unsetDecimalTexts.mp h)), decimalOf_text]
      simp [Except.map, Option.filter, hd]

theorem run_code {κ : Type} [Vocabulary κ] [LawfulVocabulary κ] {c : Option (Code κ)}
    (h : ∀ word ∈ c, word.IsCanonical) (rest : Bytes) :
    code.run (fieldOctets (Field.optional Field.code c) ++ rest) = (.ok c, rest) := by
  cases c with
  | none => exact run_field (show IsTerminable "" by decide) _ rest
  | some c =>
    have hc := h c rfl
    rw [code, Field.optional, Field.code, run_field (Code.text_isTerminable hc),
      if_neg (Code.text_ne_empty hc), Code.ofText_text hc]
    rfl

theorem run_number {κ : Type} [Numbered κ] [LawfulNumbered κ] (other member : κ) (rest : Bytes) :
    (number other).run (fieldOctets (Field.number member) ++ rest) = (.ok member, rest) := by
  rw [number, run_bind, Field.number, run_int]
  simp only [LawfulNumbered.ofCode?_code, Option.getD_some]
  rfl

theorem run_count {n : Nat} (h : n < 2 ^ 31) (rest : Bytes) :
    count.run (fieldOctets (Field.int (Int32.ofNat n)) ++ rest) = (.ok n, rest) := by
  have hvalue : (Int32.ofNat n).toInt = n := Int32.toInt_ofNat_of_lt h
  have hpositive : ¬ Int32.ofNat n < 0 := by
    rw [Int32.lt_iff_toInt_lt, hvalue]
    exact Int.not_lt.mpr (Int.natCast_nonneg n)
  rw [count, run_bind, run_int]
  simp only [if_neg hpositive, run, hvalue, Int.toNat_natCast]

/-- Items are read from the front as long as each of them is read from its own octets. -/
theorem run_listFrom {item : FieldReader α} {octets : α → Bytes} {values : List α}
    (hitem : ∀ value ∈ values, ∀ rest, item.run (octets value ++ rest) = (.ok value, rest))
    (before : List α) (rest : Bytes) :
    (listFrom item before values.length).run (values.flatMap octets ++ rest) =
      (.ok (before.reverse ++ values), rest) := by
  induction values generalizing before with
  | nil => simp [listFrom, run]
  | cons value values ih =>
    have hrest := fun other hm => hitem other (List.mem_cons_of_mem value hm)
    rw [List.length_cons, listFrom, run_bind, List.flatMap_cons, List.append_assoc,
      hitem value List.mem_cons_self]
    dsimp only
    rw [ih hrest, List.reverse_cons, List.append_assoc, List.singleton_append]

theorem run_list {item : FieldReader α} {octets : α → Bytes} {values : List α}
    (hitem : ∀ value ∈ values, ∀ rest, item.run (octets value ++ rest) = (.ok value, rest))
    (rest : Bytes) :
    (list values.length item).run (values.flatMap octets ++ rest) = (.ok values, rest) :=
  run_listFrom hitem [] rest

theorem run_counted {item : FieldReader α} {octets : α → Bytes} {values : List α}
    (hlength : values.length < 2 ^ 31)
    (hitem : ∀ value ∈ values, ∀ rest, item.run (octets value ++ rest) = (.ok value, rest))
    (rest : Bytes) :
    (counted item).run (fieldOctets (Field.count values) ++ (values.flatMap octets ++ rest)) =
      (.ok values, rest) := by
  rw [counted, run_bind, Field.count, run_count hlength]
  exact run_list hitem rest

end FieldReader

end BrokerWire
