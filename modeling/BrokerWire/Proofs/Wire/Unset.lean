import BrokerWire.Proofs.Number.Spelling
import BrokerWire.Proofs.Wire.Begins

namespace BrokerWire

open Message (fieldOctets)
open Utf8 (IsTerminable)

namespace FieldReader

variable {α : Type} {payload rest : Bytes}

/-- Whether a payload begins with a field whose text has a property. -/
def BeginsWith (accepts : String → Prop) (payload rest : Bytes) : Prop :=
  ∃ text, IsTerminable text ∧ accepts text ∧ payload = fieldOctets text ++ rest

theorem BeginsWith.mono {accepts accepts' : String → Prop} (h : BeginsWith accepts payload rest)
    (hle : ∀ text, accepts text → accepts' text) : BeginsWith accepts' payload rest := by
  obtain ⟨text, hterminable, haccepts, hpayload⟩ := h
  exact ⟨text, hterminable, hle text haccepts, hpayload⟩

theorem beginsWith_congr {accepts accepts' : String → Prop}
    (h : ∀ text, accepts text ↔ accepts' text) :
    BeginsWith accepts payload rest ↔ BeginsWith accepts' payload rest :=
  ⟨fun hb => hb.mono fun text => (h text).mp, fun hb => hb.mono fun text => (h text).mpr⟩

theorem run_parsed_beginsWith {parse : String → Except FieldFault α} {value : α} :
    (parsed parse).run payload = (.ok value, rest) ↔
      BeginsWith (fun text => parse text = .ok value) payload rest :=
  run_parsed_iff fun _ _ => Iff.rfl

/-- A number that is read unless its text is a mark is unset at the marks. -/
theorem marked_none_iff {marked : Prop} [Decidable marked] {read : Except FieldFault α} :
    (if marked then .ok none else read.map some) = .ok none ↔ marked := by
  constructor
  · intro h
    by_contra hm
    rw [if_neg hm] at h
    obtain ⟨_, _, ⟨⟩⟩ := Number.exists_of_map_eq_ok h
  · exact fun hm => if_pos hm

/-- A number that is read unless its text is a mark is set off the marks. -/
theorem marked_some_iff {marked : Prop} [Decidable marked] {read : Except FieldFault α}
    {value : α} :
    (if marked then .ok none else read.map some) = .ok (some value) ↔
      ¬ marked ∧ read = .ok value := by
  constructor
  · intro h
    split at h
    · cases h
    · next hm =>
      obtain ⟨_, hread, ⟨⟩⟩ := Number.exists_of_map_eq_ok h
      exact ⟨hm, hread⟩
  · rintro ⟨hm, hread⟩
    rw [if_neg hm, hread]
    rfl

theorem ok_of_mapError {ε ε' : Type} {f : ε → ε'} {r : Except ε α} {value : α}
    (h : r.mapError f = .ok value) : r = .ok value := by
  cases r with
  | error e => cases h
  | ok value =>
    cases h
    rfl

/-- Whether a text is a number's own digits with zeros or a plus sign in front, but not the digits
alone. -/
def Respells (own text : String) : Prop :=
  text ≠ own ∧ Number.IsRespelled own.toList text.toList

theorem respelled_of_intOf {text : String} (h : intOf text = .ok unsetInt) :
    Number.IsRespelled "2147483647".toList text.toList :=
  (Number.readInt32_eq_ok (ok_of_mapError h)).respelled (by decide) (by decide) rfl

theorem respelled_of_longOf {text : String} (h : longOf text = .ok unsetLong) :
    Number.IsRespelled "9223372036854775807".toList text.toList :=
  (Number.readInt64_eq_ok (ok_of_mapError h)).respelled (by decide) (by decide) rfl

theorem run_optionalInt_none_iff :
    optionalInt.run payload = (.ok none, rest) ↔
      BeginsWith (fun text => text = "" ∨ text = "None" ∨ text = "2147483647") payload rest :=
  run_parsed_beginsWith.trans (beginsWith_congr fun _ => marked_none_iff)

theorem run_optionalLong_none_iff :
    optionalLong.run payload = (.ok none, rest) ↔
      BeginsWith (fun text => text = "" ∨ text = "None" ∨ text = "9223372036854775807")
        payload rest :=
  run_parsed_beginsWith.trans (beginsWith_congr fun _ => marked_none_iff)

theorem run_decimal_none_iff :
    decimal.run payload = (.ok none, rest) ↔
      BeginsWith (fun text => unsetDecimalTexts.contains text = true) payload rest :=
  run_parsed_beginsWith.trans (beginsWith_congr fun _ => marked_none_iff)

theorem respells_of_run_optionalInt (h : optionalInt.run payload = (.ok (some unsetInt), rest)) :
    BeginsWith (Respells "2147483647") payload rest := by
  refine (run_parsed_beginsWith.mp h).mono fun text hread => ?_
  obtain ⟨hmark, hread⟩ := marked_some_iff.mp hread
  exact ⟨fun he => hmark (.inr (.inr he)), respelled_of_intOf hread⟩

theorem respells_of_run_optionalLong
    (h : optionalLong.run payload = (.ok (some unsetLong), rest)) :
    BeginsWith (Respells "9223372036854775807") payload rest := by
  refine (run_parsed_beginsWith.mp h).mono fun text hread => ?_
  obtain ⟨hmark, hread⟩ := marked_some_iff.mp hread
  exact ⟨fun he => hmark (.inr (.inr he)), respelled_of_longOf hread⟩

/-- A number is unset exactly if it is the greatest one, however it is written. -/
theorem sameNumber_none_iff {r : Except FieldFault Double} :
    (r.map fun x => if x.sameNumber unsetDouble then none else some x) = .ok none ↔
      r = .ok unsetDouble := by
  constructor
  · intro h
    obtain ⟨x, hread, hnone⟩ := Number.exists_of_map_eq_ok h
    have hsame : x.sameNumber unsetDouble = true := by
      by_contra hne
      rw [if_neg hne] at hnone
      cases hnone
    rw [hread, (sameNumber_unsetDouble x).mp hsame]
  · intro h
    rw [h]
    exact congrArg Except.ok (if_pos ((sameNumber_unsetDouble unsetDouble).mpr rfl))

/-- Every spelling of the greatest number is a mark. -/
theorem run_optionalDouble_none_iff :
    optionalDouble.run payload = (.ok none, rest) ↔
      BeginsWith (fun text => text = "" ∨ text = "None" ∨ doubleOf text = .ok unsetDouble)
        payload rest := by
  refine run_parsed_beginsWith.trans (beginsWith_congr fun text => ?_)
  by_cases hmark : text = "" ∨ text = "None" ∨ text = "1.7976931348623157E308"
  · rw [if_pos hmark]
    refine iff_of_true rfl ?_
    obtain rfl | rfl | rfl := hmark
    · exact .inl rfl
    · exact .inr (.inl rfl)
    · exact .inr (.inr doubleOf_marker)
  · rw [if_neg hmark]
    have hrest : (text = "" ∨ text = "None" ∨ doubleOf text = .ok unsetDouble) ↔
        doubleOf text = .ok unsetDouble := by
      constructor
      · rintro (h | h | h)
        · exact absurd (.inl h) hmark
        · exact absurd (.inr (.inl h)) hmark
        · exact h
      · exact fun h => .inr (.inr h)
    rw [hrest]
    by_cases hinfinity : text = "Infinity"
    · subst hinfinity
      exact iff_of_false (by rintro ⟨⟩) (by rintro ⟨⟩)
    · rw [if_neg hinfinity]
      exact sameNumber_none_iff

theorem run_optionalDouble_ne : optionalDouble.run payload ≠ (.ok (some unsetDouble), rest) := by
  intro h
  obtain ⟨text, -, hread, -⟩ := run_parsed_beginsWith.mp h
  split at hread
  · cases hread
  split at hread
  · cases hread
  · obtain ⟨x, -, hx⟩ := Number.exists_of_map_eq_ok hread
    split at hx
    · cases hx
    · next hne =>
      cases hx
      exact hne ((sameNumber_unsetDouble unsetDouble).mpr rfl)

theorem isPlain_text_of_mem {marker : Decimal} (h : marker ∈ unsetDecimals) :
    Decimal.IsPlain marker.text.toList := by
  simp only [unsetDecimals, List.mem_cons, List.not_mem_nil, or_false] at h
  obtain rfl | rfl | rfl := h
  · exact ⟨[], "2147483647".toList, .inl rfl, by decide, by decide⟩
  · exact ⟨[], "9223372036854775807".toList, .inl rfl, by decide, by decide⟩
  · exact ⟨['-'], "9223372036854775808".toList, .inr rfl, by decide, by decide⟩

theorem value_ne_zero_of_mem {marker : Decimal} (h : marker ∈ unsetDecimals) :
    marker.value ≠ 0 := by
  simp only [unsetDecimals, List.mem_cons, List.not_mem_nil, or_false] at h
  obtain rfl | rfl | rfl := h <;> norm_num [Decimal.value]

/-- No plain text is read as a decimal that marks a quantity as unset. -/
theorem not_plain_of_run_decimal {d marker : Decimal} (hmarker : marker ∈ unsetDecimals)
    (hvalue : d.value = marker.value) (h : decimal.run payload = (.ok (some d), rest)) :
    BeginsWith (fun text => ¬ Decimal.IsPlain text.toList) payload rest := by
  refine (run_parsed_beginsWith.mp h).mono fun text hread hplain => ?_
  obtain ⟨hmark, hread⟩ := marked_some_iff.mp hread
  have hne : d.value ≠ 0 := by
    rw [hvalue]
    exact value_ne_zero_of_mem hmarker
  have htext : text.toList = marker.text.toList :=
    hplain.eq_of_value (isPlain_text_of_mem hmarker) (ok_of_mapError hread)
      (Decimal.read_text marker) hvalue hne
  refine hmark ?_
  rw [String.toList_inj.mp htext]
  exact text_mem_unsetDecimalTexts.mpr hmarker

theorem exists_mark_of_value {v : ℚ}
    (h : v = 2147483647 ∨ v = 9223372036854775807 ∨ v = -9223372036854775808) :
    ∃ marker ∈ unsetDecimals, v = marker.value := by
  obtain rfl | rfl | rfl := h
  · exact ⟨⟨2147483647, 0, by decide, Nat.zero_le _⟩, by decide, by norm_num [Decimal.value]⟩
  · exact ⟨⟨9223372036854775807, 0, by decide, Nat.zero_le _⟩, by decide,
      by norm_num [Decimal.value]⟩
  · exact ⟨⟨-9223372036854775808, 0, by decide, Nat.zero_le _⟩, by decide,
      by norm_num [Decimal.value]⟩

/-- A floating point number that marks a value as unset is never read, whatever its spelling. The
other marks are known by their texts. An integer that is one is read only from its digits behind
zeros or a plus sign, and a decimal that equals one never from a plain text, which has neither of
these, no point and no exponent. -/
theorem unset_marks (payload rest : Bytes) :
    ((optionalInt.run payload = (.ok none, rest) ↔
        BeginsWith (fun text => text = "" ∨ text = "None" ∨ text = "2147483647") payload rest) ∧
      (optionalInt.run payload = (.ok (some unsetInt), rest) →
        BeginsWith (Respells "2147483647") payload rest)) ∧
    ((optionalLong.run payload = (.ok none, rest) ↔
        BeginsWith (fun text => text = "" ∨ text = "None" ∨ text = "9223372036854775807")
          payload rest) ∧
      (optionalLong.run payload = (.ok (some unsetLong), rest) →
        BeginsWith (Respells "9223372036854775807") payload rest)) ∧
    ((optionalDouble.run payload = (.ok none, rest) ↔
        BeginsWith (fun text => text = "" ∨ text = "None" ∨ doubleOf text = .ok unsetDouble)
          payload rest) ∧
      optionalDouble.run payload ≠ (.ok (some unsetDouble), rest)) ∧
    (decimal.run payload = (.ok none, rest) ↔
        BeginsWith (fun text => unsetDecimalTexts.contains text = true) payload rest) ∧
      ∀ d : Decimal, d.value = 2147483647 ∨ d.value = 9223372036854775807 ∨
          d.value = -9223372036854775808 →
        decimal.run payload = (.ok (some d), rest) →
        BeginsWith (fun text => ¬ Decimal.IsPlain text.toList) payload rest := by
  refine ⟨⟨run_optionalInt_none_iff, respells_of_run_optionalInt⟩,
    ⟨run_optionalLong_none_iff, respells_of_run_optionalLong⟩,
    ⟨run_optionalDouble_none_iff, run_optionalDouble_ne⟩, run_decimal_none_iff, ?_⟩
  intro d hvalue hrun
  obtain ⟨marker, hmarker, hequal⟩ := exists_mark_of_value hvalue
  exact not_plain_of_run_decimal hmarker hequal hrun

/-- The integer and the decimal that mark a value as unset, in a spelling that is read. -/
theorem unset_marks_respelled :
    optionalInt.run (fieldOctets "+2147483647") = (.ok (some unsetInt), []) ∧
    BeginsWith (Respells "2147483647") (fieldOctets "+2147483647") [] ∧
    optionalLong.run (fieldOctets "09223372036854775807") = (.ok (some unsetLong), []) ∧
    BeginsWith (Respells "9223372036854775807") (fieldOctets "09223372036854775807") [] ∧
    BeginsWith (fun text => ¬ Decimal.IsPlain text.toList) (fieldOctets "2147483647.0") [] := by
  have hint : optionalInt.run (fieldOctets "+2147483647") = (.ok (some unsetInt), []) := by
    decide +kernel
  have hlong : optionalLong.run (fieldOctets "09223372036854775807") =
      (.ok (some unsetLong), []) := by
    decide +kernel
  have hdecimal : decimal.run (fieldOctets "2147483647.0") =
      (.ok (some ⟨21474836470, 1, by decide, by decide⟩), []) := by
    decide +kernel
  refine ⟨hint, (unset_marks _ _).1.2 hint, hlong, (unset_marks _ _).2.1.2 hlong, ?_⟩
  exact (unset_marks _ _).2.2.2.2 _ (.inl (by norm_num [Decimal.value])) hdecimal

/-- A plus sign or a point lets the number that a mark spells through. -/
theorem marks_let_through :
    optionalInt.run (fieldOctets "+2147483647") = (.ok (some unsetInt), []) ∧
    optionalLong.run (fieldOctets "+9223372036854775807") = (.ok (some unsetLong), []) ∧
    ∃ d : Decimal, decimal.run (fieldOctets "2147483647.0") = (.ok (some d), []) ∧
      d.value = 2147483647 :=
  ⟨by decide +kernel, by decide +kernel, ⟨21474836470, 1, by decide, by decide⟩,
    by decide +kernel, by norm_num [Decimal.value]⟩

end FieldReader

end BrokerWire
