import BrokerWire.Event.Contract
import Mathlib.Data.List.Basic

namespace BrokerWire

namespace Blank

variable {cut : Char → Bool} {part : List Char}

/-- The characters of a part are collected, last first. -/
theorem partsBy_append (h : ∀ c ∈ part, cut c = false) (before rest : List Char) :
    partsBy cut before (part ++ rest) = partsBy cut (part.reverse ++ before) rest := by
  induction part generalizing before with
  | nil => rfl
  | cons c part ih =>
    have hc : cut c = false := h c List.mem_cons_self
    have hpart : ∀ d ∈ part, cut d = false := fun d hm => h d (List.mem_cons_of_mem c hm)
    rw [List.cons_append, partsBy, hc, if_neg Bool.false_ne_true, ih hpart]
    simp

theorem parts_append_cons (h : ∀ c ∈ part, cut c = false) (hne : part ≠ []) {separator : Char}
    (hseparator : cut separator = true) (rest : List Char) :
    parts cut (part ++ separator :: rest) = part :: parts cut rest := by
  have hcollected : part.reverse ++ [] ≠ [] := by simpa using hne
  rw [parts, partsBy_append h, partsBy, if_pos hseparator, if_neg hcollected]
  simp [parts]

/-- A text that is cut nowhere is its only part. -/
theorem parts_whole (h : ∀ c ∈ part, cut c = false) (hne : part ≠ []) :
    parts cut part = [part] := by
  have hall := partsBy_append h [] []
  rw [List.append_nil, List.append_nil] at hall
  have hcollected : part.reverse ≠ [] := by simpa using hne
  rw [parts, hall, partsBy, if_neg hcollected, List.reverse_reverse]

/-- Parts with one separator between each two of them come back as they were. -/
theorem parts_intercalate {separator : Char} (hseparator : cut separator = true)
    {texts : List (List Char)} (htexts : ∀ t ∈ texts, t ≠ [] ∧ ∀ c ∈ t, cut c = false) :
    parts cut ([separator].intercalate texts) = texts := by
  induction texts with
  | nil => rfl
  | cons t texts ih =>
    obtain ⟨hne, ht⟩ := htexts t List.mem_cons_self
    have hrest := fun u hm => htexts u (List.mem_cons_of_mem t hm)
    cases texts with
    | nil => simpa using parts_whole ht hne
    | cons u texts =>
      rw [List.intercalate_cons_cons, List.append_assoc, List.singleton_append,
        parts_append_cons ht hne hseparator, ih hrest]

end Blank

namespace Event

/-- Whether a text can be a date or a time of day: it is not empty and has no blank and no dash. -/
def IsMoment (t : String) : Prop :=
  t ≠ "" ∧ ∀ c ∈ t.toList, Blank.isBlank c = false ∧ c ≠ '-'

/-- Whether a text can name a time zone; such names may have dashes. -/
def IsZone (t : String) : Prop :=
  t ≠ "" ∧ ∀ c ∈ t.toList, Blank.isBlank c = false

-- The characters of the text are tried, and not all characters that there are.
instance : DecidablePred IsMoment := fun t =>
  letI := List.decidableBAll (fun c => Blank.isBlank c = false ∧ c ≠ '-') t.toList
  inferInstanceAs (Decidable (_ ∧ _))

instance : DecidablePred IsZone := fun t =>
  letI := List.decidableBAll (fun c => Blank.isBlank c = false) t.toList
  inferInstanceAs (Decidable (_ ∧ _))

/-- The parts of a text between dashes. -/
def dashParts (t : String) : List String :=
  (Blank.parts (· == '-') t.toList).map String.ofList

theorem IsMoment.isZone {t : String} (h : IsMoment t) : IsZone t :=
  ⟨h.1, fun c hm => (h.2 c hm).1⟩

theorem IsMoment.dash_not_mem {t : String} (h : IsMoment t) : '-' ∉ t.toList :=
  fun hm => (h.2 '-' hm).2 rfl

theorem mem_intercalate {separator c : Char} {texts : List (List Char)}
    (h : c ∈ [separator].intercalate texts) : c = separator ∨ ∃ t ∈ texts, c ∈ t := by
  induction texts with
  | nil => cases h
  | cons t texts ih =>
    cases texts with
    | nil => exact .inr ⟨t, List.mem_cons_self, by simpa using h⟩
    | cons u texts =>
      rw [List.intercalate_cons_cons, List.append_assoc, List.mem_append, List.singleton_append,
        List.mem_cons] at h
      obtain hm | hc | hrest := h
      · exact .inr ⟨t, List.mem_cons_self, hm⟩
      · exact .inl hc
      · obtain hc | ⟨v, hv, hm⟩ := ih hrest
        · exact .inl hc
        · exact .inr ⟨v, List.mem_cons_of_mem t hv, hm⟩

/-- Texts without a separator are the parts of the text that they are joined to. -/
theorem parts_join {cut : Char → Bool} {separator : String} {mark : Char}
    (hseparator : separator.toList = [mark]) (hmark : cut mark = true) {texts : List String}
    (h : ∀ t ∈ texts, t ≠ "" ∧ ∀ c ∈ t.toList, cut c = false) :
    (Blank.parts cut (separator.intercalate texts).toList).map String.ofList = texts := by
  have hparts : ∀ t ∈ texts.map String.toList, t ≠ [] ∧ ∀ c ∈ t, cut c = false := by
    intro t hm
    obtain ⟨s, hs, rfl⟩ := List.mem_map.mp hm
    obtain ⟨hne, hplain⟩ := h s hs
    exact ⟨by simpa using hne, hplain⟩
  rw [String.toList_intercalate, hseparator, Blank.parts_intercalate hmark hparts]
  simp

/-- A field without a dash is cut at its blanks. -/
theorem expiryParts_blanks {texts : List String}
    (h : ∀ t ∈ texts, IsZone t ∧ '-' ∉ t.toList) :
    expiryParts (" ".intercalate texts) = texts := by
  have hdash : (" ".intercalate texts).toList.contains '-' = false := by
    rw [List.contains_eq_mem, decide_eq_false_iff_not, String.toList_intercalate]
    intro hm
    obtain hblank | ⟨t, ht, hm⟩ := mem_intercalate hm
    · exact absurd hblank (by decide)
    · obtain ⟨s, hs, rfl⟩ := List.mem_map.mp ht
      exact (h s hs).2 hm
  rw [expiryParts, hdash, if_neg Bool.false_ne_true]
  exact parts_join rfl (show Blank.isBlank ' ' = true by decide) fun t ht => (h t ht).1

/-- A field with a dash is cut at its dashes. -/
theorem expiryParts_of_dash {raw : String} (h : '-' ∈ raw.toList) :
    expiryParts raw = dashParts raw := by
  rw [expiryParts, List.contains_eq_mem, if_pos (decide_eq_true h)]
  rfl

theorem expiryParts_dashes {first second : String} {texts : List String}
    (h : ∀ t ∈ first :: second :: texts, t ≠ "" ∧ '-' ∉ t.toList) :
    expiryParts ("-".intercalate (first :: second :: texts)) = first :: second :: texts := by
  have hdash : '-' ∈ ("-".intercalate (first :: second :: texts)).toList := by
    rw [String.toList_intercalate, List.map_cons, List.map_cons, List.intercalate_cons_cons]
    simp
  rw [expiryParts_of_dash hdash, dashParts]
  have hparts : ∀ t ∈ first :: second :: texts,
      t ≠ "" ∧ ∀ c ∈ t.toList, (c == '-') = false := by
    intro t ht
    obtain ⟨hne, hplain⟩ := h t ht
    refine ⟨hne, fun c hm => ?_⟩
    rw [beq_eq_false_iff_ne]
    rintro rfl
    exact hplain hm
  refine parts_join rfl ?_ hparts
  exact beq_self_eq_true '-'

/-- Two parts or more come back from either separator. -/
theorem expiryParts_join {separator : String} (hseparator : separator ∈ [" ", "-"])
    {first second : String} {texts : List String}
    (h : ∀ t ∈ first :: second :: texts, IsZone t ∧ '-' ∉ t.toList) :
    expiryParts (separator.intercalate (first :: second :: texts)) = first :: second :: texts := by
  rw [List.mem_pair] at hseparator
  obtain rfl | rfl := hseparator
  · exact expiryParts_blanks h
  · exact expiryParts_dashes fun t ht => ⟨(h t ht).1.1, (h t ht).2⟩

theorem expiryParts_single {date : String} (h : IsMoment date) : expiryParts date = [date] := by
  have hparts : ∀ t ∈ [date], IsZone t ∧ '-' ∉ t.toList := by
    intro t ht
    rw [List.mem_singleton.mp ht]
    exact ⟨h.isZone, h.dash_not_mem⟩
  have hsingle := expiryParts_blanks hparts
  rwa [String.intercalate_singleton] at hsingle

/-- Behind a date and a time, a dash of the zone cuts the field, and the blanks do not. -/
theorem expiryParts_dashed_zone {date time area : String} (hdate : IsMoment date)
    (htime : IsMoment time) (harea : '-' ∉ area.toList) (rest : String) :
    expiryParts (" ".intercalate [date, time, area ++ "-" ++ rest]) =
      " ".intercalate [date, time, area] :: dashParts rest := by
  have hraw : (" ".intercalate [date, time, area ++ "-" ++ rest]).toList =
      (" ".intercalate [date, time, area]).toList ++ '-' :: rest.toList := by
    simp
  have hfront : ∀ c ∈ (" ".intercalate [date, time, area]).toList, (c == '-') = false := by
    intro c hm
    rw [beq_eq_false_iff_ne]
    rintro rfl
    rw [String.toList_intercalate] at hm
    obtain hblank | ⟨t, ht, hm⟩ := mem_intercalate hm
    · exact absurd hblank (by decide)
    · simp only [List.map_cons, List.map_nil, List.mem_cons, List.not_mem_nil, or_false] at ht
      obtain rfl | rfl | rfl := ht
      · exact hdate.dash_not_mem hm
      · exact htime.dash_not_mem hm
      · exact harea hm
  have hne : (" ".intercalate [date, time, area]).toList ≠ [] := by
    simp
  have hdash : '-' ∈ (" ".intercalate [date, time, area ++ "-" ++ rest]).toList := by
    rw [hraw]
    simp
  rw [expiryParts_of_dash hdash, dashParts, hraw,
    Blank.parts_append_cons hfront hne (beq_self_eq_true '-'), List.map_cons, String.ofList_toList]
  rfl

/-- The date, the time and the zone of a field reach the details of their own, and a part that is
missing leaves what was there. Only a zone with a dash in its name behind blanks does not: the field
is cut at that dash, so that the first part is the date with the time and the front of the zone. -/
theorem expiry_recovered {date time zone : String} (hdate : IsMoment date) (htime : IsMoment time)
    (hzone : IsZone zone) (d : ContractDetails) :
    (∀ separator ∈ [" ", "-"],
      ('-' ∉ zone.toList →
        setMaturity (separator.intercalate [date, time, zone]) d =
          { d with
            bond := { d.bond with maturity := date }
            lastTradeTime := time
            timeZoneId := zone }) ∧
      setMaturity (separator.intercalate [date, time]) d =
        { d with bond := { d.bond with maturity := date }, lastTradeTime := time } ∧
      setExpiry (separator.intercalate [date, time]) d =
        { d with
          contract := { d.contract with lastTradeDateOrContractMonth := date }
          lastTradeTime := time }) ∧
    setMaturity date d = { d with bond := { d.bond with maturity := date } } ∧
    setExpiry date d =
      { d with contract := { d.contract with lastTradeDateOrContractMonth := date } } ∧
    ∀ area rest, zone = area ++ "-" ++ rest → '-' ∉ area.toList →
      setMaturity (" ".intercalate [date, time, zone]) d =
        { d with
          bond := { d.bond with maturity := " ".intercalate [date, time, area] }
          lastTradeTime := (dashParts rest)[0]?.getD d.lastTradeTime
          timeZoneId := (dashParts rest)[1]?.getD d.timeZoneId } := by
  have hmoment {t : String} (h : IsMoment t) : IsZone t ∧ '-' ∉ t.toList :=
    ⟨h.isZone, h.dash_not_mem⟩
  have htwo : ∀ t ∈ [date, time], IsZone t ∧ '-' ∉ t.toList := by
    intro t ht
    rw [List.mem_pair] at ht
    obtain rfl | rfl := ht
    · exact hmoment hdate
    · exact hmoment htime
  refine ⟨fun separator hseparator => ⟨fun hplain => ?_, ?_, ?_⟩, ?_, ?_, ?_⟩
  · have hthree : ∀ t ∈ [date, time, zone], IsZone t ∧ '-' ∉ t.toList := by
      intro t ht
      simp only [List.mem_cons, List.not_mem_nil, or_false] at ht
      obtain rfl | rfl | rfl := ht
      · exact hmoment hdate
      · exact hmoment htime
      · exact ⟨hzone, hplain⟩
    rw [setMaturity, expiryParts_join hseparator hthree]
    rfl
  · rw [setMaturity, expiryParts_join hseparator htwo]
    rfl
  · rw [setExpiry, expiryParts_join hseparator htwo]
    rfl
  · rw [setMaturity, expiryParts_single hdate]
    rfl
  · rw [setExpiry, expiryParts_single hdate]
    rfl
  · rintro area rest rfl harea
    rw [setMaturity, expiryParts_dashed_zone hdate htime harea rest]
    rfl

/-- A bond that matures in New York, and one whose zone has a dash in its name. -/
theorem expiry_recovered_eastern :
    (setMaturity "20300115-08:00-US/Eastern" {}).timeZoneId = "US/Eastern" ∧
      (setMaturity "20300115 08:00 America/Port-au-Prince" {}).lastTradeTime = "au" := by
  have hdate : IsMoment "20300115" := by decide
  have htime : IsMoment "08:00" := by decide
  have heastern := expiry_recovered hdate htime (show IsZone "US/Eastern" by decide) {}
  have hhaiti := expiry_recovered hdate htime
    (show IsZone "America/Port-au-Prince" by decide) {}
  have hjoined := (heastern.1 "-" (by decide)).1 (by decide)
  have hcut := hhaiti.2.2.2 "America/Port" "au-Prince" (by decide) (by decide)
  have hraw : "-".intercalate ["20300115", "08:00", "US/Eastern"] =
      "20300115-08:00-US/Eastern" := by
    decide
  have hcutRaw : " ".intercalate ["20300115", "08:00", "America/Port-au-Prince"] =
      "20300115 08:00 America/Port-au-Prince" := by
    decide
  rw [hraw] at hjoined
  rw [hcutRaw] at hcut
  rw [hjoined, hcut]
  exact ⟨rfl, by decide⟩

/-- The date and the time behind which such a zone stands are lost. -/
theorem expiry_dashed_zone :
    ¬ ∀ (date time zone : String) (d : ContractDetails), IsMoment date → IsMoment time →
      IsZone zone → setMaturity (" ".intercalate [date, time, zone]) d =
        { d with
          bond := { d.bond with maturity := date }
          lastTradeTime := time
          timeZoneId := zone } := by
  intro hall
  have hbond := hall "20300115" "08:00" "America/Port-au-Prince" {} (by decide) (by decide)
    (by decide)
  have hmaturity := congrArg (fun d => d.bond.maturity) hbond
  exact absurd hmaturity (by decide)

end Event

end BrokerWire
