import BrokerWire.Proofs.Event.Truncation

namespace BrokerWire

namespace FieldReader

variable {α β : Type}

/-- Whether each answer that a reader can give has a property. -/
def Yields (P : α → Prop) : FieldReader α → Prop
  | .done value => P value
  | .fail _ => True
  | .field next => ∀ text, (next text).Yields P

/-- What a reader yields is up to the last of its parts. -/
theorem yields_bind {P : β → Prop} {r : FieldReader α} {f : α → FieldReader β}
    (h : ∀ value, (f value).Yields P) : (r.bind f).Yields P := by
  induction r with
  | done value => exact h value
  | fail fault => trivial
  | field next ih => exact ih

theorem Yields.of_run {P : α → Prop} {r : FieldReader α} (h : r.Yields P) {payload : Bytes}
    {value : α} (hr : (r.run payload).1 = .ok value) : P value := by
  induction r generalizing payload with
  | done other =>
    cases hr
    exact h
  | fail fault => cases hr
  | field next ih =>
    rw [run] at hr
    cases hf : nextField payload with
    | error fault =>
      rw [hf] at hr
      cases hr
    | ok step =>
      rw [hf] at hr
      exact ih step.1 (h step.1) hr

end FieldReader

/-- Whether a notice tells something else than that a session opens or ends. -/
def Notice.IsData (n : Notice) : Prop :=
  n ≠ .connectAck ∧ n ≠ .connectionClosed

namespace Event

open FieldReader

/-- Whether all notices of an event tell something else than that a session opens or ends. -/
def IsData (event : Event) : Prop :=
  ∀ n ∈ event.notices, n.IsData

theorem isData_notice {n : Notice} (h : n.IsData) : IsData (.notice n) := by
  intro other hm
  rw [notices, List.mem_singleton] at hm
  rwa [hm]

theorem isData_tickPrice (reqId : Int32) (tickType : TickType) (price : Double)
    (size : Option Decimal) (attrib : PriceFlags) :
    IsData (.tickPrice reqId tickType price size attrib) := by
  intro n hm
  rw [notices, List.mem_cons, Option.mem_toList, Option.map_eq_some_iff] at hm
  obtain rfl | ⟨sizeType, -, rfl⟩ := hm <;> exact ⟨nofun, nofun⟩

theorem isData_historicalData (reqId : Int32) (bars : List Bar)
    (range : Option (String × String)) : IsData (.historicalData reqId bars range) := by
  intro n hm
  rw [notices, List.mem_append, List.mem_map, Option.mem_toList, Option.map_eq_some_iff] at hm
  obtain ⟨bar, -, rfl⟩ | ⟨ends, -, rfl⟩ := hm <;> exact ⟨nofun, nofun⟩

theorem isData_scannerData (reqId : Int32) (rows : List ScannerRow) :
    IsData (.scannerData reqId rows) := by
  intro n hm
  rw [notices, List.mem_append, List.mem_map, List.mem_singleton] at hm
  obtain ⟨row, -, rfl⟩ | rfl := hm <;> exact ⟨nofun, nofun⟩

theorem isData_unknown (code : Int32) (payload : Bytes) : IsData (.unknown code payload) :=
  isData_notice ⟨nofun, nofun⟩

theorem yields_single {r : FieldReader Notice} (h : r.Yields Notice.IsData) :
    (single r).Yields IsData := by
  unfold single
  induction r with
  | done n => exact isData_notice h
  | fail fault => trivial
  | field next ih => exact fun text => ih text (h text)

theorem yields_readTickByTick : readTickByTick.Yields IsData := by
  refine yields_bind fun reqId => yields_bind fun type => yields_bind fun time => ?_
  split
  · refine yields_single ?_
    repeat refine yields_bind fun _ => ?_
    exact ⟨nofun, nofun⟩
  split
  · refine yields_single ?_
    repeat refine yields_bind fun _ => ?_
    exact ⟨nofun, nofun⟩
  split
  · exact yields_bind fun price => isData_notice ⟨nofun, nofun⟩
  · exact isData_unknown _ _

/-- Each kind of message is read as one notice, or as one of the events with notices of their
own. -/
theorem yields_reader (sv : ServerVersion) (kind : Inbound) : (reader sv kind).Yields IsData := by
  cases kind
  case tickPrice =>
    repeat refine yields_bind fun _ => ?_
    exact isData_tickPrice _ _ _ _ _
  case historicalData =>
    repeat refine yields_bind fun _ => ?_
    exact isData_historicalData _ _ _
  case scannerData =>
    repeat refine yields_bind fun _ => ?_
    exact isData_scannerData _ _
  case tickByTick => exact yields_readTickByTick
  case openOrderEnd => exact isData_notice ⟨nofun, nofun⟩
  case completedOrdersEnd => exact isData_notice ⟨nofun, nofun⟩
  case positionEnd => exact isData_notice ⟨nofun, nofun⟩
  all_goals
    refine yields_single ?_
    repeat refine yields_bind fun _ => ?_
    exact ⟨nofun, nofun⟩

/-- A message of any kind tells neither that a session opens nor that it ends. -/
theorem data_of_decode {sv : ServerVersion} {payload : Bytes} {event : Event}
    (h : decode sv payload = .ok event) : event.IsData := by
  have hread : (read sv payload).Yields IsData := by
    unfold read
    refine yields_bind fun code => ?_
    split
    · next kind _ => exact yields_reader sv kind
    · exact isData_unknown code payload
  exact hread.of_run h

end Event

end BrokerWire
