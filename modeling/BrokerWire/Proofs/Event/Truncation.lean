import BrokerWire.Proofs.Wire.Cursor
import BrokerWire.Event.Decode
import BrokerWire.Session.ApiError

namespace BrokerWire.Event

/-- Whether an event stands for a message of unknown content. -/
def IsUnknown (event : Event) : Prop :=
  ∃ code octets, event = .unknown code octets

/-- How many octets of a payload have been read when its decoding ends. -/
def cursor (sv : ServerVersion) (payload : Bytes) : Nat :=
  payload.length - ((read sv payload).run payload).2.length

theorem drop_cursor (sv : ServerVersion) (payload : Bytes) :
    ((read sv payload).run payload).2 = payload.drop (cursor sv payload) :=
  List.suffix_iff_eq_drop.mp (FieldReader.run_isSuffix _ payload)

/-- The payload that a message of an unknown kind is reported with takes no part in the reading. -/
theorem read_run_cases (sv : ServerVersion) (octets : Bytes) :
    (∃ result, ∀ whole, (read sv whole).run octets = result) ∨
      ∃ code unread, ∀ whole, (read sv whole).run octets = (.ok (.unknown code whole), unread) := by
  unfold read
  simp only [FieldReader.run_bind]
  cases FieldReader.int.run octets with
  | mk outcome rest =>
    cases outcome with
    | error fault => exact .inl ⟨_, fun _ => rfl⟩
    | ok code =>
      dsimp only
      cases (Numbered.ofCode? code : Option Inbound) with
      | some kind => exact .inl ⟨(reader sv kind).run rest, fun _ => rfl⟩
      | none => exact .inr ⟨code, rest, fun _ => rfl⟩

theorem read_run_of_known {sv : ServerVersion} {whole octets unread : Bytes} {event : Event}
    (h : (read sv whole).run octets = (.ok event, unread)) (hk : ¬ event.IsUnknown)
    (whole' : Bytes) : (read sv whole').run octets = (.ok event, unread) := by
  obtain ⟨result, hr⟩ | ⟨code, rest, hr⟩ := read_run_cases sv octets
  · rw [hr, ← hr whole, h]
  · rw [hr, Prod.mk.injEq, Except.ok.injEq] at h
    exact absurd ⟨code, whole, h.1.symm⟩ hk

theorem read_run_error {sv : ServerVersion} {whole octets : Bytes} {fault : FieldFault}
    (h : ((read sv whole).run octets).1 = .error fault) (whole' : Bytes) :
    ((read sv whole').run octets).1 = .error fault := by
  obtain ⟨result, hr⟩ | ⟨code, rest, hr⟩ := read_run_cases sv octets
  · rw [hr, ← hr whole, h]
  · rw [hr] at h
    cases h

theorem run_of_decode {sv : ServerVersion} {payload : Bytes} {event : Event}
    (h : decode sv payload = .ok event) :
    (read sv payload).run payload = (.ok event, payload.drop (cursor sv payload)) :=
  Prod.ext h (drop_cursor sv payload)

theorem decode_append {sv : ServerVersion} {payload : Bytes} {event : Event}
    (h : decode sv payload = .ok event) (hk : ¬ event.IsUnknown) (suffix : Bytes) :
    decode sv (payload ++ suffix) = .ok event ∧
      cursor sv (payload ++ suffix) = cursor sv payload := by
  have hlong := FieldReader.run_append (run_of_decode h) suffix
  have hrun := read_run_of_known hlong hk (payload ++ suffix)
  refine ⟨congrArg Prod.fst hrun, ?_⟩
  have hle : cursor sv payload ≤ payload.length := Nat.sub_le _ _
  rw [cursor, hrun]
  simp only [List.length_append, List.length_drop]
  omega

theorem decode_take {sv : ServerVersion} {payload : Bytes} {event : Event}
    (h : decode sv payload = .ok event) {k : Nat} (hk : k < cursor sv payload) :
    ∃ fault, decode sv (payload.take k) = .error fault := by
  have hle : cursor sv payload ≤ payload.length := Nat.sub_le _ _
  have hrun := run_of_decode h
  conv at hrun =>
    lhs
    rw [← List.take_append_drop (cursor sv payload) payload]
  have hprefix : payload.take k <+: payload.take (cursor sv payload) :=
    List.take_prefix_take_left (Nat.le_of_lt hk)
  have hne : payload.take k ≠ payload.take (cursor sv payload) := by
    intro he
    have hl := congrArg List.length he
    rw [List.length_take, List.length_take] at hl
    omega
  obtain ⟨fault, hf⟩ := FieldReader.run_of_isPrefix hrun hprefix hne
  exact ⟨fault, read_run_error hf _⟩

/-- A message of known content is decided by the octets that its decoding reads: any octets behind
them change nothing, and with any of them missing at the end there is no event. -/
theorem decode_extension (sv : ServerVersion) (payload : Bytes) :
    (∀ event, decode sv payload = .ok event → ¬ event.IsUnknown → ∀ suffix,
      decode sv (payload ++ suffix) = .ok event ∧
        cursor sv (payload ++ suffix) = cursor sv payload) ∧
    (∀ event, decode sv payload = .ok event → ∀ k, k < cursor sv payload →
      ∃ fault, decode sv (payload.take k) = .error fault) ∧
    (∀ fault, decode sv payload = .error fault →
      ApiError.ofField fault = .decoding fault.message) ∧
    ((read sv payload).run payload).2 = payload.drop (cursor sv payload) :=
  ⟨fun _ h hk suffix => decode_append h hk suffix, fun _ h _ hk => decode_take h hk,
    fun _ _ => rfl, drop_cursor sv payload⟩

/-- The next number for an order, with an octet behind it and with its last octet missing. -/
theorem decode_extension_nextValidId :
    decode 176 [57, 0, 49, 0, 52, 50, 0] = .ok (.notice (.nextValidId 42)) ∧
      ¬ IsUnknown (.notice (.nextValidId 42)) ∧
      decode 176 ([57, 0, 49, 0, 52, 50, 0] ++ [255]) = .ok (.notice (.nextValidId 42)) ∧
      6 < cursor 176 [57, 0, 49, 0, 52, 50, 0] ∧
      ∃ fault, decode 176 [57, 0, 49, 0, 52, 50] = .error fault := by
  have hdecode : decode 176 [57, 0, 49, 0, 52, 50, 0] = .ok (.notice (.nextValidId 42)) := by rfl
  have hknown : ¬ IsUnknown (.notice (.nextValidId 42)) := by
    rintro ⟨code, octets, h⟩
    cases h
  have hcursor : 6 < cursor 176 [57, 0, 49, 0, 52, 50, 0] := by decide
  obtain ⟨hlonger, hshorter, -, -⟩ := decode_extension 176 [57, 0, 49, 0, 52, 50, 0]
  exact ⟨hdecode, hknown, (hlonger _ hdecode hknown [255]).1, hcursor,
    hshorter _ hdecode 6 hcursor⟩

end BrokerWire.Event
