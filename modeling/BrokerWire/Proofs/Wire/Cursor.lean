import BrokerWire.Proofs.Text.Utf8
import BrokerWire.Wire.FieldReader
import BrokerWire.Wire.Message
import Mathlib.Data.List.TakeDrop
import Mathlib.Data.List.TakeWhile

namespace BrokerWire.FieldReader

variable {α : Type}

/-- A payload has no zero octet, or it begins with a terminated piece. -/
theorem piece_cases (payload : Bytes) :
    (0 : UInt8) ∉ payload ∨
      ∃ piece rest, payload = piece ++ 0 :: rest ∧ (0 : UInt8) ∉ piece := by
  by_cases h : (0 : UInt8) ∈ payload
  · exact .inr (List.eq_append_cons_of_mem h)
  · exact .inl h

theorem all_ne_zero {piece : Bytes} (h : (0 : UInt8) ∉ piece) :
    ∀ octet ∈ piece, (octet != 0) = true := by
  intro octet hm
  simpa using fun he : octet = 0 => h (he ▸ hm)

theorem span_of_not_mem {piece : Bytes} (h : (0 : UInt8) ∉ piece) :
    piece.span (· != 0) = (piece, []) := by
  rw [List.span_eq_takeWhile_dropWhile, List.takeWhile_eq_self_iff.mpr (all_ne_zero h),
    List.dropWhile_eq_nil_iff.mpr (all_ne_zero h)]

theorem span_piece {piece : Bytes} (rest : Bytes) (h : (0 : UInt8) ∉ piece) :
    (piece ++ 0 :: rest).span (· != 0) = (piece, 0 :: rest) := by
  rw [List.span_eq_takeWhile_dropWhile, List.takeWhile_append_of_pos (all_ne_zero h),
    List.dropWhile_append_of_pos (all_ne_zero h)]
  simp

/-- A terminated piece is a field if it is UTF-8. -/
theorem nextField_piece {piece : Bytes} (rest : Bytes) (h : (0 : UInt8) ∉ piece) :
    nextField (piece ++ 0 :: rest) =
      match Utf8.decode piece with
      | .ok text => .ok (String.ofList text, rest)
      | .error fault => .error (.notUtf8 fault) := by
  unfold nextField
  split
  · next he => simp at he
  · cases hd : Utf8.decode piece with
    | ok text => simp only [span_piece rest h, hd]
    | error fault => simp only [span_piece rest h, hd]

/-- A text without the zero character is taken off as it was written. -/
theorem nextField_fieldOctets {t : String} (h : Utf8.IsTerminable t) (rest : Bytes) :
    nextField (Message.fieldOctets t ++ rest) = .ok (t, rest) := by
  rw [Message.fieldOctets, List.append_assoc, List.singleton_append,
    nextField_piece rest (Utf8.zero_not_mem_encode h), Utf8.decode_encode]
  simp only [String.ofList_toList]

theorem run_field {t : String} (h : Utf8.IsTerminable t) (next : String → FieldReader α)
    (rest : Bytes) :
    (FieldReader.field next).run (Message.fieldOctets t ++ rest) = (next t).run rest := by
  rw [run, nextField_fieldOctets h]

/-- A piece without an end is no field. -/
theorem nextField_of_not_mem {piece : Bytes} (h : (0 : UInt8) ∉ piece) :
    nextField piece = .error (if piece = [] then .endOfMessage else .unterminated) := by
  unfold nextField
  split
  · rfl
  · next hne =>
    rw [span_of_not_mem h]
    simp [show piece ≠ [] from fun he => hne (by rw [he])]

/-- A field that can be taken is the first piece of the payload. -/
theorem nextField_eq_ok {payload rest : Bytes} {text : String}
    (h : nextField payload = .ok (text, rest)) :
    ∃ piece, payload = piece ++ 0 :: rest ∧ (0 : UInt8) ∉ piece ∧
      Utf8.decode piece = .ok text.toList := by
  obtain hm | ⟨piece, left, rfl, hm⟩ := piece_cases payload
  · rw [nextField_of_not_mem hm] at h
    cases h
  · rw [nextField_piece left hm] at h
    cases hd : Utf8.decode piece with
    | error fault => rw [hd] at h; cases h
    | ok chars =>
      rw [hd] at h
      cases h
      exact ⟨piece, rfl, hm, by rw [hd, String.toList_ofList]⟩

theorem nextField_append {payload rest : Bytes} {text : String}
    (h : nextField payload = .ok (text, rest)) (suffix : Bytes) :
    nextField (payload ++ suffix) = .ok (text, rest ++ suffix) := by
  obtain ⟨piece, rfl, hm, hd⟩ := nextField_eq_ok h
  rw [List.append_assoc, List.cons_append, nextField_piece _ hm, hd]
  simp

/-- A reader leaves a part of the end of the payload unread, whatever its outcome. -/
theorem run_isSuffix (r : FieldReader α) (payload : Bytes) : (r.run payload).2 <:+ payload := by
  induction r generalizing payload with
  | done value => exact List.suffix_rfl
  | fail fault => exact List.suffix_rfl
  | field next ih =>
    rw [run]
    cases hf : nextField payload with
    | error fault => exact List.suffix_rfl
    | ok step =>
      obtain ⟨text, rest⟩ := step
      obtain ⟨piece, rfl, -, -⟩ := nextField_eq_ok hf
      exact (ih text rest).trans ⟨piece ++ [0], by simp⟩

/-- Octets behind those that a reader took change nothing. -/
theorem run_append {r : FieldReader α} {payload unread : Bytes} {value : α}
    (h : r.run payload = (.ok value, unread)) (suffix : Bytes) :
    r.run (payload ++ suffix) = (.ok value, unread ++ suffix) := by
  induction r generalizing payload with
  | done other =>
    cases h
    rfl
  | fail fault => cases h
  | field next ih =>
    rw [run] at h ⊢
    cases hf : nextField payload with
    | error fault => rw [hf] at h; cases h
    | ok step =>
      rw [hf] at h
      rw [nextField_append hf suffix]
      exact ih step.1 h

/-- A proper prefix of a terminated piece and more ends within the piece or behind its zero octet. -/
theorem prefix_piece_cases {piece behind part : Bytes} (h : part <+: piece ++ 0 :: behind) :
    part <+: piece ∨ ∃ more, part = piece ++ 0 :: more ∧ more <+: behind := by
  obtain ⟨missing, he⟩ := h
  obtain ⟨left, rfl, -⟩ | ⟨left, rfl, hl⟩ := List.append_eq_append_iff.mp he
  · exact .inl ⟨left, rfl⟩
  · cases left with
    | nil => exact .inl (by simp)
    | cons octet more =>
      rw [List.cons_append, List.cons.injEq] at hl
      obtain ⟨rfl, hl⟩ := hl
      exact .inr ⟨more, rfl, missing, hl.symm⟩

/-- A reader notices when octets that it takes are missing at the end. -/
theorem run_of_isPrefix {r : FieldReader α} {taken unread part : Bytes} {value : α}
    (h : r.run (taken ++ unread) = (.ok value, unread)) (hp : part <+: taken)
    (hne : part ≠ taken) : ∃ fault, (r.run part).1 = .error fault := by
  induction r generalizing taken part with
  | done other =>
    rw [run, Prod.mk.injEq] at h
    have hnil : taken = [] := List.append_left_eq_self.mp h.2
    subst hnil
    exact absurd (List.prefix_nil.mp hp) hne
  | fail fault => cases h
  | field next ih =>
    rw [run] at h
    cases hf : nextField (taken ++ unread) with
    | error fault => rw [hf] at h; cases h
    | ok step =>
      obtain ⟨text, rest⟩ := step
      rw [hf] at h
      change (next text).run rest = _ at h
      obtain ⟨piece, hpayload, hm, hd⟩ := nextField_eq_ok hf
      obtain ⟨behind, rfl⟩ : unread <:+ rest := by
        have hs := run_isSuffix (next text) rest
        rwa [h] at hs
      have htaken : taken = piece ++ 0 :: behind := by
        have hall : taken ++ unread = (piece ++ 0 :: behind) ++ unread := by simpa using hpayload
        exact List.append_cancel_right hall
      subst htaken
      obtain hshort | ⟨more, rfl, hmore⟩ := prefix_piece_cases hp
      · have hpart : (0 : UInt8) ∉ part := fun hz => hm (hshort.subset hz)
        rw [run, nextField_of_not_mem hpart]
        exact ⟨_, rfl⟩
      · have hrest : more ≠ behind := fun he => hne (by rw [he])
        rw [run, nextField_piece more hm, hd]
        simpa using ih text h hmore hrest

end BrokerWire.FieldReader
