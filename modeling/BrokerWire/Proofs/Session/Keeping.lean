import BrokerWire.Proofs.Session.Opening
import Mathlib.Data.List.Count

namespace BrokerWire

namespace Scanner

open BrokerWire.Frame FieldReader

/-- Pieces with a zero octet behind each. -/
def terminated (pieces : List Bytes) : Bytes :=
  pieces.flatMap fun piece => piece ++ [0]

@[simp] theorem terminated_cons (piece : Bytes) (pieces : List Bytes) :
    terminated (piece :: pieces) = piece ++ 0 :: terminated pieces := by
  simp [terminated]

/-- Pieces are taken off the front, each up to its zero octet. -/
theorem takePieces_eq_some_iff {count : Nat} {octets rest : Bytes} {pieces : List Bytes} :
    takePieces count octets = some (pieces, rest) ↔
      pieces.length = count ∧ (∀ piece ∈ pieces, (0 : UInt8) ∉ piece) ∧
        octets = terminated pieces ++ rest := by
  induction count generalizing octets pieces with
  | zero =>
    constructor
    · intro h
      cases h
      exact ⟨rfl, by simp, rfl⟩
    · rintro ⟨hlength, -, rfl⟩
      cases List.length_eq_zero_iff.mp hlength
      rfl
  | succ count ih =>
    constructor
    · intro h
      obtain hm | ⟨piece, left, rfl, hm⟩ := piece_cases octets
      · rw [takePieces, span_of_not_mem hm] at h
        cases h
      · rw [takePieces, span_piece left hm] at h
        obtain ⟨⟨later, behind⟩, ht, he⟩ := Option.map_eq_some_iff.mp h
        cases he
        obtain ⟨hlength, hzero, hleft⟩ := ih.mp ht
        refine ⟨congrArg Nat.succ hlength, List.forall_mem_cons.mpr ⟨hm, hzero⟩, ?_⟩
        rw [terminated_cons, hleft, List.append_assoc, List.cons_append]
    · rintro ⟨hlength, hzero, rfl⟩
      obtain ⟨piece, later, rfl⟩ := List.exists_cons_of_length_eq_add_one hlength
      obtain ⟨hm, hlater⟩ := List.forall_mem_cons.mp hzero
      have ht := ih.mpr ⟨Nat.succ.inj hlength, hlater, rfl⟩
      rw [terminated_cons, List.append_assoc, List.cons_append, takePieces, span_piece _ hm]
      dsimp only
      rw [ht]
      rfl

/-- Pieces are waited for while one of their zero octets is missing. -/
theorem takePieces_eq_none_iff {count : Nat} {octets : Bytes} :
    takePieces count octets = none ↔ octets.count 0 < count := by
  induction count generalizing octets with
  | zero => simp [takePieces]
  | succ count ih =>
    obtain hm | ⟨piece, left, rfl, hm⟩ := piece_cases octets
    · rw [takePieces, span_of_not_mem hm, List.count_eq_zero.mpr hm]
      simp
    · rw [takePieces, span_piece left hm, List.count_append, List.count_eq_zero.mpr hm,
        List.count_cons_self]
      dsimp only
      rw [Option.map_eq_none_iff, ih]
      omega

/-- What a call for bare fields can lead to: nothing while a zero octet is missing, or the octets of
all of them taken, whatever their text is. -/
theorem unframedFields_cases (s : Scanner) (count : Nat) :
    (s.buffer.count 0 < count ∧ s.unframedFields count = (.ok none, s)) ∨
    (count ≤ s.buffer.count 0 ∧ ∃ pieces rest, pieces.length = count ∧
      (∀ piece ∈ pieces, (0 : UInt8) ∉ piece) ∧ s.buffer = terminated pieces ++ rest ∧
      s.unframedFields count = ((decodePieces pieces).map some, ⟨rest⟩)) := by
  unfold unframedFields
  cases ht : takePieces count s.buffer with
  | none => exact .inl ⟨takePieces_eq_none_iff.mp ht, rfl⟩
  | some taken =>
    obtain ⟨pieces, rest⟩ := taken
    obtain ⟨hlength, hzero, hs⟩ := takePieces_eq_some_iff.mp ht
    have hall : count ≤ s.buffer.count 0 := by
      by_contra hshort
      rw [takePieces_eq_none_iff.mpr (Nat.lt_of_not_le hshort)] at ht
      cases ht
    exact .inr ⟨hall, pieces, rest, hlength, hzero, hs, rfl⟩

/-- Bare fields are waited for while one of their zero octets is missing, and no longer. -/
theorem unframedFields_eq_none_iff (s : Scanner) (count : Nat) :
    (s.unframedFields count).1 = .ok none ↔ s.buffer.count 0 < count := by
  obtain ⟨hshort, h⟩ | ⟨hall, pieces, rest, -, -, -, h⟩ := unframedFields_cases s count
  · exact iff_of_true (by rw [h]) hshort
  · refine iff_of_false ?_ (Nat.not_lt.mpr hall)
    rw [h]
    cases decodePieces pieces <;> simp [Except.map]

theorem unframedFields_kept_iff {s : Scanner} {count : Nat}
    (h : ∀ fields, (s.unframedFields count).1 ≠ .ok (some fields)) :
    (s.unframedFields count).2 = s ↔ s.buffer.count 0 < count := by
  obtain ⟨hshort, hs⟩ | ⟨hall, pieces, rest, rfl, -, hbuffer, hs⟩ := unframedFields_cases s count
  · exact iff_of_true (by rw [hs]) hshort
  · refine iff_of_false ?_ (Nat.not_lt.mpr hall)
    rw [hs]
    intro hkept
    cases pieces with
    | nil => exact h [] (congrArg Prod.fst hs)
    | cons piece pieces =>
      -- What is left is shorter: the octets of the pieces are gone.
      have hlength := congrArg List.length (hbuffer.symm.trans (congrArg buffer hkept.symm))
      simp at hlength
      omega

/-- A fault in bare fields takes all of them that were asked for, and nothing behind them. -/
theorem unframedFields_taken {s : Scanner} {count : Nat} {fault : Utf8.Fault}
    (h : (s.unframedFields count).1 = .error fault) :
    ∃ pieces, pieces.length = count ∧ (∀ piece ∈ pieces, (0 : UInt8) ∉ piece) ∧
      s.buffer = terminated pieces ++ (s.unframedFields count).2.buffer ∧
      decodePieces pieces = .error fault := by
  obtain ⟨-, hs⟩ | ⟨-, pieces, rest, hlength, hzero, hbuffer, hs⟩ := unframedFields_cases s count
  · rw [hs] at h
    cases h
  · rw [hs] at h ⊢
    refine ⟨pieces, hlength, hzero, hbuffer, ?_⟩
    cases hd : decodePieces pieces with
    | ok texts =>
      rw [hd] at h
      cases h
    | error other =>
      rw [hd] at h
      cases h
      rfl

theorem next_kept {s : Scanner} (h : ∀ payload, s.next.1 ≠ .ok (some payload)) :
    s.next.2 = s := by
  obtain ⟨n, -, -, hn⟩ | ⟨-, -, hn⟩ | ⟨payload, rest, -, -, hn⟩ := next_cases s
  · rw [hn]
  · rw [hn]
  · exact absurd (by rw [hn]) (h payload)

/-- A length that no frame may have is still there when more has come in. -/
theorem next_push_of_error {s : Scanner} {fault : FrameFault} (h : s.next.1 = .error fault)
    (chunk : Bytes) : (s.push chunk).next = (.error fault, s.push chunk) := by
  obtain ⟨n, hn, hlong, hnext⟩ | ⟨-, -, hnext⟩ | ⟨payload, rest, -, -, hnext⟩ := next_cases s
  · rw [hnext] at h
    cases h
    exact next_isOversize (announced?_append hn chunk) hlong
  · rw [hnext] at h
    cases h
  · rw [hnext] at h
    cases h

/-- Behind such a length calls hand out nothing, and what they push is kept. -/
theorem serve_of_error {s : Scanner} {fault : FrameFault} (h : s.next.1 = .error fault)
    (calls : List Call) : s.serve calls = ([], s.push (pushed calls)) := by
  induction calls generalizing s with
  | nil => simp [serve, push, pushed]
  | cons call calls ih =>
    cases call with
    | push chunk =>
      have hpush := congrArg Prod.fst (next_push_of_error h chunk)
      rw [serve, ih hpush]
      simp [push, pushed]
    | next =>
      have hkept : s.next = (.error fault, s) :=
        Prod.ext h (next_kept (by simp [h]))
      rw [serve, hkept]
      exact ih h

/-- A call for a frame that hands out none keeps the buffer, and a length that no frame may have is
reported by every later call. A call for bare fields that hands out none keeps the buffer exactly if
one of their zero octets is missing: bare fields that are not UTF-8 are taken, all of those that were
asked for, and nothing behind them. -/
theorem kept_unless_taken (s : Scanner) (count : Nat) (calls : List Call) :
    ((∀ payload, s.next.1 ≠ .ok (some payload)) → s.next.2 = s) ∧
    ((∀ fields, (s.unframedFields count).1 ≠ .ok (some fields)) →
      ((s.unframedFields count).2 = s ↔ s.buffer.count 0 < count)) ∧
    ((s.unframedFields count).1 = .ok none ↔ s.buffer.count 0 < count) ∧
    (∀ fault, (s.unframedFields count).1 = .error fault →
      ∃ pieces, pieces.length = count ∧ (∀ piece ∈ pieces, (0 : UInt8) ∉ piece) ∧
        s.buffer = terminated pieces ++ (s.unframedFields count).2.buffer ∧
        decodePieces pieces = .error fault) ∧
    ∀ fault, s.next.1 = .error fault →
      s.serve calls = ([], s.push (pushed calls)) ∧
        (s.serve calls).2.next = (.error fault, (s.serve calls).2) := by
  refine ⟨next_kept, unframedFields_kept_iff, unframedFields_eq_none_iff s count,
    fun fault => unframedFields_taken, ?_⟩
  intro fault h
  rw [serve_of_error h]
  exact ⟨rfl, next_push_of_error h _⟩

/-- Half a length and an open piece are waited for; two bare fields of which the second is not UTF-8
are gone when that is reported; and a length of 2³² - 1 is reported again behind another octet. -/
theorem kept_unless_taken_cases :
    (⟨[0, 0]⟩ : Scanner).next.2 = ⟨[0, 0]⟩ ∧
      ((⟨[65]⟩ : Scanner).unframedFields 1).2 = ⟨[65]⟩ ∧
      (∃ pieces, pieces.length = 2 ∧ [65, 0, 255, 0, 66] = terminated pieces ++ [66] ∧
        decodePieces pieces = .error (.invalid 1 0)) ∧
      ((⟨[255, 255, 255, 255]⟩ : Scanner).serve [.push [0], .next]).2.next =
        (.error (.announced 4294967295), ⟨[255, 255, 255, 255, 0]⟩) := by
  have hhalf : (⟨[0, 0]⟩ : Scanner).next.1 = .ok none := by decide
  have hopen : ((⟨[65]⟩ : Scanner).unframedFields 1).1 = .ok none := by decide
  have hbare : (⟨[65, 0, 255, 0, 66]⟩ : Scanner).unframedFields 2 =
      (.error (.invalid 1 0), ⟨[66]⟩) := by
    decide
  have hbig : (⟨[255, 255, 255, 255]⟩ : Scanner).next.1 = .error (.announced 4294967295) := by
    decide
  obtain ⟨hkept, -⟩ := kept_unless_taken ⟨[0, 0]⟩ 0 []
  obtain ⟨-, hwaits, -⟩ := kept_unless_taken ⟨[65]⟩ 1 []
  obtain ⟨-, -, -, htaken, -⟩ := kept_unless_taken ⟨[65, 0, 255, 0, 66]⟩ 2 []
  obtain ⟨-, -, -, -, hstays⟩ := kept_unless_taken ⟨[255, 255, 255, 255]⟩ 0 [.push [0], .next]
  refine ⟨hkept (by simp [hhalf]), (hwaits (by simp [hopen])).mpr (by decide), ?_,
    (hstays _ hbig).2⟩
  obtain ⟨pieces, hlength, -, hs, hfault⟩ := htaken _ (congrArg Prod.fst hbare)
  rw [hbare] at hs
  exact ⟨pieces, hlength, hs, hfault⟩

/-- So a call that reports a fault does not always keep the buffer: one piece that is not UTF-8 is
gone behind it. -/
theorem unframedFields_fault_takes :
    ¬ ∀ (s : Scanner) (count : Nat),
      (∀ fields, (s.unframedFields count).1 ≠ .ok (some fields)) →
        (s.unframedFields count).2.buffer = s.buffer := by
  intro hall
  have hbare : (⟨[255, 0]⟩ : Scanner).unframedFields 1 = (.error (.invalid 1 0), {}) := by
    decide
  have hkept := hall ⟨[255, 0]⟩ 1 (by simp [hbare])
  rw [hbare] at hkept
  cases hkept

end Scanner

end BrokerWire
