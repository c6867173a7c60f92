import BrokerWire.Session.Inbox
import Mathlib.Data.List.Basic

namespace BrokerWire

namespace Frame

/-- A payload behind its length. -/
def octets (payload : Bytes) : Bytes :=
  header payload.length ++ payload

/-- The length that octets begin with, once all of it is there. -/
def announced? : Bytes → Option Nat
  | a :: b :: c :: d :: _ => some (headerValue a b c d)
  | _ => none

/-- Whether octets begin with a length that no frame may have. -/
def IsOversize (stream : Bytes) : Prop :=
  ∃ n, announced? stream = some n ∧ maxPayload < n

/-- Whether octets begin with a whole frame. -/
def HasFrame (stream : Bytes) : Prop :=
  ∃ payload rest, payload.length ≤ maxPayload ∧ stream = octets payload ++ rest

theorem headerValue_header (n : Nat) (h : n ≤ maxPayload) :
    headerValue (UInt8.ofNat (n / 16777216)) (UInt8.ofNat (n / 65536)) (UInt8.ofNat (n / 256))
      (UInt8.ofNat n) = n := by
  have hb : n ≤ 16777215 := h
  simp only [headerValue, UInt8.toNat_ofNat']
  omega

theorem header_headerValue (a b c d : UInt8) : header (headerValue a b c d) = [a, b, c, d] := by
  have ha := a.toNat_lt
  have hb := b.toNat_lt
  have hc := c.toNat_lt
  have hd := d.toNat_lt
  have octet (x : UInt8) (n : Nat) (h : n % 256 = x.toNat) : UInt8.ofNat n = x := by
    apply UInt8.toNat_inj.mp
    rw [UInt8.toNat_ofNat', h]
  unfold header headerValue
  rw [octet a _ (by omega), octet b _ (by omega), octet c _ (by omega), octet d _ (by omega)]

theorem announced?_octets (payload rest : Bytes) (h : payload.length ≤ maxPayload) :
    announced? (octets payload ++ rest) = some payload.length := by
  simp only [octets, header, List.cons_append, announced?]
  rw [headerValue_header _ h]

theorem announced?_append {stream : Bytes} {n : Nat} (h : announced? stream = some n)
    (more : Bytes) : announced? (stream ++ more) = some n := by
  match stream, h with
  | a :: b :: c :: d :: rest, h => exact h

/-- A frame that is complete is not oversize. -/
theorem not_isOversize_octets (payload rest : Bytes) (h : payload.length ≤ maxPayload) :
    ¬ IsOversize (octets payload ++ rest) := by
  rintro ⟨n, hn, hlong⟩
  rw [announced?_octets payload rest h] at hn
  cases hn
  omega

theorem not_hasFrame_of_isOversize {stream : Bytes} (h : IsOversize stream) :
    ¬ HasFrame stream := by
  rintro ⟨payload, rest, hp, rfl⟩
  exact not_isOversize_octets payload rest hp h

theorem encode_eq_ok_iff (payload frame : Bytes) :
    encode payload = .ok frame ↔ payload.length ≤ maxPayload ∧ frame = octets payload := by
  unfold encode octets
  by_cases h : maxPayload < payload.length
  · simp [h, Nat.not_le.mpr h]
  · simp [h, Nat.le_of_not_lt h, eq_comm]

end Frame

namespace Scanner

open BrokerWire.Frame

theorem next_octets (payload rest : Bytes) (h : payload.length ≤ maxPayload) :
    (⟨octets payload ++ rest⟩ : Scanner).next = (.ok (some payload), ⟨rest⟩) := by
  have hshort : ¬ maxPayload < payload.length := by omega
  simp only [octets, header, List.cons_append, List.nil_append, next]
  rw [headerValue_header _ h]
  simp [hshort]

theorem next_isOversize {s : Scanner} {n : Nat} (h : announced? s.buffer = some n)
    (hn : maxPayload < n) : s.next = (.error (.announced n), s) := by
  obtain ⟨buffer⟩ := s
  match buffer, h with
  | a :: b :: c :: d :: rest, h =>
    cases h
    simp [next, hn]

/-- Two streams that begin with whole frames are one stream only if the frames are one. -/
theorem octets_append_inj {payload payload' rest rest' : Bytes} (h : payload.length ≤ maxPayload)
    (h' : payload'.length ≤ maxPayload) (he : octets payload ++ rest = octets payload' ++ rest') :
    payload = payload' ∧ rest = rest' := by
  have hn := next_octets payload rest h
  rw [he, next_octets payload' rest' h'] at hn
  simpa [eq_comm] using hn

/-- A header that does not announce too much and whose payload is there begins a whole frame. -/
theorem hasFrame_of_length (a b c d : UInt8) (rest : Bytes)
    (hshort : headerValue a b c d ≤ maxPayload) (hrest : headerValue a b c d ≤ rest.length) :
    a :: b :: c :: d :: rest = octets (rest.take (headerValue a b c d)) ++
      rest.drop (headerValue a b c d) ∧
      (rest.take (headerValue a b c d)).length ≤ maxPayload := by
  have hlen : (rest.take (headerValue a b c d)).length = headerValue a b c d := by
    rw [List.length_take]
    omega
  constructor
  · rw [octets, hlen, header_headerValue, List.append_assoc, List.take_append_drop]
    rfl
  · omega

/-- What one call can lead to: a fault that stays, nothing, or the frame that the buffer begins
with. -/
theorem next_cases (s : Scanner) :
    (∃ n, announced? s.buffer = some n ∧ maxPayload < n ∧
      s.next = (.error (.announced n), s)) ∨
    (¬ IsOversize s.buffer ∧ ¬ HasFrame s.buffer ∧ s.next = (.ok none, s)) ∨
    (∃ payload rest, payload.length ≤ maxPayload ∧ s.buffer = octets payload ++ rest ∧
      s.next = (.ok (some payload), ⟨rest⟩)) := by
  by_cases hbig : IsOversize s.buffer
  · obtain ⟨n, hn, hlong⟩ := hbig
    exact .inl ⟨n, hn, hlong, next_isOversize hn hlong⟩
  by_cases hc : HasFrame s.buffer
  · obtain ⟨payload, rest, hp, hs⟩ := hc
    obtain ⟨buffer⟩ := s
    cases hs
    exact .inr (.inr ⟨payload, rest, hp, rfl, next_octets payload rest hp⟩)
  refine .inr (.inl ⟨hbig, hc, ?_⟩)
  obtain ⟨buffer⟩ := s
  unfold next
  split
  · next a b c d rest hb =>
    have hshort : headerValue a b c d ≤ maxPayload := by
      by_contra hlong
      exact hbig ⟨_, by rw [hb]; rfl, Nat.lt_of_not_le hlong⟩
    have hrest : rest.length < headerValue a b c d := by
      by_contra hlong
      have h := hasFrame_of_length a b c d rest hshort (Nat.le_of_not_lt hlong)
      exact hc ⟨_, _, h.2, hb.trans h.1⟩
    simp [Nat.not_lt.mpr hshort, hrest]
  · rfl

theorem next_of_not_hasFrame {s : Scanner} (hbig : ¬ IsOversize s.buffer)
    (hc : ¬ HasFrame s.buffer) : s.next = (.ok none, s) := by
  obtain ⟨n, hn, hlong, -⟩ | ⟨-, -, h⟩ | ⟨payload, rest, hp, hs, -⟩ := next_cases s
  · exact absurd ⟨n, hn, hlong⟩ hbig
  · exact h
  · exact absurd ⟨payload, rest, hp, hs⟩ hc

/-- Induction on a buffer, frame by frame from the front. -/
theorem frame_induction {P : Scanner → Prop}
    (oversize : ∀ s n, announced? s.buffer = some n → maxPayload < n → P s)
    (incomplete : ∀ s, ¬ IsOversize s.buffer → ¬ HasFrame s.buffer → P s)
    (frame : ∀ payload rest, payload.length ≤ maxPayload → P ⟨rest⟩ → P ⟨octets payload ++ rest⟩)
    (s : Scanner) : P s := by
  induction hlength : s.buffer.length using Nat.strongRecOn generalizing s with
  | ind n ih =>
    obtain ⟨length, h, hlong, -⟩ | ⟨hbig, hc, -⟩ | ⟨payload, rest, hp, hs, hnext⟩ := next_cases s
    · exact oversize s length h hlong
    · exact incomplete s hbig hc
    · have hlt : rest.length < n := by
        have hl := next_length hnext
        dsimp only at hl
        rw [headerLength] at hl
        omega
      obtain ⟨buffer⟩ := s
      dsimp only at hs
      subst hs
      exact frame payload rest hp (ih rest.length hlt ⟨rest⟩ rfl)

/-- A frame of which octets are missing is waited for. -/
theorem next_of_isPrefix {payload part : Bytes} (h : payload.length ≤ maxPayload)
    (hp : part <+: octets payload) (hne : part ≠ octets payload) :
    (⟨part⟩ : Scanner).next = (.ok none, ⟨part⟩) := by
  obtain ⟨missing, hm⟩ := hp
  obtain ⟨n, hn, hlong, -⟩ | ⟨-, -, hnext⟩ | ⟨taken, rest, ht, hs, -⟩ := next_cases ⟨part⟩
  · have hannounced := announced?_append hn missing
    rw [hm, ← List.append_nil (octets payload), announced?_octets payload [] h] at hannounced
    cases hannounced
    omega
  · exact hnext
  · change part = _ at hs
    rw [hs, List.append_assoc, ← List.append_nil (octets payload)] at hm
    obtain ⟨rfl, hnil⟩ := octets_append_inj ht h hm
    rw [List.append_eq_nil_iff] at hnil
    exact absurd (by rw [hs, hnil.1, List.append_nil]) hne

theorem next_eq_error_iff (s : Scanner) :
    (∃ fault, s.next.1 = .error fault) ↔ IsOversize s.buffer := by
  obtain ⟨n, hn, hlong, h⟩ | ⟨hbig, -, h⟩ | ⟨payload, rest, hp, hs, h⟩ := next_cases s
  · exact iff_of_true ⟨_, by rw [h]⟩ ⟨n, hn, hlong⟩
  · exact iff_of_false (by rintro ⟨fault, hf⟩; simp [h] at hf) hbig
  · refine iff_of_false (by rintro ⟨fault, hf⟩; simp [h] at hf) ?_
    rw [hs]
    exact not_isOversize_octets payload rest hp

theorem next_eq_none_iff (s : Scanner) :
    s.next.1 = .ok none ↔ ¬ IsOversize s.buffer ∧ ¬ HasFrame s.buffer := by
  obtain ⟨n, hn, hlong, h⟩ | ⟨hbig, hc, h⟩ | ⟨payload, rest, hp, hs, h⟩ := next_cases s
  · exact iff_of_false (by simp [h]) (fun k => k.1 ⟨n, hn, hlong⟩)
  · exact iff_of_true (by rw [h]) ⟨hbig, hc⟩
  · exact iff_of_false (by simp [h]) (fun k => k.2 ⟨payload, rest, hp, hs⟩)

/-- All frames that are whole, and the scanner that is left: calls of `next` until one hands out
nothing. -/
def takeAll (s : Scanner) : List Bytes × Scanner :=
  match _h : s.next with
  | (.ok (some payload), rest) => (payload :: (takeAll rest).1, (takeAll rest).2)
  | _ => ([], s)
termination_by s.buffer.length
decreasing_by
  all_goals
    have := next_length _h
    simp only [headerLength] at this
    omega

theorem takeAll_octets (payload rest : Bytes) (h : payload.length ≤ maxPayload) :
    takeAll ⟨octets payload ++ rest⟩ = (payload :: (takeAll ⟨rest⟩).1, (takeAll ⟨rest⟩).2) := by
  rw [takeAll]
  split
  · next taken left hn =>
    rw [next_octets payload rest h] at hn
    cases hn
    rfl
  · next hn => exact absurd (next_octets payload rest h) (hn payload ⟨rest⟩)

theorem takeAll_of_not_hasFrame (s : Scanner) (h : ¬ HasFrame s.buffer) :
    takeAll s = ([], s) := by
  rw [takeAll]
  split
  · next payload rest hn =>
    obtain ⟨n, -, -, he⟩ | ⟨-, -, he⟩ | ⟨taken, left, hp, hs, -⟩ := next_cases s
    · rw [he] at hn; cases hn
    · rw [he] at hn; cases hn
    · exact absurd ⟨taken, left, hp, hs⟩ h
  · rfl

end Scanner

namespace Frame

/-- A stream as payloads of whole frames and what is behind them, which begins no whole frame. -/
structure Splits (stream : Bytes) (payloads : List Bytes) (rest : Bytes) : Prop where
  stream_eq : stream = payloads.flatMap octets ++ rest
  fits : ∀ payload ∈ payloads, payload.length ≤ maxPayload
  rest_incomplete : ¬ HasFrame rest

theorem Splits.nil {rest : Bytes} (h : ¬ HasFrame rest) : Splits rest [] rest :=
  ⟨rfl, by simp, h⟩

theorem Splits.cons {stream rest payload : Bytes} {payloads : List Bytes}
    (hp : payload.length ≤ maxPayload) (h : Splits stream payloads rest) :
    Splits (octets payload ++ stream) (payload :: payloads) rest := by
  refine ⟨?_, ?_, h.rest_incomplete⟩
  · rw [h.stream_eq, List.flatMap_cons, List.append_assoc]
  · intro other hm
    obtain rfl | hm := List.mem_cons.mp hm
    · exact hp
    · exact h.fits other hm

/-- The frames of a stream are what a scanner takes. A stream splits in one way only, since taking
has one result. -/
theorem Splits.takeAll_eq {stream rest : Bytes} {payloads : List Bytes}
    (h : Splits stream payloads rest) : Scanner.takeAll ⟨stream⟩ = (payloads, ⟨rest⟩) := by
  obtain ⟨rfl, hfits, hrest⟩ := h
  induction payloads with
  | nil => exact Scanner.takeAll_of_not_hasFrame ⟨rest⟩ hrest
  | cons payload payloads ih =>
    have hp := hfits payload List.mem_cons_self
    have htail := ih fun other hm => hfits other (List.mem_cons_of_mem payload hm)
    rw [List.flatMap_cons, List.append_assoc, Scanner.takeAll_octets payload _ hp, htail]

/-- Every stream splits, namely into what a scanner takes and what it leaves. -/
theorem splits_takeAll (s : Scanner) :
    Splits s.buffer (Scanner.takeAll s).1 (Scanner.takeAll s).2.buffer := by
  induction s using Scanner.frame_induction with
  | oversize s n h hn =>
    have hc := not_hasFrame_of_isOversize ⟨n, h, hn⟩
    rw [Scanner.takeAll_of_not_hasFrame s hc]
    exact .nil hc
  | incomplete s hbig hc =>
    rw [Scanner.takeAll_of_not_hasFrame s hc]
    exact .nil hc
  | frame payload rest hp ih =>
    rw [Scanner.takeAll_octets payload rest hp]
    exact .cons hp ih

theorem Splits.unique {stream rest rest' : Bytes} {payloads payloads' : List Bytes}
    (h : Splits stream payloads rest) (h' : Splits stream payloads' rest') :
    payloads = payloads' ∧ rest = rest' := by
  have he := h.takeAll_eq.symm.trans h'.takeAll_eq
  simpa using he

end Frame

namespace Scanner

open BrokerWire.Frame

/-- A call of a scanner. -/
inductive Call where
  | push (chunk : Bytes)
  | next
  deriving DecidableEq

/-- What a list of calls pushes. -/
def pushed (calls : List Call) : Bytes :=
  calls.flatMap fun
    | .push chunk => chunk
    | .next => []

/-- Makes calls one after the other: the frames that they hand out, and the scanner that is left. -/
def serve (s : Scanner) : List Call → List Bytes × Scanner
  | [] => ([], s)
  | .push chunk :: calls => (s.push chunk).serve calls
  | .next :: calls =>
    match s.next with
    | (.ok (some payload), rest) => (payload :: (rest.serve calls).1, (rest.serve calls).2)
    | (_, rest) => rest.serve calls

/-- Makes calls and then takes what is left: all frames, and the scanner at the end. -/
def serveAll (calls : List Call) : List Bytes × Scanner :=
  let (frames, s) := ({} : Scanner).serve calls
  (frames ++ s.takeAll.1, s.takeAll.2)

/-- Calls lose nothing: frames handed out and octets kept are what was there and what was pushed. -/
theorem serve_conserves (s : Scanner) (calls : List Call) :
    (s.serve calls).1.flatMap octets ++ (s.serve calls).2.buffer = s.buffer ++ pushed calls ∧
      ∀ payload ∈ (s.serve calls).1, payload.length ≤ maxPayload := by
  induction calls generalizing s with
  | nil => simp [serve, pushed]
  | cons call calls ih =>
    cases call with
    | push chunk =>
      have h := ih (s.push chunk)
      refine ⟨?_, h.2⟩
      rw [serve, h.1]
      simp [push, pushed]
    | next =>
      have hpushed : pushed (.next :: calls) = pushed calls := rfl
      rw [hpushed, serve]
      obtain ⟨n, -, -, hn⟩ | ⟨-, -, hn⟩ | ⟨payload, rest, hp, hs, hn⟩ := next_cases s
      · simpa only [hn] using ih s
      · simpa only [hn] using ih s
      · have h := ih ⟨rest⟩
        simp only [hn]
        constructor
        · rw [List.flatMap_cons, List.append_assoc, h.1, hs, List.append_assoc]
        · intro other hm
          obtain rfl | hm := List.mem_cons.mp hm
          · exact hp
          · exact h.2 other hm

/-- All frames of a schedule are those of the stream that it pushed. -/
theorem splits_serveAll (calls : List Call) :
    Splits (pushed calls) (serveAll calls).1 (serveAll calls).2.buffer := by
  have hs := serve_conserves {} calls
  have ht := splits_takeAll (({} : Scanner).serve calls).2
  refine ⟨?_, ?_, ht.rest_incomplete⟩
  · have h := hs.1
    rw [ht.stream_eq, List.nil_append, ← List.append_assoc, ← List.flatMap_append] at h
    exact h.symm
  · intro payload hm
    obtain hm | hm := List.mem_append.mp hm
    · exact hs.2 payload hm
    · exact ht.fits payload hm

theorem serveAll_eq {calls : List Call} {payloads : List Bytes} {rest : Bytes}
    (h : Splits (pushed calls) payloads rest) : serveAll calls = (payloads, ⟨rest⟩) := by
  have hu := (splits_serveAll calls).unique h
  exact Prod.ext hu.1 (congrArg Scanner.mk hu.2)

theorem not_hasFrame_nil : ¬ HasFrame [] := by
  rintro ⟨payload, rest, -, h⟩
  simp [octets, header] at h

theorem mapM_encode {payloads : List Bytes} (h : ∀ payload ∈ payloads, payload.length ≤ maxPayload) :
    payloads.mapM encode = .ok (payloads.map octets) := by
  induction payloads with
  | nil => rfl
  | cons payload payloads ih =>
    have hp := (encode_eq_ok_iff payload _).mpr ⟨h payload List.mem_cons_self, rfl⟩
    have ht := ih fun other hm => h other (List.mem_cons_of_mem payload hm)
    rw [List.mapM_cons, hp, ht]
    rfl

/-- A scanner takes the frames of its stream, whole, in order and once each, whatever the chunks and
the moments at which frames are asked for. -/
theorem schedule_frames :
    (∀ calls : List Call,
      ((serve {} calls).1.flatMap octets ++ (serve {} calls).2.buffer = pushed calls) ∧
      ((serve {} calls).2.next.1 = .ok none ↔
        ¬ IsOversize (serve {} calls).2.buffer ∧ ¬ HasFrame (serve {} calls).2.buffer) ∧
      ((∃ fault, (serve {} calls).2.next.1 = .error fault) ↔
        IsOversize (serve {} calls).2.buffer)) ∧
    (∀ calls calls' : List Call, pushed calls = pushed calls' →
      serveAll calls = serveAll calls') ∧
    (∀ payloads : List Bytes, (∀ payload ∈ payloads, payload.length ≤ maxPayload) →
      ∃ frames, payloads.mapM encode = .ok frames ∧
        ∀ calls, pushed calls = frames.flatten → serveAll calls = (payloads, {})) ∧
    ∀ payload : Bytes, (∃ frame, encode payload = .ok frame) ↔ payload.length ≤ maxPayload := by
  refine ⟨fun calls => ⟨?_, next_eq_none_iff _, next_eq_error_iff _⟩, ?_, ?_, ?_⟩
  · simpa using (serve_conserves {} calls).1
  · intro calls calls' h
    have hs := splits_serveAll calls'
    rw [← h] at hs
    exact serveAll_eq hs
  · intro payloads hfits
    refine ⟨_, mapM_encode hfits, fun calls h => ?_⟩
    apply serveAll_eq
    refine ⟨?_, hfits, not_hasFrame_nil⟩
    rw [h, List.append_nil, List.flatMap_def]
  · intro payload
    simp only [encode_eq_ok_iff]
    exact ⟨fun ⟨_, h, _⟩ => h, fun h => ⟨_, h, rfl⟩⟩

/-- A frame and an empty one, with a call within the first length and one between the frames. -/
theorem schedule_frames_split :
    (∀ payload ∈ ([[65], []] : List Bytes), payload.length ≤ maxPayload) ∧
      serveAll [.push [0, 0], .next, .push [0, 1, 65, 0], .next, .push [0, 0, 0]] =
        ([[65], []], {}) := by
  have hfits : ∀ payload ∈ ([[65], []] : List Bytes), payload.length ≤ maxPayload := by decide
  obtain ⟨frames, hframes, hserve⟩ := schedule_frames.2.2.1 [[65], []] hfits
  have hoctets : frames = [[0, 0, 0, 1, 65], [0, 0, 0, 0]] := by
    rw [mapM_encode hfits] at hframes
    exact (Except.ok.inj hframes).symm
  refine ⟨hfits, hserve _ ?_⟩
  rw [hoctets]
  rfl

end Scanner

end BrokerWire
