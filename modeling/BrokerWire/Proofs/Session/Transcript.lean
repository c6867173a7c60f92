import BrokerWire.Proofs.Event.Notices
import BrokerWire.Proofs.Wire.Framing
import BrokerWire.Session.Scenario

namespace BrokerWire

open BrokerWire.Frame

namespace Inbox

/-- What is told of a payload that cannot be decoded. -/
def undecodableNotice (fault : FieldFault) : Notice :=
  .error (-1) 0 508 ("Bad message Decoding error: " ++ fault.message) ""

/-- What is told of a length that no frame may have. -/
def oversizeNotice (length : Nat) : Notice :=
  .error (-1) 0 507
    ("Bad message length Protocol error: frame length " ++ toString length ++
      " exceeds maximum 16777215") ""

theorem notice_ofField (fault : FieldFault) :
    (ApiError.ofField fault).notice ClientError.noRequest = undecodableNotice fault := rfl

theorem notice_ofFrame (length : Nat) :
    (ApiError.ofFrame (.announced length)).notice ClientError.noRequest =
      oversizeNotice length := rfl

/-- What is told of payloads one after the other, up to the first that cannot be decoded. If all can
be decoded, `last` is told behind them. -/
def told (sv : ServerVersion) (last : List Notice) : List Bytes → List Notice
  | [] => last
  | payload :: payloads =>
    if payload = [] then told sv last payloads
    else
      match Event.decode sv payload with
      | .ok event => event.notices ++ told sv last payloads
      | .error fault => [undecodableNotice fault]

/-- What is told when a stream ends with octets that begin no whole frame. -/
def farewell (rest : Bytes) : List Notice :=
  match announced? rest with
  | some length =>
    if maxPayload < length then [oversizeNotice length, .connectionClosed] else [.connectionClosed]
  | none => [.connectionClosed]

theorem farewell_isOversize {rest : Bytes} {n : Nat} (h : announced? rest = some n)
    (hn : maxPayload < n) : farewell rest = [oversizeNotice n, .connectionClosed] := by
  rw [farewell, h]
  exact if_pos hn

theorem farewell_of_not_isOversize {rest : Bytes} (h : ¬ IsOversize rest) :
    farewell rest = [.connectionClosed] := by
  rw [farewell]
  cases ha : announced? rest with
  | none => rfl
  | some n => exact if_neg fun hn => h ⟨n, ha, hn⟩

/-- What is told of a whole stream and its end. -/
def transcript (sv : ServerVersion) (stream : Bytes) : List Notice :=
  let (payloads, s) := Scanner.takeAll ⟨stream⟩
  told sv (farewell s.buffer) payloads

theorem transcript_eq (sv : ServerVersion) {stream rest : Bytes} {payloads : List Bytes}
    (h : Splits stream payloads rest) :
    transcript sv stream = told sv (farewell rest) payloads := by
  rw [transcript, h.takeAll_eq]

theorem told_cons (sv : ServerVersion) (last : List Notice) (payload : Bytes)
    (payloads : List Bytes) :
    told sv last (payload :: payloads) =
      match arrive sv payload with
      | (notices, some _) => notices
      | (notices, none) => notices ++ told sv last payloads := by
  rw [told, arrive]
  split
  · rfl
  · cases Event.decode sv payload with
    | ok event => rfl
    | error fault =>
      dsimp only
      rw [notice_ofField]

theorem transcript_octets (sv : ServerVersion) {payload : Bytes} (stream : Bytes)
    (h : payload.length ≤ maxPayload) :
    transcript sv (octets payload ++ stream) =
      match arrive sv payload with
      | (notices, some _) => notices
      | (notices, none) => notices ++ transcript sv stream := by
  rw [transcript, Scanner.takeAll_octets payload stream h]
  exact told_cons sv _ payload _

theorem transcript_isOversize (sv : ServerVersion) {stream : Bytes} {n : Nat}
    (h : announced? stream = some n) (hn : maxPayload < n) :
    transcript sv stream = [oversizeNotice n, .connectionClosed] := by
  have hc := not_hasFrame_of_isOversize ⟨n, h, hn⟩
  rw [transcript_eq sv (.nil hc), told, farewell_isOversize h hn]

theorem transcript_of_not_hasFrame (sv : ServerVersion) {stream : Bytes}
    (hbig : ¬ IsOversize stream) (hc : ¬ HasFrame stream) :
    transcript sv stream = [.connectionClosed] := by
  rw [transcript_eq sv (.nil hc), told, farewell_of_not_isOversize hbig]

theorem drain_isOversize (sv : ServerVersion) {s : Scanner} {n : Nat}
    (h : announced? s.buffer = some n) (hn : maxPayload < n) :
    drain sv s = ⟨[oversizeNotice n, .connectionClosed], [], some .oversize, s⟩ := by
  have hnext := Scanner.next_isOversize h hn
  rw [drain]
  split
  · next hs =>
    rw [hnext] at hs
    cases hs
    rw [notice_ofFrame]
  · next hs => rw [hnext] at hs; cases hs
  · next hs => rw [hnext] at hs; cases hs

theorem drain_of_not_hasFrame (sv : ServerVersion) {s : Scanner} (hbig : ¬ IsOversize s.buffer)
    (hc : ¬ HasFrame s.buffer) : drain sv s = ⟨[], [], none, s⟩ := by
  have hnext := Scanner.next_of_not_hasFrame hbig hc
  rw [drain]
  split
  · next hs => rw [hnext] at hs; cases hs
  · next hs =>
    rw [hnext] at hs
    cases hs
    rfl
  · next hs => rw [hnext] at hs; cases hs

theorem drain_octets (sv : ServerVersion) {payload : Bytes} (rest : Bytes)
    (h : payload.length ≤ maxPayload) :
    drain sv ⟨octets payload ++ rest⟩ =
      match arrive sv payload with
      | (notices, some ending) =>
        ⟨notices, [headerLength + payload.length], some ending, ⟨rest⟩⟩
      | (notices, none) =>
        let d := drain sv ⟨rest⟩
        ⟨notices ++ d.notices, (headerLength + payload.length) :: d.frames, d.ending,
          d.scanner⟩ := by
  have hnext := Scanner.next_octets payload rest h
  rw [drain]
  split
  · next hs => rw [hnext] at hs; cases hs
  · next hs => rw [hnext] at hs; cases hs
  · next hs =>
    rw [hnext] at hs
    cases hs
    rfl

/-- What is told of a stream begins with what draining its front tells. If draining does not end the
session, it goes on with what is left and what is behind. -/
theorem transcript_append (sv : ServerVersion) (s : Scanner) (later : Bytes) :
    transcript sv (s.buffer ++ later) =
      (drain sv s).notices ++
        match (drain sv s).ending with
        | some _ => []
        | none => transcript sv ((drain sv s).scanner.buffer ++ later) := by
  induction s using Scanner.frame_induction with
  | oversize s n h hn =>
    rw [drain_isOversize sv h hn, transcript_isOversize sv (announced?_append h later) hn]
    rfl
  | incomplete s hbig hc =>
    rw [drain_of_not_hasFrame sv hbig hc]
    rfl
  | frame payload rest hp ih =>
    rw [List.append_assoc, transcript_octets sv _ hp, drain_octets sv rest hp]
    cases arrive sv payload with
    | mk notices ending =>
      cases ending with
      | some ending => simp
      | none =>
        dsimp only at ih ⊢
        rw [ih, List.append_assoc]

/-- Whether nothing more can be taken from an inbox before it receives more. -/
def IsDrained (i : Inbox) : Prop :=
  i.ending = none → ¬ IsOversize i.scanner.buffer ∧ ¬ HasFrame i.scanner.buffer

theorem drain_drained (sv : ServerVersion) (s : Scanner) (h : (drain sv s).ending = none) :
    ¬ IsOversize (drain sv s).scanner.buffer ∧ ¬ HasFrame (drain sv s).scanner.buffer := by
  induction s using Scanner.frame_induction with
  | oversize s n hl hn =>
    rw [drain_isOversize sv hl hn] at h
    cases h
  | incomplete s hbig hc =>
    rw [drain_of_not_hasFrame sv hbig hc]
    exact ⟨hbig, hc⟩
  | frame payload rest hp ih =>
    rw [drain_octets sv rest hp] at h ⊢
    cases harrive : arrive sv payload with
    | mk notices ending =>
      rw [harrive] at h
      cases ending with
      | some ending => cases h
      | none => exact ih h

/-- What an inbox is still to tell if `later` arrives and the stream ends behind it. -/
def outlook (i : Inbox) (later : Bytes) : List Notice :=
  match i.ending with
  | some _ => []
  | none => transcript i.version (i.scanner.buffer ++ later)

theorem outlook_receive (i : Inbox) (chunk later : Bytes) :
    i.outlook (chunk ++ later) = (i.receive chunk).1 ++ (i.receive chunk).2.2.outlook later := by
  unfold outlook receive
  cases h : i.ending with
  | some ending => simp [h]
  | none =>
    dsimp only
    rw [← List.append_assoc]
    exact transcript_append i.version (i.scanner.push chunk) later

theorem isDrained_receive (i : Inbox) (chunk : Bytes) : (i.receive chunk).2.2.IsDrained := by
  unfold receive
  cases h : i.ending with
  | some ending =>
    intro hnone
    rw [h] at hnone
    cases hnone
  | none => exact drain_drained i.version (i.scanner.push chunk)

/-- What is told of chunks depends on their octets alone. -/
theorem outlook_receiveAll (i : Inbox) (chunks : List Bytes) (later : Bytes) :
    i.outlook (chunks.flatten ++ later) =
      (i.receiveAll chunks).1 ++ (i.receiveAll chunks).2.2.outlook later := by
  induction chunks generalizing i with
  | nil => rfl
  | cons chunk chunks ih =>
    rw [List.flatten_cons, List.append_assoc, outlook_receive, ih, receiveAll]
    simp only [List.append_assoc]

theorem isDrained_receiveAll {i : Inbox} (h : i.IsDrained) (chunks : List Bytes) :
    (i.receiveAll chunks).2.2.IsDrained := by
  induction chunks generalizing i with
  | nil => exact h
  | cons chunk chunks ih => exact ih (isDrained_receive i chunk)

/-- The end of the stream is told as it is told of a whole stream. -/
theorem close_outlook {i : Inbox} (h : i.IsDrained) : i.close.1 = i.outlook [] := by
  unfold close outlook
  cases hend : i.ending with
  | some ending => rfl
  | none =>
    obtain ⟨hbig, hc⟩ := h hend
    dsimp only
    rw [List.append_nil, transcript_of_not_hasFrame _ hbig hc]

/-- What is told before the end is told of messages. -/
theorem mem_told {sv : ServerVersion} {last : List Notice} {payloads : List Bytes} {n : Notice}
    (h : n ∈ told sv last payloads) : n ∈ last ∨ n.IsData := by
  induction payloads with
  | nil => exact .inl h
  | cons payload payloads ih =>
    rw [told] at h
    split at h
    · exact ih h
    · cases hd : Event.decode sv payload with
      | ok event =>
        rw [hd] at h
        obtain hm | hm := List.mem_append.mp h
        · exact .inr (Event.data_of_decode hd n hm)
        · exact ih hm
      | error fault =>
        rw [hd] at h
        rw [List.mem_singleton.mp h]
        exact .inr ⟨nofun, nofun⟩

/-- The opening of a session is not told again. -/
theorem connectAck_not_mem_told (sv : ServerVersion) (rest : Bytes) (payloads : List Bytes) :
    .connectAck ∉ told sv (farewell rest) payloads := by
  intro h
  obtain hm | hdata := mem_told h
  · by_cases hbig : IsOversize rest
    · obtain ⟨n, ha, hn⟩ := hbig
      rw [farewell_isOversize ha hn] at hm
      simp [oversizeNotice] at hm
    · rw [farewell_of_not_isOversize hbig] at hm
      simp at hm
  · exact hdata.1 rfl

/-- The end of a session is told once at most. -/
theorem count_told (sv : ServerVersion) {last : List Notice}
    (h : last.count .connectionClosed ≤ 1) (payloads : List Bytes) :
    (told sv last payloads).count .connectionClosed ≤ 1 := by
  induction payloads with
  | nil => exact h
  | cons payload payloads ih =>
    rw [told]
    split
    · exact ih
    · cases hd : Event.decode sv payload with
      | ok event =>
        have hnone : event.notices.count .connectionClosed = 0 :=
          List.count_eq_zero.mpr fun hm => (Event.data_of_decode hd _ hm).2 rfl
        dsimp only
        rw [List.count_append, hnone]
        omega
      | error fault => exact Nat.zero_le 1

theorem count_farewell (rest : Bytes) : (farewell rest).count .connectionClosed ≤ 1 := by
  have hclosed : [Notice.connectionClosed].count .connectionClosed ≤ 1 := List.count_le_length
  by_cases hbig : IsOversize rest
  · obtain ⟨n, ha, hn⟩ := hbig
    rw [farewell_isOversize ha hn, List.count_cons_of_ne (by nofun)]
    exact hclosed
  · rw [farewell_of_not_isOversize hbig]
    exact hclosed

end Inbox

end BrokerWire
