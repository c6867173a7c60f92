import BrokerWire.Proofs.Session.Conversation

namespace BrokerWire

/-- Whether octets are a part of a frame: some from its first one on, but not all of them. -/
def Frame.IsPart (part : Bytes) : Prop :=
  part ≠ [] ∧ ∃ payload, payload.length ≤ maxPayload ∧ part <+: octets payload ∧
    part ≠ octets payload

theorem Frame.IsPart.incomplete {part : Bytes} (h : IsPart part) :
    ¬ IsOversize part ∧ ¬ HasFrame part := by
  obtain ⟨-, payload, hlength, hprefix, hne⟩ := h
  have hnext := Scanner.next_of_isPrefix hlength hprefix hne
  exact (Scanner.next_eq_none_iff ⟨part⟩).mp (congrArg Prod.fst hnext)

theorem Frame.incomplete_nil : ¬ IsOversize [] ∧ ¬ HasFrame [] := by
  refine ⟨?_, Scanner.not_hasFrame_nil⟩
  rintro ⟨n, hn, -⟩
  cases hn

/-- Payloads that can all be decoded are told one after the other. -/
theorem Inbox.told_of_decodes {sv : ServerVersion} {payloads : List Bytes} (last : List Notice)
    (h : ∀ payload ∈ payloads, (arrive sv payload).2 = none) :
    told sv last payloads = payloads.flatMap (fun payload => (arrive sv payload).1) ++ last := by
  induction payloads with
  | nil => rfl
  | cons payload payloads ih =>
    obtain ⟨hfirst, hrest⟩ := List.forall_mem_cons.mp h
    rw [told_cons, List.flatMap_cons, List.append_assoc, ← ih hrest]
    cases harrive : arrive sv payload with
    | mk notices ending =>
      rw [harrive] at hfirst
      cases hfirst
      rfl

namespace Scenario

section Play

variable {st : State} (hst : Reachable st) (hdown : st.client.shutDown = false)
  (hfree : st.client.isBusy = false) {d : Dial} {request : Bytes}
  (hrequest : Handshake.request d.options = .ok request) {answer : Bytes} {agreed : Handshake}
  (hanswer : Handshake.Accepts answer agreed) {frame : Bytes}
  (hstart : (Handshake.startApi agreed.serverVersion d.clientId
    st.client.capabilities).encode = .ok frame)

include hst hdown hfree hrequest hanswer hstart

/-- What the application is told depends on the octets behind the answer alone. -/
theorem play_transcript {stream : Bytes} {c : Course} (hoctets : c.octets = answer ++ stream)
    (hlength : answer.length ≤ c.reply.flatten.length) :
    st.play d c = .connectAck :: Inbox.transcript agreed.serverVersion stream := by
  obtain ⟨later, hlater⟩ := c.reply_isPrefix
  obtain ⟨early, hearly⟩ : ∃ early, answer ++ early = c.reply.flatten := by
    rw [hoctets] at hlater
    exact List.prefix_of_prefix_length_le ⟨stream, rfl⟩ ⟨later, hlater⟩ hlength
  have hstream : early ++ later = stream := by
    rw [hoctets, ← hearly, List.append_assoc] at hlater
    exact List.append_cancel_left hlater
  obtain ⟨left, chunks, hawait, hleft⟩ := Handshake.await_accepts hanswer (s := {}) hearly.symm
  cases c with
  | leaves reply =>
    have hopens := opens_connect hst.bounded hdown hfree
      (d := { d with peer := .server reply true none }) hrequest rfl hawait hstart
    have hnone : later = [] := List.append_right_eq_self.mp hlater
    rw [State.play, opens_notices_leaving rfl hopens, hleft, ← hstream, hnone, List.append_nil]
  | stays reply laters =>
    have hopens := opens_connect hst.bounded hdown hfree
      (d := { d with peer := .server reply false none }) hrequest rfl hawait hstart
    have hlaters : laters.flatten.flatten = later := List.append_cancel_left hlater.symm
    rw [State.play]
    dsimp only
    rw [opens_notices rfl hopens laters, ← List.append_assoc, hleft, hlaters, hstream]

/-- A frame that the end of the stream cuts off is not told: behind the notices of the whole frames
stands the end of the session alone, as if the server had left between two frames. -/
theorem play_cutOff {payloads : List Bytes}
    (hfits : ∀ payload ∈ payloads, payload.length ≤ maxPayload)
    (hdecodes : ∀ payload ∈ payloads, (Inbox.arrive agreed.serverVersion payload).2 = none)
    {part : Bytes} (hpart : Frame.IsPart part) {c c' : Course}
    (hoctets : c.octets = answer ++ (payloads.flatMap Frame.octets ++ part))
    (hlength : answer.length ≤ c.reply.flatten.length)
    (hoctets' : c'.octets = answer ++ payloads.flatMap Frame.octets)
    (hlength' : answer.length ≤ c'.reply.flatten.length) :
    st.play d c =
        .connectAck ::
          (payloads.flatMap (fun payload => (Inbox.arrive agreed.serverVersion payload).1) ++
            [.connectionClosed]) ∧
      st.play d c' = st.play d c := by
  have hplay {rest : Bytes} (hrest : ¬ Frame.IsOversize rest ∧ ¬ Frame.HasFrame rest)
      {course : Course}
      (hcourse : course.octets = answer ++ (payloads.flatMap Frame.octets ++ rest))
      (henough : answer.length ≤ course.reply.flatten.length) :
      st.play d course = .connectAck ::
        (payloads.flatMap (fun payload => (Inbox.arrive agreed.serverVersion payload).1) ++
          [.connectionClosed]) := by
    have hsplits : Frame.Splits (payloads.flatMap Frame.octets ++ rest) payloads rest :=
      ⟨rfl, hfits, hrest.2⟩
    rw [play_transcript hst hdown hfree hrequest hanswer hstart hcourse henough,
      Inbox.transcript_eq _ hsplits, Inbox.farewell_of_not_isOversize hrest.1,
      Inbox.told_of_decodes _ hdecodes]
  have hcut := hplay hpart.incomplete hoctets hlength
  have hclean := hplay Frame.incomplete_nil (by rw [hoctets', List.append_nil]) hlength'
  exact ⟨hcut, hclean.trans hcut.symm⟩

end Play

theorem accepts_noon :
    Handshake.Accepts [0, 0, 0, 9, 49, 55, 54, 0, 110, 111, 111, 110, 0] ⟨176, "noon"⟩ := by
  have hadmits : Handshake.Form.framed.Admits "176" "noon" :=
    ⟨by decide, by decide, by decide, nofun⟩
  have hversion : Number.readInt32 "176".toList = .ok 176 := by decide
  exact Handshake.accepts_octets hadmits hversion (by decide) (by decide)

/-- Three octets short of a message: the application is told what a server that leaves in front of
that message has it told. -/
theorem play_cutOff_nextValidId :
    let d : Dial := { address := "localhost", clientId := 0, peer := .late }
    let cut : Course := .stays [[0, 0, 0], [9, 49, 55, 54, 0, 110, 111, 111, 110, 0, 0, 0, 0]]
      [[[7, 57, 0, 49, 0, 52], [50, 0, 0, 0]], [[0, 7, 57, 0, 49, 0]]]
    let whole : Course := .leaves [[0, 0, 0, 9, 49, 55, 54, 0, 110, 111, 111, 110, 0, 0, 0, 0, 7],
      [57, 0, 49, 0, 52, 50, 0]]
    Reachable {} ∧ Frame.IsPart [0, 0, 0, 7, 57, 0, 49, 0] ∧
      State.play {} d cut = [.connectAck, .nextValidId 42, .connectionClosed] ∧
      State.play {} d whole = State.play {} d cut := by
  intro d cut whole
  have hpart : Frame.IsPart [0, 0, 0, 7, 57, 0, 49, 0] :=
    ⟨by decide, [57, 0, 49, 0, 52, 50, 0], by decide, by decide, by decide⟩
  have hrequest : Handshake.request none =
      .ok (Handshake.signature ++ Frame.octets (Utf8.encode "v100..200".toList)) := by decide
  obtain ⟨frame, hstart⟩ : ∃ frame, (Handshake.startApi 176 0 none).encode = .ok frame := ⟨_, rfl⟩
  have hfits : ∀ payload ∈ ([[57, 0, 49, 0, 52, 50, 0]] : List Bytes),
      payload.length ≤ maxPayload := by decide
  have hdecodes : ∀ payload ∈ [[57, 0, 49, 0, 52, 50, 0]],
      (Inbox.arrive 176 payload).2 = none := by
    intro payload hm
    cases List.mem_singleton.mp hm
    rfl
  have hcut : cut.octets = [0, 0, 0, 9, 49, 55, 54, 0, 110, 111, 111, 110, 0] ++
      ([[57, 0, 49, 0, 52, 50, 0]].flatMap Frame.octets ++ [0, 0, 0, 7, 57, 0, 49, 0]) := rfl
  have hwhole : whole.octets = [0, 0, 0, 9, 49, 55, 54, 0, 110, 111, 111, 110, 0] ++
      [[57, 0, 49, 0, 52, 50, 0]].flatMap Frame.octets := rfl
  exact ⟨.initial, hpart, play_cutOff .initial rfl rfl (d := d) hrequest accepts_noon hstart hfits
    hdecodes hpart hcut (by decide) hwhole (by decide)⟩

/-- A server that leaves two octets into a length: no error is told, and all that is told is what
one that leaves in front of them has it told. -/
theorem play_hides_cutOff :
    let d : Dial := { address := "localhost", clientId := 0, peer := .late }
    let answer : Bytes := [0, 0, 0, 9, 49, 55, 54, 0, 110, 111, 111, 110, 0]
    let message : Bytes := [0, 0, 0, 7, 57, 0, 49, 0, 52, 50, 0]
    State.play {} d (.leaves [answer, message, [0, 0]]) =
        State.play {} d (.leaves [answer, message]) ∧
      ∀ time code text json, Notice.error (-1) time code text json ∉
        State.play {} d (.leaves [answer, message, [0, 0]]) := by
  intro d answer message
  have hrequest : Handshake.request none =
      .ok (Handshake.signature ++ Frame.octets (Utf8.encode "v100..200".toList)) := by decide
  obtain ⟨frame, hstart⟩ : ∃ frame, (Handshake.startApi 176 0 none).encode = .ok frame := ⟨_, rfl⟩
  have hplay (rest : Bytes) (hrest : ¬ Frame.IsOversize rest ∧ ¬ Frame.HasFrame rest)
      (c : Course) (hoctets : c.octets = answer ++ (message ++ rest))
      (hlength : answer.length ≤ c.reply.flatten.length) :
      State.play {} d c = [.connectAck, .nextValidId 42, .connectionClosed] := by
    have hsplits : Frame.Splits (message ++ rest) [[57, 0, 49, 0, 52, 50, 0]] rest :=
      ⟨rfl, by decide, hrest.2⟩
    rw [play_transcript .initial rfl rfl (d := d) hrequest accepts_noon hstart hoctets hlength,
      Inbox.transcript_eq _ hsplits, Inbox.farewell_of_not_isOversize hrest.1]
    rfl
  have hpart : Frame.IsPart [0, 0] := ⟨by decide, [0], by decide, by decide, by decide⟩
  have hcut := hplay [0, 0] hpart.incomplete (.leaves [answer, message, [0, 0]]) rfl (by decide)
  have hclean := hplay [] Frame.incomplete_nil (.leaves [answer, message]) rfl (by decide)
  refine ⟨hcut.trans hclean.symm, fun time code text json hm => ?_⟩
  rw [hcut] at hm
  simp at hm

end Scenario

end BrokerWire
