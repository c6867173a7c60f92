import BrokerWire.Proofs.Session.Opening
import BrokerWire.Session.Scenario

namespace BrokerWire.Handshake

open Scanner

/-- The verdict on an answer of two fields. -/
inductive Judged (version second : String) : Except ApiError Handshake → Prop
  | unreadable {fault : Number.IntegerFault}
    (hversion : Number.readInt32 version.toList = .error fault) :
    Judged version second
      (.error (.decoding (invalidText "server version" version fault.message)))
  | redirected {n : Int32} (hversion : Number.readInt32 version.toList = .ok n)
    (hbelow : n.toInt < 0) : Judged version second (.error (.redirect second))
  | unsupported {n : Int32} (hversion : Number.readInt32 version.toList = .ok n)
    (hwhole : 0 ≤ n.toInt) (hrange : n.toInt < 100 ∨ 200 < n.toInt) :
    Judged version second (.error (.unsupportedVersion n.toInt))
  | supported {n : Int32} (hversion : Number.readInt32 version.toList = .ok n)
    (hlow : 100 ≤ n.toInt) (hhigh : n.toInt ≤ 200) : Judged version second (.ok ⟨n.toInt, second⟩)

theorem judged_judge (version second : String) : Judged version second (judge version second) := by
  unfold judge
  split
  · next fault hversion => exact .unreadable hversion
  · next n hversion =>
    dsimp only
    by_cases hbelow : n.toInt < 0
    · rw [if_pos hbelow]
      exact .redirected hversion hbelow
    rw [if_neg hbelow]
    by_cases hrange : n.toInt < ServerVersion.lowest ∨ ServerVersion.highest < n.toInt
    · rw [if_pos hrange]
      exact .unsupported hversion (Int.not_lt.mp hbelow) hrange
    · rw [if_neg hrange]
      exact .supported hversion (Int.not_lt.mp fun h => hrange (.inl h))
        (Int.not_lt.mp fun h => hrange (.inr h))

/-- What looks like a frame begins with a zero octet, so its length takes three octets at most. -/
theorem not_isOversize_of_looksFramed {s : Scanner} (h : s.looksFramed = some true) :
    ¬ Frame.IsOversize s.buffer := by
  rintro ⟨n, hn, hbig⟩
  obtain ⟨buffer⟩ := s
  match buffer, hn with
  | a :: b :: c :: d :: rest, hn =>
    have ha : a = 0 := by simpa [looksFramed] using h
    cases hn
    have hb := b.toNat_lt
    have hc := c.toNat_lt
    have hd := d.toNat_lt
    change 16777215 < _ at hbig
    simp only [ha, Frame.headerValue, UInt8.toNat_zero] at hbig
    omega

theorem reply_ne_protocol {s left : Scanner} {e : ApiError} (h : reply s = (.error e, left))
    (detail : String) : e ≠ .protocol detail := by
  unfold reply at h
  split at h
  · cases h
  · next hlooks =>
    obtain ⟨n, hn, hbig, -⟩ | ⟨-, -, hn⟩ | ⟨payload, rest, -, -, hn⟩ := next_cases s
    · exact absurd ⟨n, hn, hbig⟩ (not_isOversize_of_looksFramed hlooks)
    · rw [hn] at h
      cases h
    · rw [hn] at h
      dsimp only at h
      cases hr : (replyFields.run payload).1 with
      | ok fields =>
        rw [hr] at h
        cases h
      | error fault =>
        rw [hr] at h
        cases h
        exact nofun
  · split at h
    · cases h
      exact nofun
    · cases h
    · cases h

theorem judge_ne_protocol {version second : String} {e : ApiError}
    (h : judge version second = .error e) (detail : String) : e ≠ .protocol detail := by
  have hjudged := judged_judge version second
  rw [h] at hjudged
  cases hjudged <;> exact nofun

/-- Whatever arrives, no length is too large while the answer is awaited. -/
theorem await_ne_protocol {s : Scanner} {chunks : List Bytes} {e : ApiError}
    (h : (await s chunks).1 = some (.error e)) (detail : String) : e ≠ .protocol detail := by
  induction chunks generalizing s with
  | nil =>
    unfold await at h
    split at h
    · next hr =>
      cases h
      exact reply_ne_protocol hr detail
    · exact judge_ne_protocol (Option.some.inj h) detail
    · cases h
  | cons chunk chunks ih =>
    unfold await at h
    split at h
    · next hr =>
      cases h
      exact reply_ne_protocol hr detail
    · exact judge_ne_protocol (Option.some.inj h) detail
    · exact ih h

/-- An answer leads to one verdict in either form and in whatever chunks it comes, and leaves what
is behind it. A server that leaves before its answer is complete has closed the connection, and no
length is ever too large. -/
theorem await_octets {version second : String} (hversion : Utf8.IsTerminable version)
    (hsecond : Utf8.IsTerminable second) (hne : version ≠ "")
    (hfits : (⟨[version, second]⟩ : Message).payload.length ≤ maxPayload) :
    ∃ verdict, Judged version second verdict ∧
      (∀ (form : Form) (tail : Bytes) (chunks : List Bytes),
        chunks.flatten = form.octets version second ++ tail →
        ∃ left rest, await {} chunks = (some verdict, left, rest) ∧
          left.buffer ++ rest.flatten = tail) ∧
      (∀ (form : Form) (chunks : List Bytes), chunks.flatten <+: form.octets version second →
        chunks.flatten ≠ form.octets version second →
        ∀ (st : Scenario.State) (d : Scenario.Dial) (request : Bytes),
          (st.await d request chunks true none).1.failure = some serverClosed) ∧
      ∀ (chunks : List Bytes) (e : ApiError), (await {} chunks).1 = some (.error e) →
        ∀ detail, e ≠ .protocol detail := by
  have hreply (form : Form) :
      reply ⟨form.octets version second⟩ = (.ok (some (version, second)), {}) :=
    reply_octets ⟨hversion, hsecond, fun _ => hfits, fun _ => hne⟩
  refine ⟨judge version second, judged_judge version second, ?_, ?_, ?_⟩
  · intro form tail chunks hchunks
    exact await_reply (hreply form) hchunks
  · intro form chunks hpart hmissing st d request
    have hnone : (await {} chunks).1 = none := await_of_isPrefix (hreply form) hpart hmissing
    unfold Scenario.State.await
    cases hawait : await {} chunks with
    | mk outcome left =>
      rw [hawait] at hnone
      cases hnone
      rfl
  · intro chunks e he
    exact await_ne_protocol he

/-- A server that sends the client elsewhere, in two chunks, with an octet behind its answer. -/
theorem await_octets_redirect :
    ∃ left rest, await {} [[0x2D], [0x31, 0, 0x61, 0, 9]] =
        (some (.error (.redirect "a")), left, rest) ∧
      left.buffer ++ rest.flatten = [9] := by
  obtain ⟨verdict, hjudged, hform, -⟩ :=
    @await_octets "-1" "a" (by decide) (by decide) (by decide) (by decide)
  have hverdict : verdict = .error (.redirect "a") := by
    cases hjudged with
    | unreadable hversion => cases hversion
    | redirected => rfl
    | unsupported hversion hwhole =>
      cases hversion
      exact absurd hwhole (by decide)
    | supported hversion hlow =>
      cases hversion
      exact absurd hlow (by decide)
  rw [← hverdict]
  exact hform .bare [9] _ (by decide)

end BrokerWire.Handshake
