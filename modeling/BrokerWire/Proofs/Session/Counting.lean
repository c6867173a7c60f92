import Mathlib.Algebra.Ring.Nat
import Mathlib.Data.List.DropRight
import BrokerWire.Proofs.Session.Accounting
import BrokerWire.Proofs.Session.Metering

namespace BrokerWire

namespace Counters

/-- What was entered since the last reset. -/
def recent (entries : List Entry) : List Entry :=
  entries.rtakeWhile (· ≠ .reset)

/-- The counters are the numbers and the sizes of the messages in both directions, as long as these
have room in 64 bits. -/
structure Shows (c : Counters) (entries : List Entry) : Prop where
  messagesSent : (entries.filterMap Entry.sent?).length < UInt64.size →
    c.messagesSent.toNat = (entries.filterMap Entry.sent?).length
  bytesSent : (entries.filterMap Entry.sent?).flatten.length < UInt64.size →
    c.bytesSent.toNat = (entries.filterMap Entry.sent?).flatten.length
  messagesReceived : (entries.filterMap Entry.received?).length < UInt64.size →
    c.messagesReceived.toNat = (entries.filterMap Entry.received?).length
  bytesReceived : (entries.filterMap Entry.received?).sum < UInt64.size →
    c.bytesReceived.toNat = (entries.filterMap Entry.received?).sum

theorem reset_not_mem_recent (entries : List Entry) : .reset ∉ recent entries := fun hm => by
  simpa using List.mem_rtakeWhile_imp hm

theorem total_recent (entries : List Entry) : total entries = total (recent entries) := by
  induction entries using List.reverseRecOn with
  | nil => rfl
  | append_singleton entries entry ih =>
    by_cases hentry : entry = .reset
    · subst hentry
      rw [recent, List.rtakeWhile_concat_neg _ _ _ (by simp), total_concat]
      rfl
    · rw [recent, List.rtakeWhile_concat, if_pos (decide_eq_true hentry), total_concat,
        total_concat, ih, recent]

/-- Between two resets, the counters of what is received go up by the number of frames and by their
sizes. -/
theorem received_foldl {entries : List Entry} (h : .reset ∉ entries) (c : Counters) :
    (entries.foldl enter c).messagesReceived =
        c.messagesReceived + UInt64.ofNat (entries.filterMap Entry.received?).length ∧
      (entries.foldl enter c).bytesReceived =
        c.bytesReceived + UInt64.ofNat (entries.filterMap Entry.received?).sum := by
  induction entries generalizing c with
  | nil => exact ⟨(UInt64.add_zero _).symm, (UInt64.add_zero _).symm⟩
  | cons entry entries ih =>
    rw [List.mem_cons, not_or] at h
    obtain ⟨hmessages, hoctets⟩ := ih h.2 (c.enter entry)
    rw [List.foldl_cons, hmessages, hoctets]
    cases entry with
    | sent session octets => exact ⟨rfl, rfl⟩
    | received session size =>
      have hsome : (Entry.received session size).received? = some size := rfl
      rw [List.filterMap_cons_some hsome, List.length_cons, List.sum_cons, UInt64.ofNat_add,
        UInt64.ofNat_add, enter, received, UInt64.add_assoc, UInt64.add_assoc]
      exact ⟨congrArg _ (UInt64.add_comm _ _), rfl⟩
    | reset => exact absurd rfl h.1

/-- Fresh counters show what was entered since the last reset. -/
theorem total_shows (entries : List Entry) : (total entries).Shows (recent entries) := by
  have hsmall {n : UInt64} {m : Nat} (hn : n = 0 + UInt64.ofNat m) (hm : m < UInt64.size) :
      n.toNat = m := by
    rw [hn, UInt64.zero_add, UInt64.toNat_ofNat_of_lt' hm]
  obtain ⟨hmessages, hbytes⟩ := sent_foldl (reset_not_mem_recent entries) {}
  obtain ⟨hframes, hsizes⟩ := received_foldl (reset_not_mem_recent entries) {}
  rw [total_recent]
  exact ⟨hsmall hmessages, hsmall hbytes, hsmall hframes, hsmall hsizes⟩

end Counters

theorem Frame.length_flatMap_octets (payloads : List Bytes) :
    (payloads.flatMap Frame.octets).length =
      (payloads.map fun payload => headerLength + payload.length).sum := by
  rw [List.length_flatMap]
  exact congrArg List.sum (List.map_congr_left fun payload _ => List.length_append)

namespace Traffic

theorem Reachable.counters_eq {t : Traffic} (h : t.Reachable) :
    t.counters = Counters.total t.ledger := by
  obtain ⟨moves, hr⟩ := h
  have hall : t.Reachable ∧ t.counters = Counters.total t.ledger := by
    refine run_induction (P := fun t => t.Reachable ∧ t.counters = Counters.total t.ledger) ?_
      ⟨⟨[], rfl⟩, rfl⟩ hr
    intro v v' move hv hs
    obtain ⟨hreachable, hcounters⟩ := hv
    refine ⟨hreachable.step hs, ?_⟩
    by_cases hmove : move = .reset
    · subst hmove
      cases hs
      exact (Counters.total_concat v.ledger .reset).symm
    · obtain ⟨entries, -, hledger, hafter, -⟩ := hreachable.entries_step hs hmove
      rw [hledger, hafter, hcounters, Counters.total, Counters.total, List.foldl_append]
  exact hall.2

/-- When all that was taken off the streams since some moment is of one session, which had nothing
taken before, the counter goes up by that. -/
theorem Reachable.bytesReceived_since {t : Traffic} (h : t.Reachable) {n : Nat}
    {before since : List Entry} (hledger : t.ledger = before ++ since) (hreset : .reset ∉ since)
    (hsince : since.filterMap Entry.received? = (t.entriesOf n).filterMap Entry.received?)
    (hsmall : ((t.entriesOf n).filterMap Entry.received?).sum < UInt64.size) :
    (t.counters.bytesReceived - (Counters.total before).bytesReceived).toNat =
      ((t.entriesOf n).filterMap Entry.received?).sum := by
  have hcounters : t.counters = since.foldl Counters.enter (Counters.total before) := by
    rw [h.counters_eq, hledger, Counters.total, Counters.total, List.foldl_append]
  rw [hcounters, (Counters.received_foldl hreset _).2, hsince, UInt64.add_comm,
    UInt64.add_sub_cancel, UInt64.toNat_ofNat_of_lt' hsmall]

/-- In every run, the counters show what was written and what was taken off the streams since the
last reset. A session has sent what was entered for it, what opened the conversation first. What it
has read is the answer, the frames that were entered, whatever they hold, and what its scanner
holds; without a reset and without another session, the counter is the octets of these frames. And
however many threads there are at the counters, each look at them sees what was entered before. -/
theorem counters_account {t : Traffic} (h : t.Reachable) :
    t.counters.Shows (Counters.recent t.ledger) ∧
    (∀ n, (t.lines n).sent = (t.entriesOf n).filterMap Entry.sent? ∧
      ((t.lines n).inbox = none → (t.entriesOf n).filterMap Entry.received? = []) ∧
      ∀ inbox ∈ (t.lines n).inbox, ∃ (answer : Bytes) (agreed : Handshake) (payloads : List Bytes),
        Handshake.Accepts answer agreed ∧ inbox.version = agreed.serverVersion ∧
        (t.lines n).heard = answer ++ (payloads.flatMap Frame.octets ++ inbox.scanner.buffer) ∧
        (t.entriesOf n).filterMap Entry.received? =
          payloads.map (fun payload => headerLength + payload.length) ∧
        answer.length + ((t.entriesOf n).filterMap Entry.received?).sum +
          inbox.scanner.buffer.length = (t.lines n).heard.length ∧
        ∀ before since, t.ledger = before ++ since → .reset ∉ since →
          since.filterMap Entry.received? = (t.entriesOf n).filterMap Entry.received? →
          (t.lines n).heard.length < UInt64.size →
          answer.length + (t.counters.bytesReceived - (Counters.total before).bytesReceived).toNat +
            inbox.scanner.buffer.length = (t.lines n).heard.length) ∧
    ∀ m : Meter, m.Reachable → m.entries = t.ledger →
      ∀ before copied later, m.marks = before ++ .seen copied :: later →
        before.filterMap Mark.entry? <+: t.ledger ∧
        copied = Counters.total (before.filterMap Mark.entry?) ∧
        copied.Shows (Counters.recent (before.filterMap Mark.entry?)) := by
  refine ⟨?_, fun n => ?_, ?_⟩
  · rw [h.counters_eq]
    exact Counters.total_shows t.ledger
  · have hhears := h.hears n
    refine ⟨h.sent_eq n, hhears.silent, fun inbox hm => ?_⟩
    obtain ⟨answer, agreed, payloads, haccepts, hversion, hheard, hsizes⟩ :=
      hhears.accounts inbox hm
    have hsum : answer.length + ((t.entriesOf n).filterMap Entry.received?).sum +
        inbox.scanner.buffer.length = (t.lines n).heard.length := by
      rw [hheard, hsizes, List.length_append, List.length_append, Frame.length_flatMap_octets,
        Nat.add_assoc]
    refine ⟨answer, agreed, payloads, haccepts, hversion, hheard, hsizes, hsum, ?_⟩
    intro before since hledger hreset hsince hsmall
    rw [h.bytesReceived_since hledger hreset hsince (by omega)]
    exact hsum
  · intro m hm hentries before copied later hmarks
    have hseen := hm.seen_eq hmarks
    refine ⟨?_, hseen, ?_⟩
    · rw [← hentries, Meter.entries, hmarks, List.filterMap_append]
      exact List.prefix_append _ _
    · rw [hseen]
      exact Counters.total_shows _

/-- Two octets came with the answer. With what comes later they make a frame without a payload, one
that cannot be read, and an octet more; and somebody looked at the counters before. -/
theorem counters_account_halfway :
    ∃ (t : Traffic) (m : Meter), t.Reachable ∧ m.Reachable ∧ m.entries = t.ledger ∧
      t.counters = ⟨29, 10, 2, 2⟩ ∧ t.counters.Shows (Counters.recent t.ledger) ∧
      (∃ inbox ∈ (t.lines 1).inbox, ∃ answer agreed, Handshake.Accepts answer agreed ∧
        (t.lines 1).heard.length = 17 ∧
        answer.length + t.counters.bytesReceived.toNat + inbox.scanner.buffer.length = 17) ∧
      ∃ before later, m.marks = before ++ .seen ⟨29, 0, 2, 0⟩ :: later ∧
        before.filterMap Mark.entry? <+: t.ledger := by
  let greeting : Bytes := [65, 80, 73, 0, 0, 0, 0, 9, 118, 49, 48, 48, 46, 46, 50, 48, 48]
  let start : Bytes := [0, 0, 0, 8, 55, 49, 0, 50, 0, 55, 0, 0]
  obtain ⟨t, hreachable, hresult⟩ : ∃ t : Traffic, t.Reachable ∧
      (t.ledger, t.counters, (t.lines 1).heard.length, (t.lines 1).inbox.isSome) =
        ([.sent 1 greeting, .sent 1 start, .received 1 4, .received 1 6], ⟨29, 10, 2, 2⟩, 17,
          true) :=
    reachable_of_run [.call (.connect 7), .call (.advance 1 .nothing), .task 1 (.greet none),
      .call (.advance 1 (.answer [[0x31, 0x30, 0x30, 0, 0x74, 0, 0, 0]])),
      .call (.advance 1 .nothing), .call (.advance 1 .nothing), .task 1 .take,
      .task 1 (.finish .done), .call (.advance 1 .nothing), .task 1 .pay,
      .call (.advance 1 .nothing), .task 1 (.fill [0, 0, 0, 0, 0]), .task 1 .receive,
      .task 1 (.fill [2, 120, 0, 0]), .task 1 .receive] rfl
  rw [Prod.mk.injEq, Prod.mk.injEq, Prod.mk.injEq] at hresult
  obtain ⟨hledger, hcounters, hlength, hsome⟩ := hresult
  obtain ⟨m, hmeter, hmarks⟩ : ∃ m : Meter, m.Reachable ∧ m.marks =
      [.entered (.sent 1 greeting), .entered (.sent 1 start), .seen ⟨29, 0, 2, 0⟩,
        .entered (.received 1 4), .entered (.received 1 6)] :=
    Meter.reachable_of_run (Tick.visit 0 (.enter (.sent 1 greeting)) ++
      Tick.visit 0 (.enter (.sent 1 start)) ++ Tick.visit 1 .look ++
      Tick.visit 2 (.enter (.received 1 4)) ++ Tick.visit 2 (.enter (.received 1 6))) rfl
  have hentries : m.entries = t.ledger := by
    rw [Meter.entries, hmarks, hledger]
    rfl
  obtain ⟨hshows, hsessions, hlooks⟩ := counters_account hreachable
  obtain ⟨inbox, hinbox⟩ := Option.isSome_iff_exists.mp hsome
  obtain ⟨answer, agreed, -, haccepts, -, -, -, -, hsum⟩ := (hsessions 1).2.2 inbox hinbox
  have hall : t.entriesOf 1 = t.ledger := by
    rw [entriesOf, hledger]
    rfl
  have hread := hsum [] t.ledger rfl (by rw [hledger]; decide) (by rw [hall])
    (by rw [hlength]; decide)
  rw [hcounters, hlength] at hread
  have hlook := hlooks m hmeter hentries [.entered (.sent 1 greeting), .entered (.sent 1 start)]
    _ _ hmarks
  refine ⟨t, m, hreachable, hmeter, hentries, hcounters, hshows, ?_, _, _, hmarks, hlook.1⟩
  refine ⟨inbox, hinbox, answer, agreed, haccepts, hlength, ?_⟩
  rw [hcounters]
  exact hread

end Traffic

end BrokerWire
