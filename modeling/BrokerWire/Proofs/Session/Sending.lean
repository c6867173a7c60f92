import BrokerWire.Proofs.Session.Starting

namespace BrokerWire

theorem Outbox.failure_eq (reason : String) :
    failure reason = .error (-1) 0 509
      ("Exception caught while reading socket -  I/O error: " ++ reason) "" := by
  have hne : "I/O error: " ++ reason ≠ "" := by
    intro h
    obtain ⟨hfixed, -⟩ := String.append_eq_empty_iff.mp h
    revert hfixed
    decide
  have hnotice := ClientError.socketFailed.notice_detail ClientError.noRequest hne
  rw [← String.append_assoc] at hnotice
  exact hnotice

/-- How one frame is written or not. -/
theorem Outbox.step_single {frame : Bytes} (h : frame ≠ []) (c : Counters) (write : Write) :
    step { queue := [frame], counters := c } write =
      match write with
      | .done => { written := [frame], counters := c.sent frame.length }
      | .failed reason => { counters := c, notices := [failure reason] } := by
  simp only [step, if_neg h]
  cases write <;> rfl

namespace Line

/-- The frames that were written, in order. -/
def delivered (line : Line) : List Bytes :=
  line.tried.filterMap fun
    | (frame, .done) => some frame
    | (_, .failed _) => none

/-- The errors of the writes that failed, in order. -/
def failures (line : Line) : List Notice :=
  line.tried.filterMap fun
    | (_, .done) => none
    | (_, .failed reason) => some (.error (-1) 0 509
      ("Exception caught while reading socket -  I/O error: " ++ reason) "")

/-- The frames that are still to be tried, in order. -/
def pending (line : Line) : List Bytes :=
  line.writing.toList ++ line.queue

/-- All that was sent, what opened the conversation first. -/
def sent (line : Line) : List Bytes :=
  line.greeting.toList ++ line.delivered

/-- What is kept of the sending side of a session. Frames are lost only when the task that writes
stops. -/
structure Sends (line : Line) : Prop where
  quiet : line.greeting = none → line.isOpen = false ∧ line.writing = none ∧ line.tried = []
  whole : ∀ frame ∈ line.pending, frame ≠ []
  bounded : line.queue.length ≤ Outbox.capacity
  conserved : line.isOpen = true ∨ line.queued = [] →
    line.queued = line.tried.map Prod.fst ++ line.pending ∧ line.octets = line.delivered.flatten
  failed : line.toldBy .writer = line.failures

theorem sends_fresh : ({} : Line).Sends where
  quiet _ := ⟨rfl, rfl, rfl⟩
  whole _ hm := nomatch hm
  bounded := Nat.zero_le _
  conserved _ := ⟨rfl, rfl⟩
  failed := rfl

variable {line : Line}

theorem Sends.enqueue (h : line.Sends) (hroom : line.hasRoom = true) {frame : Bytes}
    (hframe : frame ≠ []) : (line.enqueue frame).Sends := by
  rw [enqueue_of_hasRoom hroom]
  rw [hasRoom, Bool.and_eq_true, decide_eq_true_eq] at hroom
  obtain ⟨hopen, hlength⟩ := hroom
  obtain ⟨hqueued, hoctets⟩ := h.conserved (.inl hopen)
  refine ⟨h.quiet, ?_, ?_, fun _ => ⟨?_, hoctets⟩, h.failed⟩
  · intro other hm
    rw [pending, ← List.append_assoc] at hm
    obtain hm | hm := List.mem_append.mp hm
    · exact h.whole other hm
    · rw [List.mem_singleton.mp hm]
      exact hframe
  · rw [List.length_append, List.length_singleton]
    exact hlength
  · rw [pending, ← List.append_assoc, ← List.append_assoc]
    change line.queued ++ [frame] = _
    rw [hqueued, pending, ← List.append_assoc]

theorem delivered_done (line : Line) {line' : Line} {frame : Bytes}
    (h : line'.tried = line.tried ++ [(frame, .done)]) :
    line'.delivered = line.delivered ++ [frame] := by
  rw [delivered, h, List.filterMap_append]
  rfl

theorem delivered_failed (line : Line) {line' : Line} {frame : Bytes} {reason : String}
    (h : line'.tried = line.tried ++ [(frame, .failed reason)]) :
    line'.delivered = line.delivered := by
  rw [delivered, h, List.filterMap_append]
  exact List.append_nil _

theorem tried_enqueue (line : Line) (frame : Bytes) :
    (line.enqueue frame).tried = line.tried := by
  unfold enqueue
  split <;> rfl

theorem sent_enqueue (line : Line) (frame : Bytes) : (line.enqueue frame).sent = line.sent := by
  unfold enqueue
  split <;> rfl

theorem octets_ne_nil (payload : Bytes) : Frame.octets payload ≠ [] := by
  simp [Frame.octets, Frame.header]

/-- What has become of the frame that was being written. -/
theorem after_finish {frame : Bytes} (hwriting : line.writing = some frame) (hframe : frame ≠ [])
    (number : Nat) (c : Counters) (write : Write) :
    line.after number c (.finish write) =
      match write with
      | .done =>
        ⟨{ line with
            writing := none
            tried := line.tried ++ [(frame, .done)]
            octets := line.octets ++ frame },
          c.sent frame.length, [.sent number frame]⟩
      | .failed reason =>
        ⟨{ line.tell .writer [Outbox.failure reason] with
            writing := none
            tried := line.tried ++ [(frame, .failed reason)] }, c, []⟩ := by
  simp only [after, hwriting, Option.toList_some, Outbox.step_single hframe]
  cases write <;> simp [tell]

theorem Sends.finish (h : line.Sends) (hcan : line.writing.isSome = true) (number : Nat)
    (c : Counters) (write : Write) : (line.after number c (.finish write)).line.Sends := by
  obtain ⟨frame, hwriting⟩ := Option.isSome_iff_exists.mp hcan
  have hpending : line.pending = frame :: line.queue := by
    rw [pending, hwriting, Option.toList_some, List.singleton_append]
  have hframe : frame ≠ [] := h.whole frame (by rw [hpending]; exact List.mem_cons_self)
  have hquiet (hgreeting : line.greeting = none) : False := by
    rw [(h.quiet hgreeting).2.1] at hwriting
    cases hwriting
  have hwhole (other : Bytes) (hm : other ∈ line.queue) : other ≠ [] :=
    h.whole other (by rw [hpending]; exact List.mem_cons_of_mem frame hm)
  rw [after_finish hwriting hframe]
  have hqueued (w : Write) (hopen : line.isOpen = true ∨ line.queued = []) :
      line.queued = (line.tried ++ [(frame, w)]).map Prod.fst ++ line.queue := by
    rw [(h.conserved hopen).1, hpending, List.map_append, List.append_assoc]
    rfl
  cases write with
  | done =>
    refine ⟨fun hgreeting => (hquiet hgreeting).elim, hwhole, h.bounded,
      fun hopen => ⟨hqueued .done hopen, ?_⟩, ?_⟩
    · change line.octets ++ frame = _
      rw [line.delivered_done rfl, (h.conserved hopen).2, List.flatten_append,
        List.flatten_singleton]
    · change line.toldBy .writer = _
      rw [h.failed, failures, failures, List.filterMap_append, List.filterMap_cons,
        List.filterMap_nil, List.append_nil]
  | failed reason =>
    refine ⟨fun hgreeting => (hquiet hgreeting).elim, hwhole, h.bounded,
      fun hopen => ⟨hqueued (.failed reason) hopen, ?_⟩, ?_⟩
    · change line.octets = _
      rw [line.delivered_failed rfl, (h.conserved hopen).2]
    · change (line.tell .writer [Outbox.failure reason]).toldBy .writer = _
      rw [toldBy_tell, if_pos rfl, h.failed, failures, failures, List.filterMap_append,
        List.filterMap_cons, List.filterMap_nil, Outbox.failure_eq]

/-- No deed takes from what is kept of the sending side. -/
theorem Sends.after (h : line.Sends) {number : Nat} {c : Counters} {cancelled : Bool} {deed : Deed}
    (hcan : line.can deed = true) (hsuits : Traffic.Suits line cancelled deed) :
    (line.after number c deed).line.Sends := by
  by_cases hquiet : deed.isQuiet = true
  · obtain ⟨⟨_, _, _, _, _, _, hline, htold⟩, -⟩ := isQuiet_after deed hquiet line number c
    rw [hline]
    exact ⟨h.quiet, h.whole, h.bounded, h.conserved, htold.trans h.failed⟩
  cases deed with
  | greet options =>
    simp only [Line.after]
    split
    · exact h
    · exact ⟨by rintro ⟨⟩, h.whole, h.bounded, h.conserved, h.failed⟩
  | start =>
    rw [can, Option.isSome_iff_ne_none] at hcan
    exact ⟨fun hnone => absurd hnone hcan, h.whole, h.bounded, fun _ => h.conserved (.inr hsuits),
      h.failed⟩
  | queueStart agreed clientId capabilities =>
    rw [can, Bool.and_eq_true] at hcan
    simp only [Line.after]
    split
    · exact h
    · next frame hencode =>
      rw [Message.encode_eq] at hencode
      -- An encoded message has a header, and so it is not empty.
      obtain ⟨-, rfl⟩ := (Frame.encode_eq_ok_iff _ _).mp hencode
      exact h.enqueue hcan.1 (octets_ne_nil _)
  | enqueue frame =>
    obtain ⟨payload, rfl⟩ := hsuits
    exact h.enqueue hcan (octets_ne_nil payload)
  | take =>
    rw [can, Bool.and_eq_true, Bool.and_eq_true, Option.isNone_iff_eq_none] at hcan
    obtain ⟨⟨hopen, hnone⟩, hqueue⟩ := hcan
    cases hline : line.queue with
    | nil =>
      rw [hline] at hqueue
      cases hqueue
    | cons frame rest =>
      have hpending : (line.after number c .take).line.pending = line.pending := by
        simp only [Line.after, pending, hline, hnone, List.head?_cons, List.tail_cons,
          Option.toList_some, Option.toList_none, List.singleton_append, List.nil_append]
      refine ⟨fun hgreeting => ?_, ?_, ?_, ?_, h.failed⟩
      · rw [(h.quiet hgreeting).1] at hopen
        cases hopen
      · rw [hpending]
        exact h.whole
      · have hlength := h.bounded
        change line.queue.tail.length ≤ Outbox.capacity
        rw [List.length_tail]
        omega
      · rw [hpending]
        exact h.conserved
  | finish write => exact h.finish hcan number c write
  | stop count =>
    refine ⟨fun hgreeting => ⟨rfl, rfl, (h.quiet hgreeting).2.2⟩, ?_, h.bounded, ?_, h.failed⟩
    · intro frame hm
      exact h.whole frame (List.mem_append_right _ hm)
    · intro hstopped
      obtain hstopped | hqueued := hstopped
      · cases hstopped
      -- Nothing was ever queued, and so there is no frame to be lost.
      obtain ⟨hall, hoctets⟩ := h.conserved (.inr hqueued)
      have hnil : line.queued = [] := hqueued
      rw [hnil] at hall
      obtain ⟨htried, hpending⟩ := List.append_eq_nil_iff.mp hall.symm
      obtain ⟨hwriting, hqueue⟩ := List.append_eq_nil_iff.mp hpending
      rw [Option.toList_eq_nil_iff] at hwriting
      simp only [Line.after, pending, hwriting, Option.getD_none, List.take_nil, List.append_nil,
        Option.toList_none, hqueue, hnil, htried]
      exact ⟨trivial, hoctets⟩
  | _ => exact absurd rfl hquiet

/-- As long as the task that writes does not stop, it takes frames or none was ever queued. -/
theorem open_after (h : line.isOpen = true ∨ line.queued = []) {deed : Deed}
    (hcan : line.can deed = true) (hdeed : ∀ count, deed ≠ .stop count) (number : Nat)
    (c : Counters) :
    (line.after number c deed).line.isOpen = true ∨
      (line.after number c deed).line.queued = [] := by
  have henqueue (hroom : line.hasRoom = true) (frame : Bytes) :
      (line.enqueue frame).isOpen = true := by
    rw [enqueue_of_hasRoom hroom]
    rw [hasRoom, Bool.and_eq_true] at hroom
    exact hroom.1
  by_cases hquiet : deed.isQuiet = true
  · obtain ⟨⟨_, _, _, _, _, _, hline, -⟩, -⟩ := isQuiet_after deed hquiet line number c
    rw [hline]
    exact h
  cases deed with
  | greet options =>
    simp only [after]
    split <;> exact h
  | start => exact .inl rfl
  | queueStart agreed clientId capabilities =>
    rw [can, Bool.and_eq_true] at hcan
    simp only [after]
    split
    · exact h
    · exact .inl (henqueue hcan.1 _)
  | enqueue frame => exact .inl (henqueue hcan frame)
  | take => exact h
  | finish write => exact h
  | stop count => exact absurd rfl (hdeed count)
  | _ => exact absurd rfl hquiet

/-- What was tried stays in front of what is tried later. -/
theorem tried_isPrefix_after (line : Line) (number : Nat) (c : Counters) (deed : Deed) :
    line.tried <+: (line.after number c deed).line.tried := by
  by_cases hquiet : deed.isQuiet = true
  · obtain ⟨⟨_, _, _, _, _, _, hline, -⟩, -⟩ := isQuiet_after deed hquiet line number c
    exact ⟨[], (List.append_nil _).trans (congrArg tried hline).symm⟩
  cases deed with
  | greet options =>
    simp only [after]
    split <;> exact List.prefix_rfl
  | start => exact List.prefix_rfl
  | queueStart agreed clientId capabilities =>
    simp only [after]
    split
    · exact List.prefix_rfl
    · next frame _ => exact ⟨[], (List.append_nil _).trans (line.tried_enqueue frame).symm⟩
  | enqueue frame => exact ⟨[], (List.append_nil _).trans (line.tried_enqueue frame).symm⟩
  | take => exact List.prefix_rfl
  | finish write => exact List.prefix_append _ _
  | stop count => exact List.prefix_rfl
  | _ => exact absurd rfl hquiet

end Line

/-- What was sent, if that is what an entry is about. -/
def Entry.sent? : Entry → Option Bytes
  | .sent _ octets => some octets
  | .received _ _ => none
  | .reset => none

/-- What a session sent, if that is what an entry is about. -/
def Entry.sentIn? (number : Nat) : Entry → Option Bytes
  | .sent session octets => if session = number then some octets else none
  | .received _ _ => none
  | .reset => none

/-- Between two resets, the counters of what is sent go up by the number of messages and by their
octets. -/
theorem Counters.sent_foldl {entries : List Entry} (h : .reset ∉ entries) (c : Counters) :
    (entries.foldl enter c).messagesSent =
        c.messagesSent + UInt64.ofNat (entries.filterMap Entry.sent?).length ∧
      (entries.foldl enter c).bytesSent =
        c.bytesSent + UInt64.ofNat (entries.filterMap Entry.sent?).flatten.length := by
  induction entries generalizing c with
  | nil => exact ⟨(UInt64.add_zero _).symm, (UInt64.add_zero _).symm⟩
  | cons entry entries ih =>
    rw [List.mem_cons, not_or] at h
    obtain ⟨hmessages, hoctets⟩ := ih h.2 (c.enter entry)
    rw [List.foldl_cons, hmessages, hoctets]
    cases entry with
    | sent session octets =>
      have hsome : (Entry.sent session octets).sent? = some octets := rfl
      rw [List.filterMap_cons_some hsome, List.length_cons, List.flatten_cons, List.length_append,
        UInt64.ofNat_add, UInt64.ofNat_add, enter, sent, UInt64.add_assoc, UInt64.add_assoc]
      exact ⟨congrArg _ (UInt64.add_comm _ _), rfl⟩
    | received session size => exact ⟨rfl, rfl⟩
    | reset => exact absurd rfl h.1

namespace Line

/-- A deed enters only what its own session sends and receives. -/
theorem entries_after (line : Line) (number : Nat) (c : Counters) (deed : Deed) :
    ∀ entry ∈ (line.after number c deed).entries,
      (∃ octets, entry = .sent number octets) ∨ ∃ size, entry = .received number size := by
  intro entry hm
  by_cases hquiet : deed.isQuiet = true
  · exact .inr ((isQuiet_after deed hquiet line number c).2 entry hm)
  cases deed with
  | greet options =>
    simp only [after] at hm
    split at hm
    · cases hm
    · exact .inl ⟨_, List.mem_singleton.mp hm⟩
  | start => cases hm
  | queueStart agreed clientId capabilities =>
    simp only [after] at hm
    split at hm <;> cases hm
  | enqueue frame => cases hm
  | take => cases hm
  | finish write =>
    obtain ⟨octets, -, rfl⟩ := List.mem_map.mp hm
    exact .inl ⟨octets, rfl⟩
  | stop count => cases hm
  | _ => exact absurd rfl hquiet

variable {line : Line}

/-- What a session has sent is what was entered for it. -/
theorem Sends.sent_after (h : line.Sends) {deed : Deed} (hcan : line.can deed = true) (number : Nat)
    (c : Counters) :
    (line.after number c deed).line.sent =
      line.sent ++ (line.after number c deed).entries.filterMap (Entry.sentIn? number) := by
  have hself (octets : Bytes) : (Entry.sent number octets).sentIn? number = some octets :=
    if_pos rfl
  by_cases hquiet : deed.isQuiet = true
  · obtain ⟨⟨_, _, _, _, _, _, hline, -⟩, hentries⟩ := isQuiet_after deed hquiet line number c
    rw [List.filterMap_eq_nil_iff.mpr ?_, List.append_nil]
    · rw [hline]
      rfl
    · intro entry hm
      obtain ⟨size, rfl⟩ := hentries entry hm
      rfl
  cases deed with
  | greet options =>
    rw [can, Bool.and_eq_true, Option.isNone_iff_eq_none] at hcan
    have htried : line.tried = [] := (h.quiet hcan.1).2.2
    simp only [Line.after]
    split
    · exact (List.append_nil _).symm
    · rw [List.filterMap_cons_some (hself _)]
      simp only [sent, delivered, htried, hcan.1, List.filterMap_nil, List.append_nil,
        Option.toList_some, Option.toList_none, List.nil_append]
  | start => exact (List.append_nil _).symm
  | queueStart agreed clientId capabilities =>
    simp only [Line.after]
    split
    · exact (List.append_nil _).symm
    · exact (line.sent_enqueue _).trans (List.append_nil _).symm
  | enqueue frame => exact (line.sent_enqueue frame).trans (List.append_nil _).symm
  | finish write =>
    obtain ⟨frame, hwriting⟩ := Option.isSome_iff_exists.mp hcan
    have hframe : frame ≠ [] := h.whole frame (by rw [pending, hwriting]; exact List.mem_cons_self)
    rw [after_finish hwriting hframe]
    cases write with
    | done =>
      rw [List.filterMap_cons_some (hself _), sent, sent, line.delivered_done rfl,
        List.append_assoc]
      rfl
    | failed reason =>
      rw [List.filterMap_nil, sent, sent, line.delivered_failed rfl, List.append_nil]
      rfl
  | take => exact (List.append_nil _).symm
  | stop count => exact (List.append_nil _).symm
  | _ => exact absurd rfl hquiet

end Line

end BrokerWire
