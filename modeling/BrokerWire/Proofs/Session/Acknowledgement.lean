import BrokerWire.Proofs.Session.Starting

namespace BrokerWire

/-- Whether a teller may tell something behind what was told before. -/
inductive Fits (before : List (Teller × Notice)) : Teller × Notice → Prop
  | acknowledged (hfirst : ∀ entry ∈ before, entry.1 ≠ .opener) : Fits before (.opener, .connectAck)
  | failed (e : ApiError) (hfirst : ∀ entry ∈ before, entry.1 ≠ .opener) :
    Fits before (.opener, e.notice ClientError.noRequest)
  | unwritten (reason : String) : Fits before (.writer, Outbox.failure reason)
  | refused {notice : Notice} (h : Traffic.IsRefusal notice) : Fits before (.caller, notice)
  | received {notice : Notice} (hopen : (.opener, .connectAck) ∈ before)
    (hnotice : notice ≠ .connectAck) : Fits before (.reader, notice)

/-- That a session opens is told by the call that connects, and first. -/
theorem Fits.opens {before : List (Teller × Notice)} {entry : Teller × Notice}
    (h : Fits before entry) (hack : entry.2 = .connectAck) :
    entry = (.opener, .connectAck) ∧ ∀ other ∈ before, other.1 ≠ .opener := by
  cases h with
  | acknowledged hfirst => exact ⟨rfl, hfirst⟩
  | failed e _ => cases hack
  | unwritten reason => cases hack
  | refused hrefusal =>
    obtain ⟨c, queueOpen, r, code, text, -, rfl⟩ := hrefusal
    cases hack
  | received _ hnotice => exact absurd hack hnotice

/-- Whether everything that was told fits behind what was told before it. -/
def AllFit (told : List (Teller × Notice)) : Prop :=
  ∀ before entry after, told = before ++ entry :: after → Fits before entry

theorem AllFit.append {told : List (Teller × Notice)} (h : AllFit told) {entry : Teller × Notice}
    (hfits : Fits told entry) : AllFit (told ++ [entry]) := by
  intro before other after hsplit
  obtain rfl | ⟨rest, last, rfl⟩ := List.eq_nil_or_concat after
  · obtain ⟨rfl, hsame⟩ := List.append_inj' hsplit rfl
    cases hsame
    exact hfits
  · rw [List.concat_eq_append, ← List.cons_append, ← List.append_assoc] at hsplit
    obtain ⟨hfront, -⟩ := List.append_inj' hsplit rfl
    exact h before other rest hfront

/-- The error of a write that failed, if there is one, fits anywhere. -/
theorem AllFit.step {told : List (Teller × Notice)} (h : AllFit told) (queue : List Bytes)
    (c : Counters) (write : Write) :
    AllFit (told ++ (Outbox.step { queue := queue, counters := c } write).notices.map
      fun notice => (.writer, notice)) := by
  unfold Outbox.step
  split
  · rw [List.map_nil, List.append_nil]
    exact h
  · split
    · rw [List.map_nil, List.append_nil]
      exact h
    · next reason _ => exact h.append (.unwritten reason)

namespace Line

variable {line : Line}

theorem mem_toldBy {teller : Teller} {notice : Notice} :
    notice ∈ line.toldBy teller ↔ (teller, notice) ∈ line.told := by
  simp [toldBy]

/-- What is kept of the telling of a session: all fits, the call that connects tells one thing, and
the task that reads tells nothing before that was that the session opens. -/
structure Tells (line : Line) : Prop where
  fits : AllFit line.told
  opener_length : line.opener.length ≤ 1
  due : ∀ notice ∈ line.due,
    notice = .connectAck ∨ ∃ e : ApiError, notice = e.notice ClientError.noRequest
  saying : .connectAck ∉ line.saying
  listening : line.isListening = true ∨ line.saying ≠ [] → (.opener, .connectAck) ∈ line.told

theorem tells_fresh : ({} : Line).Tells where
  fits before entry after h := by simp at h
  opener_length := Nat.zero_le 1
  due _ hm := nomatch hm
  saying := List.not_mem_nil
  listening := by simp

/-- A session goes on as before if what it tells and is about to tell stays as it is. -/
theorem Tells.congr {line' : Line} (h : line.Tells) (htold : line'.told = line.told)
    (hdue : line'.due = line.due) (hsaying : line'.saying = line.saying)
    (hlistening : line'.isListening = line.isListening) : line'.Tells := by
  refine ⟨?_, ?_, ?_, ?_, ?_⟩
  · rw [htold]
    exact h.fits
  · rw [opener, toldBy, htold, hdue]
    exact h.opener_length
  · rw [hdue]
    exact h.due
  · rw [hsaying]
    exact h.saying
  · rw [hsaying, hlistening, htold]
    exact h.listening

theorem Tells.enqueue (h : line.Tells) (frame : Bytes) : (line.enqueue frame).Tells := by
  unfold Line.enqueue
  split
  · exact h
  · exact h.congr rfl rfl rfl rfl

/-- What the call that connects tells, it tells first. -/
theorem Tells.pay (h : line.Tells) (number : Nat) (c : Counters) :
    (line.after number c .pay).line.Tells := by
  have hopener := (isSteady_after .pay rfl line number c).2.2
  refine ⟨?_, ?_, (fun _ hm => nomatch hm), h.saying,
    fun hl => List.mem_append_left _ (h.listening hl)⟩
  · cases hdue : line.due with
    | none => simpa [after, tell, hdue] using h.fits
    | some notice =>
      have hfirst : ∀ entry ∈ line.told, entry.1 ≠ .opener := by
        intro entry hm ht
        obtain ⟨teller, told⟩ := entry
        cases ht
        have hlength := h.opener_length
        rw [opener, hdue, Option.toList_some, List.length_append, List.length_singleton] at hlength
        have hpos := List.length_pos_of_mem (mem_toldBy.mpr hm)
        omega
      simp only [after, tell, hdue, Option.toList_some, List.map_cons, List.map_nil]
      obtain rfl | ⟨e, rfl⟩ := h.due notice hdue
      · exact h.fits.append (.acknowledged hfirst)
      · exact h.fits.append (.failed e hfirst)
  · rw [hopener]
    exact h.opener_length

theorem listening_of_isReading (h : line.isReading = true) : line.isListening = true := by
  rw [isReading, Bool.and_eq_true, Bool.and_eq_true] at h
  exact h.1.1

/-- No deed breaks the order in which things are told. -/
theorem Tells.after (h : line.Tells) {number : Nat} {c : Counters} {cancelled : Bool} {deed : Deed}
    (hcan : line.can deed = true) (hsuits : Traffic.Suits line cancelled deed) :
    (line.after number c deed).line.Tells := by
  cases deed with
  | greet options =>
    simp only [Line.after]
    split <;> exact h.congr rfl rfl rfl rfl
  | hearAnswer chunks =>
    simp only [Line.after]
    split <;> exact h.congr rfl rfl rfl rfl
  | queueStart agreed clientId capabilities =>
    simp only [Line.after]
    split
    · exact h
    · exact h.enqueue _
  | enqueue frame => exact h.enqueue frame
  | owe notice =>
    obtain ⟨hopener, hnotice⟩ := hsuits
    have htold : line.toldBy .opener = [] := (List.append_eq_nil_iff.mp hopener).1
    refine ⟨h.fits, ?_, ?_, h.saying, h.listening⟩
    · change (line.toldBy .opener ++ [notice]).length ≤ 1
      rw [htold]
      exact Nat.le_refl 1
    · rintro _ ⟨⟩
      exact hnotice
  | pay => exact h.pay number c
  | listen lives =>
    refine ⟨h.fits, h.opener_length, h.due, h.saying, fun _ => ?_⟩
    rw [can, Option.isNone_iff_eq_none] at hcan
    have hopener : line.toldBy .opener = [.connectAck] := by
      rw [← hsuits, opener, hcan, Option.toList_none, List.append_nil]
    have hmem : .connectAck ∈ line.toldBy .opener := by
      rw [hopener]
      exact List.mem_singleton_self _
    exact mem_toldBy.mp hmem
  | refuse notice =>
    have hopener := (isSteady_after (.refuse notice) rfl line number c).2.2
    refine ⟨h.fits.append (.refused hsuits), ?_, h.due, h.saying,
      fun hl => List.mem_append_left _ (h.listening hl)⟩
    rw [hopener]
    exact h.opener_length
  | finish write =>
    have hopener := (isSteady_after (.finish write) rfl line number c).2.2
    refine ⟨h.fits.step line.writing.toList c write, ?_, h.due, h.saying,
      fun hl => List.mem_append_left _ (h.listening hl)⟩
    rw [hopener]
    exact h.opener_length
  | receive =>
    rw [can, Bool.and_eq_true] at hcan
    have htold := h.listening (.inl (listening_of_isReading hcan.1))
    simp only [Line.after]
    split
    · exact h
    · next notices sizes inbox hframe =>
      obtain ⟨before, -, htake⟩ := Option.bind_eq_some_iff.mp hframe
      exact ⟨h.fits, h.opener_length, h.due, Inbox.connectAck_not_mem_takeFrame? htake,
        fun _ => htold⟩
  | lose reason =>
    rw [can, Bool.and_eq_true] at hcan
    have htold := h.listening (.inl (listening_of_isReading hcan.1))
    simp only [Line.after]
    split
    · exact h
    · next inbox _ =>
      refine ⟨h.fits, h.opener_length, h.due, ?_, fun _ => htold⟩
      intro hm
      obtain hm | hm := List.mem_append.mp hm
      · cases reason with
        | none => simp at hm
        | some text => simp [ApiError.notice, ClientError.notice] at hm
      · unfold Inbox.close at hm
        split at hm <;> simp at hm
  | say =>
    have hopener := (isSteady_after .say rfl line number c).2.2
    cases hsaying : line.saying with
    | nil =>
      rw [can, hsaying] at hcan
      cases hcan
    | cons notice rest =>
      have htold := h.listening (.inr (by rw [hsaying]; exact List.cons_ne_nil notice rest))
      have hnotice : notice ≠ .connectAck ∧ .connectAck ∉ rest := by
        have hsay := h.saying
        rw [hsaying, List.mem_cons, not_or] at hsay
        exact ⟨fun he => hsay.1 he.symm, hsay.2⟩
      refine ⟨?_, ?_, h.due, ?_, fun _ => List.mem_append_left _ htold⟩
      · simp only [Line.after, tell, hsaying, List.head?_cons, Option.toList_some, List.map_cons,
          List.map_nil]
        exact h.fits.append (.received htold hnotice.1)
      · rw [hopener]
        exact h.opener_length
      · simp only [Line.after, hsaying, List.tail_cons]
        exact hnotice.2
  | hush =>
    refine ⟨h.fits, h.opener_length, h.due, h.saying, fun hl => ?_⟩
    obtain hl | hl := hl
    · cases hl
    · exact h.listening (.inr hl)
  | _ => exact h.congr rfl rfl rfl rfl

end Line

namespace Traffic

theorem Reachable.tells {t : Traffic} (h : t.Reachable) (n : Nat) : (t.lines n).Tells :=
  h.line_induction Line.tells_fresh (fun hline hcan hsuits => hline.after hcan hsuits) n

/-- What is told before the opening of a session is an error of a write or of a request, whatever
the order of the steps and the outcome of the writes; the opening is told once at most, and the task
that reads tells nothing before it. -/
theorem acknowledgement_order {t : Traffic} (h : t.Reachable) (n : Nat) :
    (∀ before after, (t.lines n).told = before ++ (.opener, .connectAck) :: after →
      (∀ entry ∈ before, (∃ reason, entry = (.writer, Outbox.failure reason)) ∨
        ∃ notice, entry = (.caller, notice) ∧ IsRefusal notice) ∧
      ∀ entry ∈ after, entry.2 ≠ .connectAck) ∧
    ((.opener, .connectAck) ∉ (t.lines n).told → ∀ entry ∈ (t.lines n).told,
      entry.1 ≠ .reader ∧ entry.2 ≠ .connectAck) := by
  have hfits := (h.tells n).fits
  refine ⟨fun before after hsplit => ⟨fun entry hm => ?_, fun entry hm hack => ?_⟩,
    fun hnone entry hm => ?_⟩
  · -- The call that connects tells nothing before, and so no task that reads does.
    have hfirst := ((hfits before _ after hsplit).opens rfl).2
    obtain ⟨early, late, rfl⟩ := List.append_of_mem hm
    rw [List.append_assoc] at hsplit
    cases hfits early entry _ hsplit with
    | acknowledged _ => exact absurd rfl (hfirst _ hm)
    | failed e _ => exact absurd rfl (hfirst _ hm)
    | unwritten reason => exact .inl ⟨reason, rfl⟩
    | refused hrefusal => exact .inr ⟨_, rfl, hrefusal⟩
    | received hopen _ => exact absurd rfl (hfirst _ (List.mem_append_left _ hopen))
  · obtain ⟨early, late, rfl⟩ := List.append_of_mem hm
    rw [← List.cons_append, ← List.append_assoc] at hsplit
    have hfirst := ((hfits _ entry late hsplit).opens hack).2
    exact hfirst _ (List.mem_append_right _ List.mem_cons_self) rfl
  · obtain ⟨early, late, hsplit⟩ := List.append_of_mem hm
    have hentry := hfits early entry late hsplit
    refine ⟨fun hreader => ?_, fun hack => hnone ((hentry.opens hack).1 ▸ hm)⟩
    cases hentry with
    | received hopen _ =>
      rw [hsplit] at hnone
      exact hnone (List.mem_append_left _ hopen)
    | _ => cases hreader

/-- The first message cannot be written, the session opens, and a message arrives. -/
theorem acknowledgement_order_unwritten :
    ∃ t : Traffic, t.Reachable ∧
      (t.lines 1).told = [(.writer, Outbox.failure "Broken pipe (os error 32)"),
        (.opener, .connectAck), (.reader, .nextValidId 42)] ∧
      (∀ entry ∈ [(Teller.writer, Outbox.failure "Broken pipe (os error 32)")],
        (∃ reason, entry = (.writer, Outbox.failure reason)) ∨
          ∃ notice, entry = (.caller, notice) ∧ IsRefusal notice) ∧
      ∀ entry ∈ [(Teller.reader, Notice.nextValidId 42)], entry.2 ≠ .connectAck := by
  obtain ⟨t, hreachable, htold⟩ : ∃ t : Traffic, t.Reachable ∧
      (t.lines 1).told = [(.writer, Outbox.failure "Broken pipe (os error 32)"),
        (.opener, .connectAck), (.reader, .nextValidId 42)] :=
    reachable_of_run [.call (.connect 7), .call (.advance 1 .nothing), .task 1 (.greet none),
      .call (.advance 1 (.answer [[0x31, 0x30, 0x30, 0, 0x74, 0]])), .call (.advance 1 .nothing),
      .call (.advance 1 .nothing), .task 1 .take, .call (.advance 1 .nothing),
      .task 1 (.finish (.failed "Broken pipe (os error 32)")), .task 1 .pay,
      .call (.advance 1 .nothing), .task 1 (.fill [0, 0, 0, 7, 57, 0, 49, 0, 52, 50, 0]),
      .task 1 .receive, .task 1 .say] rfl
  exact ⟨t, hreachable, htold, (acknowledgement_order hreachable 1).1 [_] [_] htold⟩

/-- The first message cannot be written, and a request asks for what the server does not have: the
application is told of both before it is told that the session opens. -/
theorem acknowledgement_late :
    ∃ t : Traffic, t.Reachable ∧ (t.lines 1).told =
      [(.writer, .error (-1) 0 509
        "Exception caught while reading socket -  I/O error: Broken pipe (os error 32)" ""),
      (.caller, .error (-1) 0 503 ("The TWS is out of date and must be upgraded. " ++
        "It does not support family codes requests.") ""),
      (.opener, .connectAck)] :=
  reachable_of_run [.call (.connect 7), .call (.advance 1 .nothing), .task 1 (.greet none),
    .call (.advance 1 (.answer [[0x31, 0x30, 0x30, 0, 0x74, 0]])), .call (.advance 1 .nothing),
    .call (.advance 1 .nothing), .task 1 .take, .call (.advance 1 .nothing),
    .task 1 (.finish (.failed "Broken pipe (os error 32)")), .issue .familyCodes, .submit 0,
    .task 1 .pay] rfl

end Traffic

end BrokerWire
