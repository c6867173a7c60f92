import BrokerWire.Proofs.Session.Telling

namespace BrokerWire

namespace Inbox

theorem count_arrive (sv : ServerVersion) (payload : Bytes) :
    (arrive sv payload).1.count .connectionClosed = 0 := by
  refine List.count_eq_zero.mpr fun hm => ?_
  unfold arrive at hm
  split at hm
  · cases hm
  · split at hm
    · next event hd => exact (Event.data_of_decode hd _ hm).2 rfl
    · simp [ApiError.notice, ClientError.notice] at hm

/-- The frame that ends a session is told with one notice of the end at most, any other with none. -/
theorem count_takeFrame? {i next : Inbox} {notices : List Notice} {sizes : List Nat}
    (h : i.takeFrame? = some (notices, sizes, next)) :
    notices.count .connectionClosed ≤ 1 ∧
      (next.ending = none → notices.count .connectionClosed = 0) := by
  unfold takeFrame? at h
  split at h
  · cases h
  split at h
  · cases h
  · next fault rest _ =>
    cases h
    have herror : (ApiError.ofFrame fault).notice ClientError.noRequest ≠ .connectionClosed := by
      intro he
      cases he
    refine ⟨?_, fun hnone => ?_⟩
    · rw [List.count_cons_of_ne herror, List.count_singleton_self]
    · cases hnone
  · next payload rest _ =>
    have hnone := count_arrive i.version payload
    cases h
    exact ⟨hnone.le.trans (Nat.zero_le 1), fun _ => hnone⟩

theorem count_close (i : Inbox) : i.close.1.count .connectionClosed ≤ 1 := by
  unfold close
  split
  · exact Nat.zero_le 1
  · exact Nat.le_refl 1

end Inbox

namespace Line

/-- How often the task that reads has told, or is about to tell, that the connection is closed. -/
def closings (line : Line) : Nat :=
  (line.toldBy .reader ++ line.saying).count .connectionClosed

/-- What is kept of that: it is told once at most, and not while the session receives. -/
structure Closes (line : Line) : Prop where
  once : line.closings ≤ 1
  receiving : (∀ inbox ∈ line.inbox, inbox.ending = none) → line.closings = 0

theorem closings_tell {teller : Teller} (hteller : teller ≠ .reader) (line : Line)
    (notices : List Notice) : (line.tell teller notices).closings = line.closings := by
  rw [closings, toldBy_tell, if_neg hteller, List.append_nil, closings]
  rfl

theorem closings_enqueue (line : Line) (frame : Bytes) :
    (line.enqueue frame).closings = line.closings := by
  unfold enqueue
  split <;> rfl

variable {line : Line}

/-- Nothing was told of the end before a frame is taken, or before the stream is lost. -/
theorem Closes.reading (h : line.Closes) (hreading : line.isReading = true) :
    line.saying = [] ∧ (line.toldBy .reader).count .connectionClosed = 0 := by
  rw [isReading, Bool.and_eq_true, Bool.and_eq_true, List.isEmpty_iff] at hreading
  obtain ⟨⟨-, hsaying⟩, hinbox⟩ := hreading
  have hnone : ∀ inbox ∈ line.inbox, inbox.ending = none := by
    intro inbox hm
    have hm : line.inbox = some inbox := hm
    rw [hm, Option.any_some, Option.isNone_iff_eq_none] at hinbox
    exact hinbox
  have hclosings := h.receiving hnone
  rw [closings, hsaying, List.append_nil] at hclosings
  exact ⟨hsaying, hclosings⟩

theorem Closes.receive (h : line.Closes) (hcan : line.can .receive = true) (number : Nat)
    (c : Counters) : (line.after number c .receive).line.Closes := by
  rw [can, Bool.and_eq_true] at hcan
  obtain ⟨-, htold⟩ := h.reading hcan.1
  simp only [after]
  split
  · exact h
  · next notices sizes next hframe =>
    obtain ⟨inbox, -, htake⟩ := Option.bind_eq_some_iff.mp hframe
    obtain ⟨honce, hreceiving⟩ := Inbox.count_takeFrame? htake
    have hclosings : closings { line with saying := notices, inbox := some next } =
        notices.count .connectionClosed := by
      rw [closings, List.count_append]
      exact (congrArg (· + _) htold).trans (Nat.zero_add _)
    refine ⟨hclosings.trans_le honce, fun hnone => ?_⟩
    exact hclosings.trans (hreceiving (hnone next rfl))

theorem Closes.lose (h : line.Closes) {reason : Option String}
    (hcan : line.can (.lose reason) = true) (number : Nat) (c : Counters) :
    (line.after number c (.lose reason)).line.Closes := by
  rw [can, Bool.and_eq_true] at hcan
  obtain ⟨-, htold⟩ := h.reading hcan.1
  simp only [after]
  split
  · exact h
  · next inbox hinbox =>
    have hfailure : (reason.map fun text =>
        (ApiError.io text).notice ClientError.noRequest).toList.count .connectionClosed = 0 := by
      cases reason <;> rfl
    refine ⟨?_, fun hnone => ?_⟩
    · rw [closings, List.count_append, List.count_append, hfailure, Nat.zero_add]
      exact (congrArg (· + _) htold).trans_le ((Nat.zero_add _).trans_le inbox.count_close)
    · have hending := hnone _ rfl
      revert hending
      unfold Inbox.close
      cases hclosed : inbox.ending with
      | none =>
        intro hending
        cases hending
      | some ending =>
        intro hending
        cases hclosed.symm.trans hending

theorem Closes.say (h : line.Closes) (number : Nat) (c : Counters) :
    (line.after number c .say).line.Closes := by
  have hclosings : (line.after number c .say).line.closings = line.closings := by
    cases hsaying : line.saying with
    | nil => simp [closings, after, hsaying, toldBy, tell]
    | cons notice rest => simp [closings, after, hsaying, toldBy, tell]
  refine ⟨hclosings.trans_le h.once, fun hnone => hclosings.trans (h.receiving hnone)⟩

/-- No deed of a task or of a request tells twice that the connection is closed. -/
theorem Closes.act (h : line.Closes) {deed : Deed} (hown : deed.isOwn = true)
    (hcan : line.can deed = true) (number : Nat) (c : Counters) :
    (line.after number c deed).line.Closes := by
  have hkeep {line' : Line} (hinbox : line'.inbox = line.inbox)
      (hclosings : line'.closings = line.closings) : line'.Closes := by
    refine ⟨hclosings.trans_le h.once, fun hnone => hclosings.trans (h.receiving ?_)⟩
    rw [← hinbox]
    exact hnone
  cases deed with
  | receive => exact h.receive hcan number c
  | lose reason => exact h.lose hcan number c
  | say => exact h.say number c
  | fill chunk =>
    refine ⟨h.once, fun hnone => h.receiving fun inbox hm => ?_⟩
    have hpushed : some { inbox with scanner := inbox.scanner.push chunk } =
        line.inbox.map fun inbox => { inbox with scanner := inbox.scanner.push chunk } := by
      rw [hm]
      rfl
    exact hnone ⟨inbox.version, inbox.scanner.push chunk, inbox.ending⟩ hpushed.symm
  | pay => exact hkeep rfl (line.closings_tell (by decide) _)
  | refuse notice => exact hkeep rfl (line.closings_tell (by decide) _)
  | finish write => exact hkeep rfl (line.closings_tell (by decide) _)
  | enqueue frame => exact hkeep (line.enqueue_frame frame).1 (line.closings_enqueue frame)
  | greet options =>
    simp only [after]
    split <;> exact hkeep rfl rfl
  | take | stop _ | hush | findSpent => exact hkeep rfl rfl
  | _ => cases hown

end Line

namespace Traffic

/-- That the connection is closed is told once at most. -/
theorem Reachable.closes {t : Traffic} (h : t.Reachable) (n : Nat) : (t.lines n).Closes := by
  obtain ⟨moves, hr⟩ := h
  have hall : t.Reachable ∧ (t.lines n).Closes := by
    refine run_induction (P := fun t => t.Reachable ∧ (t.lines n).Closes) ?_
      ⟨⟨[], rfl⟩, Nat.zero_le 1, fun _ => rfl⟩ hr
    intro v v' move hv hs
    obtain ⟨hreachable, hcloses⟩ := hv
    refine ⟨hreachable.step hs, ?_⟩
    cases stride_step hreachable.sound hs n with
    | rests _ hline _ =>
      rw [hline]
      exact hcloses
    | begins _ _ _ hline _ =>
      rw [hline]
      exact hcloses
    | acts _ hown hcan _ hline _ =>
      rw [hline]
      exact hcloses.act hown hcan n v.counters
    | @turns lives call next met hbefore hadvance hcan _ hline _ =>
      rw [hline]
      cases hdeed : call.deed? next lives met with
      | none => exact hcloses
      | some deed =>
        have hrunning := ConnectCall.running_of_advance hadvance
        have hunheard := hreachable.unheard hbefore hrunning
        have htold : ((v.lines n).after n v.counters deed).line.told = (v.lines n).told := by
          rw [Line.told_after, ConnectCall.tells_deed? hdeed, List.append_nil]
        have hsaying : ((v.lines n).after n v.counters deed).line.saying = [] := by
          by_cases hlisten : ∃ lives, deed = .listen lives
          · obtain ⟨lives, rfl⟩ := hlisten
            exact hunheard.saying
          · have hdeeds : ∀ lives, deed ≠ .listen lives := fun lives he => hlisten ⟨lives, he⟩
            exact (hunheard.after hdeeds (hcan deed hdeed) n v.counters).saying
        have hnone := hcloses.receiving hunheard.ending
        have hclosings : ((v.lines n).after n v.counters deed).line.closings = 0 := by
          rw [← hnone, Line.closings, Line.closings, hsaying, hunheard.saying, Line.toldBy, htold,
            Line.toldBy]
        exact ⟨hclosings.trans_le (Nat.zero_le 1), fun _ => hclosings⟩
  exact hall.2

/-- Only the task that reads tells that the connection is closed. -/
theorem reader_of_connectionClosed {t : Traffic} (h : t.Reachable) {n : Nat} {teller : Teller}
    (hm : (teller, .connectionClosed) ∈ (t.lines n).told) : teller = .reader := by
  obtain ⟨before, behind, hsplit⟩ := List.append_of_mem hm
  have hfits := (h.tells n).fits before _ behind hsplit
  generalize hnotice : Notice.connectionClosed = notice at hfits
  cases hfits with
  | received _ _ => rfl
  | refused hrefusal =>
    obtain ⟨c, queueOpen, r, code, text, -, rfl⟩ := hrefusal
    cases hnotice
  | acknowledged _ => cases hnotice
  | failed e _ => cases hnotice
  | unwritten reason => cases hnotice

/-- Of all that is told of a session, one notice at most is that the connection is closed. -/
theorem Reachable.count_told {t : Traffic} (h : t.Reachable) (n : Nat) :
    ((t.lines n).told.map Prod.snd).count .connectionClosed ≤ 1 := by
  have hall : ∀ told : List (Teller × Notice),
      (∀ teller, (teller, .connectionClosed) ∈ told → teller = .reader) →
      (told.map Prod.snd).count .connectionClosed =
        (told.filterMap fun entry => if entry.1 = .reader then some entry.2 else none).count
          .connectionClosed := by
    intro told hreader
    induction told with
    | nil => rfl
    | cons entry told ih =>
      obtain ⟨teller, notice⟩ := entry
      have hrest := ih fun teller hm => hreader teller (List.mem_cons_of_mem _ hm)
      by_cases hteller : teller = .reader
      · subst hteller
        simp [List.count_cons, hrest]
      · have hother : notice ≠ .connectionClosed := by
          intro he
          subst he
          exact hteller (hreader teller List.mem_cons_self)
        simp [hteller, hother, hrest]
  rw [hall _ fun teller hm => reader_of_connectionClosed h hm]
  have honce := (h.closes n).once
  rw [Line.closings, List.count_append] at honce
  exact (Nat.le_add_right _ _).trans honce

end Traffic

end BrokerWire
