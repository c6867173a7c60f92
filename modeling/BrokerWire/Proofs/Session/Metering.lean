import Mathlib.Logic.Function.Basic
import BrokerWire.Proofs.Session.Line

namespace BrokerWire

namespace Counters

inductive Word where
  | bytesSent
  | bytesReceived
  | messagesSent
  | messagesReceived
  deriving DecidableEq

def word (c : Counters) : Word → UInt64
  | .bytesSent => c.bytesSent
  | .bytesReceived => c.bytesReceived
  | .messagesSent => c.messagesSent
  | .messagesReceived => c.messagesReceived

def setWord (c : Counters) (n : UInt64) : Word → Counters
  | .bytesSent => { c with bytesSent := n }
  | .bytesReceived => { c with bytesReceived := n }
  | .messagesSent => { c with messagesSent := n }
  | .messagesReceived => { c with messagesReceived := n }

/-- What fresh counters come to. -/
def total (entries : List Entry) : Counters :=
  entries.foldl enter {}

theorem total_concat (entries : List Entry) (entry : Entry) :
    total (entries ++ [entry]) = (total entries).enter entry :=
  List.foldl_concat _ _ _ _

end Counters

/-- What a thread wants of the counters. -/
inductive Use where
  | enter (entry : Entry)
  | look
  deriving DecidableEq

/-- One access to the memory of the counters, through the register of the thread. -/
inductive Access where
  | load (word : Counters.Word)
  /-- Writes what was loaded and something more. -/
  | store (word : Counters.Word) (more : UInt64)
  | clear (word : Counters.Word)
  /-- Puts a counter into the copy that the thread makes. -/
  | copy (word : Counters.Word)
  deriving DecidableEq

/-- What a thread does for its use, in order. -/
def Use.accesses : Use → List Access
  | .enter (.sent _ octets) =>
    [.load .bytesSent, .store .bytesSent (UInt64.ofNat octets.length), .load .messagesSent,
      .store .messagesSent 1]
  | .enter (.received _ size) =>
    [.load .bytesReceived, .store .bytesReceived (UInt64.ofNat size), .load .messagesReceived,
      .store .messagesReceived 1]
  | .enter .reset =>
    [.clear .bytesSent, .clear .bytesReceived, .clear .messagesSent, .clear .messagesReceived]
  | .look => [.copy .bytesSent, .copy .bytesReceived, .copy .messagesSent, .copy .messagesReceived]

/-- What the counters are behind a use. -/
def Use.after (c : Counters) : Use → Counters
  | .enter entry => c.enter entry
  | .look => c

/-- The counters, and what the thread at work has of its own. -/
structure Desk where
  counters : Counters
  register : UInt64 := 0
  copied : Counters := {}

def Desk.after (d : Desk) : Access → Desk
  | .load word => { d with register := d.counters.word word }
  | .store word more => { d with counters := d.counters.setWord (d.register + more) word }
  | .clear word => { d with counters := d.counters.setWord 0 word }
  | .copy word => { d with copied := d.copied.setWord (d.counters.word word) word }

/-- A thread inside the lock: what it still has to do. -/
structure Visit where
  use : Use
  left : List Access
  register : UInt64 := 0
  copied : Counters := {}

/-- What has happened to the counters. -/
inductive Mark where
  | entered (entry : Entry)
  | seen (copied : Counters)
  deriving DecidableEq

def Mark.entry? : Mark → Option Entry
  | .entered entry => some entry
  | .seen _ => none

def Use.mark (copied : Counters) : Use → Mark
  | .enter entry => .entered entry
  | .look => .seen copied

/-- The counters with their lock. A thread takes it, reads and writes one counter at a time, and
gives it back. -/
structure Meter where
  counters : Counters := {}
  isLocked : Bool := false
  /-- What each thread has to do with the counters. -/
  inside : Nat → Option Visit := fun _ => none
  marks : List Mark := []

/-- Which thread does what next. -/
inductive Tick where
  | lock (thread : Nat) (use : Use)
  | access (thread : Nat)
  | unlock (thread : Nat)
  deriving DecidableEq

/-- All that a thread does for a use when nothing keeps it waiting. -/
def Tick.visit (thread : Nat) (use : Use) : List Tick :=
  .lock thread use :: use.accesses.map (fun _ => .access thread) ++ [.unlock thread]

namespace Meter

def entries (m : Meter) : List Entry :=
  m.marks.filterMap Mark.entry?

/-- One step of one thread. An access looks only at what the thread itself has to do, not at the
lock. -/
def step (m : Meter) : Tick → Option Meter
  | .lock thread use =>
    if m.isLocked then none
    else
      let visit : Visit := { use := use, left := use.accesses }
      some { m with isLocked := true, inside := Function.update m.inside thread (some visit) }
  | .access thread =>
    match m.inside thread with
    | some ⟨use, access :: left, register, copied⟩ =>
      let d := Desk.after ⟨m.counters, register, copied⟩ access
      some { m with
        counters := d.counters
        inside := Function.update m.inside thread (some ⟨use, left, d.register, d.copied⟩) }
    | _ => none
  | .unlock thread =>
    match m.inside thread with
    | some ⟨use, [], _, copied⟩ =>
      some { m with
        isLocked := false
        inside := Function.update m.inside thread none
        marks := m.marks ++ [use.mark copied] }
    | _ => none

def run (m : Meter) : List Tick → Option Meter
  | [] => some m
  | tick :: ticks => (m.step tick).bind fun next => next.run ticks

/-- What fresh counters lead to. -/
def Reachable (m : Meter) : Prop :=
  ∃ ticks, run {} ticks = some m

/-- What a run leads to is reachable. -/
theorem reachable_of_run {α : Type} (ticks : List Tick) {f : Meter → α} {a : α}
    (h : (run {} ticks).map f = some a) : ∃ m : Meter, m.Reachable ∧ f m = a := by
  obtain ⟨m, hrun, hresult⟩ := Option.map_eq_some_iff.mp h
  exact ⟨m, ⟨ticks, hrun⟩, hresult⟩

end Meter

/-- A use does to the counters what it is for, and a look copies all of them, whatever the thread
had of its own. -/
theorem Use.accesses_after (use : Use) (c : Counters) (register : UInt64) (copied : Counters) :
    (use.accesses.foldl Desk.after ⟨c, register, copied⟩).counters = use.after c ∧
      (use = .look → (use.accesses.foldl Desk.after ⟨c, register, copied⟩).copied = c) := by
  cases use with
  | enter entry => cases entry <;> exact ⟨rfl, nofun⟩
  | look => exact ⟨rfl, fun _ => rfl⟩

/-- What the thread inside the lock will have done to the counters, and what it will have seen of
them, when they were `before` at its entry. -/
def Visit.Leads (v : Visit) (c before : Counters) : Prop :=
  (v.left.foldl Desk.after ⟨c, v.register, v.copied⟩).counters = v.use.after before ∧
    (v.use = .look → (v.left.foldl Desk.after ⟨c, v.register, v.copied⟩).copied = before)

namespace Meter

/-- At most one thread is inside, it will do what its use is for, and what was seen of the counters
is what was entered before. -/
structure Sound (m : Meter) : Prop where
  idle : m.isLocked = false →
    (∀ thread, m.inside thread = none) ∧ m.counters = Counters.total m.entries
  busy : m.isLocked = true → ∃ owner visit,
    (∀ thread, m.inside thread = if thread = owner then some visit else none) ∧
      visit.Leads m.counters (Counters.total m.entries)
  whole : ∀ before copied later, m.marks = before ++ .seen copied :: later →
    copied = Counters.total (before.filterMap Mark.entry?)

theorem sound_initial : ({} : Meter).Sound where
  idle _ := ⟨fun _ => rfl, rfl⟩
  busy h := nomatch h
  whole before copied later h := absurd h.symm (by simp)

variable {m m' : Meter}

/-- A thread that has something to do holds the lock, and no other thread is inside. -/
theorem Sound.owner (h : m.Sound) {thread : Nat} {visit : Visit}
    (hinside : m.inside thread = some visit) :
    (∀ other, m.inside other = if other = thread then some visit else none) ∧
      m.isLocked = true ∧ visit.Leads m.counters (Counters.total m.entries) := by
  have hlocked : m.isLocked = true := by
    by_contra hfree
    have hnone := (h.idle (Bool.eq_false_iff.mpr hfree)).1 thread
    rw [hinside] at hnone
    cases hnone
  obtain ⟨owner, held, howner, hleads⟩ := h.busy hlocked
  have hthread := howner thread
  rw [hinside] at hthread
  split at hthread
  · next he =>
    cases hthread
    subst he
    exact ⟨howner, hlocked, hleads⟩
  · cases hthread

theorem Sound.lock (h : m.Sound) {thread : Nat} {use : Use}
    (hs : m.step (.lock thread use) = some m') : m'.Sound := by
  simp only [step] at hs
  split at hs
  · cases hs
  next hfree =>
  cases hs
  obtain ⟨hnone, hcounters⟩ := h.idle (Bool.eq_false_iff.mpr hfree)
  refine ⟨nofun, fun _ => ⟨thread, { use := use, left := use.accesses }, fun other => ?_, ?_⟩,
    h.whole⟩
  · dsimp only
    rw [Function.update_apply, hnone]
  · change Visit.Leads _ m.counters (Counters.total m.entries)
    rw [← hcounters]
    exact use.accesses_after m.counters 0 {}

theorem Sound.access (h : m.Sound) {thread : Nat} (hs : m.step (.access thread) = some m') :
    m'.Sound := by
  simp only [step] at hs
  split at hs
  · next use access left register copied hinside =>
    cases hs
    obtain ⟨howner, hlocked, hleads⟩ := h.owner hinside
    let d := Desk.after ⟨m.counters, register, copied⟩ access
    refine ⟨fun hfree => ?_, fun _ => ⟨thread, ⟨use, left, d.register, d.copied⟩, fun other => ?_,
      hleads⟩, h.whole⟩
    · exact absurd (hlocked.symm.trans hfree) nofun
    · dsimp only
      rw [Function.update_apply, howner]
      split <;> rfl
  · cases hs

theorem Sound.unlock (h : m.Sound) {thread : Nat} (hs : m.step (.unlock thread) = some m') :
    m'.Sound := by
  simp only [step] at hs
  split at hs
  · next use register copied hinside =>
    cases hs
    obtain ⟨howner, -, hcounters, hcopied⟩ := h.owner hinside
    refine ⟨fun _ => ⟨fun other => ?_, ?_⟩, nofun, ?_⟩
    · dsimp only
      rw [Function.update_apply, howner]
      split <;> rfl
    · refine hcounters.trans ?_
      change _ = Counters.total ((m.marks ++ [use.mark copied]).filterMap Mark.entry?)
      rw [List.filterMap_append]
      cases use with
      | enter entry => exact (Counters.total_concat _ entry).symm
      | look => exact congrArg Counters.total (List.append_nil _).symm
    · intro before seen later hmarks
      -- The new mark stands at the end, and all others were there before.
      obtain rfl | ⟨later, last, rfl⟩ := List.eq_nil_or_concat' later
      · obtain ⟨rfl, hmark⟩ := List.append_inj' hmarks rfl
        have hmark := List.singleton_inj.mp hmark
        cases use with
        | enter entry => cases hmark
        | look =>
          cases hmark
          exact hcopied rfl
      · rw [← List.cons_append, ← List.append_assoc] at hmarks
        exact h.whole before seen later (List.append_inj' hmarks rfl).1
  · cases hs

theorem Sound.step (h : m.Sound) {tick : Tick} (hs : m.step tick = some m') : m'.Sound := by
  cases tick with
  | lock thread use => exact h.lock hs
  | access thread => exact h.access hs
  | unlock thread => exact h.unlock hs

theorem Sound.run (h : m.Sound) {ticks : List Tick} (hr : m.run ticks = some m') : m'.Sound := by
  induction ticks generalizing m with
  | nil =>
    cases hr
    exact h
  | cons tick ticks ih =>
    obtain ⟨next, hnext, hrest⟩ := Option.bind_eq_some_iff.mp hr
    exact ih (h.step hnext) hrest

theorem Reachable.sound (h : m.Reachable) : m.Sound := by
  obtain ⟨ticks, hr⟩ := h
  exact sound_initial.run hr

/-- A look sees what was entered before it, and nothing in the middle of an entry. -/
theorem Reachable.seen_eq (h : m.Reachable) {before later : List Mark} {copied : Counters}
    (hmarks : m.marks = before ++ .seen copied :: later) :
    copied = Counters.total (before.filterMap Mark.entry?) :=
  h.sound.whole before copied later hmarks

end Meter

end BrokerWire
