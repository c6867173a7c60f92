import BrokerWire.Proofs.Session.Issuing
import BrokerWire.Proofs.Session.Line
import BrokerWire.Proofs.Wire.Begins

namespace BrokerWire

open Frame (octets)
open Message (fieldOctets)
open Utf8 (IsTerminable)

namespace Event

open FieldReader

/-- Whether the first field of a payload is an integer that is the code of no kind of message. -/
def IsForeign (payload : Bytes) (code : Int32) : Prop :=
  (∃ rest, BeginsInt payload code rest) ∧ ∀ kind : Inbound, Numbered.code kind ≠ code

/-- Whether a payload is a single tick of a type without a layout: all that it has in common with
other ticks can be read. -/
def IsUntypedTick (payload : Bytes) : Prop :=
  ∃ behindCode reqId behindId type behindType time rest,
    BeginsInt payload 99 behindCode ∧ BeginsInt behindCode reqId behindId ∧
      BeginsInt behindId type behindType ∧ BeginsLong behindType time rest ∧
      type ∉ [(1 : Int32), 2, 3, 4]

/-- What is told of a message whose code is unknown. -/
def foreignNotice (code : Int32) (size : Nat) : Notice :=
  .error (-1) 0 508
    ("Bad message unknown message id " ++ toString code.toInt ++ ", " ++ toString size ++ " bytes")
    ""

/-- What is told of a tick of a type without a layout, however long it is. -/
def untypedNotice : Notice :=
  .error (-1) 0 508 "Bad message unhandled message TICK_BY_TICK (99), 0 bytes" ""

theorem ofCode?_eq_none_iff {code : Int32} :
    (Numbered.ofCode? code : Option Inbound) = none ↔
      ∀ kind : Inbound, Numbered.code kind ≠ code := by
  constructor
  · rintro h kind rfl
    rw [LawfulNumbered.ofCode?_code] at h
    cases h
  · intro h
    rw [Numbered.ofCode?, List.find?_eq_none]
    intro kind _
    rw [decide_eq_true_eq]
    exact h kind

theorem code_of_ofCode? {code : Int32} {kind : Inbound}
    (h : (Numbered.ofCode? code : Option Inbound) = some kind) : Numbered.code kind = code := by
  have hfound := List.find?_some h
  rwa [decide_eq_true_eq] at hfound

/-- What is read as one notice is of known content. -/
theorem yields_single_known (r : FieldReader Notice) :
    (single r).Yields fun event => ¬ event.IsUnknown := by
  unfold single
  induction r with
  | done n =>
    rintro ⟨code, data, h⟩
    cases h
  | fail fault => trivial
  | field next ih => exact ih

/-- Only single ticks have a kind and yet perhaps no known content. -/
theorem yields_known (sv : ServerVersion) {kind : Inbound} (h : kind ≠ .tickByTick) :
    (reader sv kind).Yields fun event => ¬ event.IsUnknown := by
  have hknown {event : Event} (hne : ∀ code data, event ≠ .unknown code data) :
      ¬ event.IsUnknown := by
    rintro ⟨code, data, he⟩
    exact hne code data he
  cases kind
  case tickByTick => exact absurd rfl h
  case tickPrice | historicalData | scannerData =>
    repeat refine yields_bind fun _ => ?_
    exact hknown nofun
  case openOrderEnd | completedOrdersEnd | positionEnd => exact hknown nofun
  all_goals exact yields_single_known _

theorem run_readTickByTick_unknown {payload unread data : Bytes} {code : Int32} :
    readTickByTick.run payload = (.ok (.unknown code data), unread) ↔
      code = 99 ∧ data = [] ∧ ∃ reqId behindId type behindType time,
        BeginsInt payload reqId behindId ∧ BeginsInt behindId type behindType ∧
          BeginsLong behindType time unread ∧ type ∉ [(1 : Int32), 2, 3, 4] := by
  have hother {r : FieldReader Notice} {rest : Bytes}
      (h : (single r).run rest = (.ok (.unknown code data), unread)) : False :=
    (yields_single_known r).of_run (congrArg Prod.fst h) ⟨code, data, rfl⟩
  constructor
  · intro h
    obtain ⟨reqId, behindId, hid, h⟩ := run_bind_eq_ok.mp h
    obtain ⟨type, behindType, htype, h⟩ := run_bind_eq_ok.mp h
    obtain ⟨time, rest, htime, h⟩ := run_bind_eq_ok.mp h
    split at h
    · exact (hother h).elim
    next htrade =>
    split at h
    · exact (hother h).elim
    next hquote =>
    split at h
    · obtain ⟨price, rest, -, h⟩ := run_bind_eq_ok.mp h
      cases h
    next hmid =>
    cases h
    refine ⟨rfl, rfl, reqId, behindId, type, behindType, time, run_int_iff.mp hid,
      run_int_iff.mp htype, run_long_iff.mp htime, ?_⟩
    simp only [List.mem_cons, List.not_mem_nil, or_false]
    rintro (h | h | h | h)
    · exact htrade (.inl h)
    · exact htrade (.inr h)
    · exact hquote h
    · exact hmid h
  · rintro ⟨rfl, rfl, reqId, behindId, type, behindType, time, hid, htype, htime, hlayout⟩
    simp only [List.mem_cons, List.not_mem_nil, or_false, not_or] at hlayout
    obtain ⟨hone, htwo, hthree, hfour⟩ := hlayout
    refine run_bind_eq_ok.mpr ⟨reqId, behindId, run_int_iff.mpr hid, ?_⟩
    refine run_bind_eq_ok.mpr ⟨type, behindType, run_int_iff.mpr htype, ?_⟩
    refine run_bind_eq_ok.mpr ⟨time, unread, run_long_iff.mpr htime, ?_⟩
    rw [if_neg (not_or.mpr ⟨hone, htwo⟩), if_neg hthree, if_neg hfour]
    rfl

theorem run_read_unknown {sv : ServerVersion} {whole payload unread data : Bytes} {code : Int32}
    (h : (read sv whole).run payload = (.ok (.unknown code data), unread)) :
    IsForeign payload code ∧ data = whole ∨ IsUntypedTick payload ∧ code = 99 ∧ data = [] := by
  obtain ⟨first, behind, hfirst, h⟩ := run_bind_eq_ok.mp h
  have hbegins := run_int_iff.mp hfirst
  split at h
  · next kind hkind =>
    by_cases htick : kind = .tickByTick
    · subst htick
      have hcode := code_of_ofCode? hkind
      subst hcode
      obtain ⟨rfl, rfl, reqId, behindId, type, behindType, time, hid, htype, htime, hlayout⟩ :=
        run_readTickByTick_unknown.mp h
      exact .inr ⟨⟨_, _, _, _, _, _, _, hbegins, hid, htype, htime, hlayout⟩, rfl, rfl⟩
    · exact absurd ⟨code, data, rfl⟩ ((yields_known sv htick).of_run (congrArg Prod.fst h))
  · next hnone =>
    cases h
    exact .inl ⟨⟨⟨_, hbegins⟩, ofCode?_eq_none_iff.mp hnone⟩, rfl⟩

theorem decode_foreign {payload : Bytes} {code : Int32} (h : IsForeign payload code)
    (sv : ServerVersion) : decode sv payload = .ok (.unknown code payload) := by
  obtain ⟨⟨rest, hbegins⟩, hkinds⟩ := h
  rw [decode, read, run_bind, run_int_iff.mpr hbegins]
  dsimp only
  rw [ofCode?_eq_none_iff.mpr hkinds]
  rfl

theorem decode_untypedTick {payload : Bytes} (h : IsUntypedTick payload) (sv : ServerVersion) :
    decode sv payload = .ok (.unknown 99 []) := by
  obtain ⟨behindCode, reqId, behindId, type, behindType, time, rest, hcode, hid, htype, htime,
    hlayout⟩ := h
  have hkind : (Numbered.ofCode? 99 : Option Inbound) = some .tickByTick :=
    LawfulNumbered.ofCode?_code Inbound.tickByTick
  have htick : readTickByTick.run behindCode = (.ok (.unknown 99 []), rest) :=
    run_readTickByTick_unknown.mpr
      ⟨rfl, rfl, reqId, behindId, type, behindType, time, hid, htype, htime, hlayout⟩
  rw [decode, read, run_bind, run_int_iff.mpr hcode]
  dsimp only
  rw [hkind]
  exact congrArg Prod.fst htick

theorem notices_foreign {code : Int32} (h : ∀ kind : Inbound, Numbered.code kind ≠ code)
    (payload : Bytes) :
    notices (.unknown code payload) = [foreignNotice code payload.length] := by
  have hne : unknownReport code payload.length ≠ "" := by
    rw [unknownReport, ofCode?_eq_none_iff.mpr h]
    intro he
    obtain ⟨hfront, -⟩ := String.append_eq_empty_iff.mp he
    obtain ⟨hfixed, -⟩ := String.append_eq_empty_iff.mp hfront
    revert hfixed
    decide
  rw [notices, ClientError.notice_detail _ _ hne, unknownReport, ofCode?_eq_none_iff.mpr h]
  simp only [foreignNotice, String.append_assoc]
  rfl

end Event

namespace Inbox

open Event

/-- A payload on which nothing can be read has no first field. -/
theorem ne_nil_of_begins {α : Type} {means : String → α → Prop} {payload rest : Bytes} {value : α}
    (h : FieldReader.Begins means payload value rest) : payload ≠ [] := by
  obtain ⟨text, -, -, rfl⟩ := h
  simp [fieldOctets]

theorem arrive_of_decode {sv : ServerVersion} {payload : Bytes} {event : Event}
    (hne : payload ≠ []) (h : decode sv payload = .ok event) :
    arrive sv payload = (event.notices, none) := by
  rw [arrive, if_neg hne, h]

theorem arrive_foreign {payload : Bytes} {code : Int32} (h : IsForeign payload code)
    (sv : ServerVersion) : arrive sv payload = ([foreignNotice code payload.length], none) := by
  obtain ⟨rest, hbegins⟩ := h.1
  rw [arrive_of_decode (ne_nil_of_begins hbegins) (decode_foreign h sv), notices_foreign h.2]

theorem arrive_untypedTick {payload : Bytes} (h : IsUntypedTick payload) (sv : ServerVersion) :
    arrive sv payload = ([untypedNotice], none) := by
  have hne : payload ≠ [] := by
    obtain ⟨_, _, _, _, _, _, _, hcode, -⟩ := h
    exact ne_nil_of_begins hcode
  rw [arrive_of_decode hne (decode_untypedTick h sv)]
  rfl

/-- The task that reads takes a frame that does not end the session, and goes on behind it. -/
theorem takeFrame?_of_arrive {i : Inbox} (hend : i.ending = none) {payload rest : Bytes}
    (hfits : payload.length ≤ maxPayload) (hbuffer : i.scanner.buffer = octets payload ++ rest)
    {notices : List Notice} (h : arrive i.version payload = (notices, none)) :
    i.takeFrame? = some (notices, [headerLength + payload.length],
      { version := i.version, scanner := ⟨rest⟩ }) := by
  have hnext : i.scanner.next = (.ok (some payload), ⟨rest⟩) := by
    have hoctets := Scanner.next_octets payload rest hfits
    rwa [← hbuffer] at hoctets
  simp only [takeFrame?, hend, hnext, h]

/-- A message is of unknown content if its first field is the code of no kind, and then it is kept
whole, or if it is a tick of a type without a layout, and then nothing is kept of it. The first is
told as one error with its size, whatever its other octets are, and the session goes on with the
next frame; the second is told as if it had no octets. -/
theorem decode_unknown (sv : ServerVersion) (payload : Bytes) :
    (∀ code data, decode sv payload = .ok (.unknown code data) ↔
      IsForeign payload code ∧ data = payload ∨ IsUntypedTick payload ∧ code = 99 ∧ data = []) ∧
    (∀ code, IsForeign payload code →
      arrive sv payload = ([foreignNotice code payload.length], none) ∧
      (payload.length ≤ maxPayload → ∀ rest,
        (∀ i : Inbox, i.version = sv → i.ending = none →
          i.scanner.buffer = octets payload ++ rest →
          i.takeFrame? = some ([foreignNotice code payload.length],
            [headerLength + payload.length], { version := sv, scanner := ⟨rest⟩ })) ∧
        transcript sv (octets payload ++ rest) =
          foreignNotice code payload.length :: transcript sv rest)) ∧
    (IsUntypedTick payload → arrive sv payload = ([untypedNotice], none)) := by
  refine ⟨fun code data => ⟨fun h => ?_, ?_⟩, fun code h => ⟨arrive_foreign h sv, ?_⟩,
    fun h => arrive_untypedTick h sv⟩
  · exact run_read_unknown (run_of_decode h)
  · rintro (⟨h, rfl⟩ | ⟨h, rfl, rfl⟩)
    · exact decode_foreign h sv
    · exact decode_untypedTick h sv
  · intro hfits rest
    have harrive := arrive_foreign h sv
    refine ⟨fun i hversion hend hbuffer => ?_, ?_⟩
    · subst hversion
      exact takeFrame?_of_arrive hend hfits hbuffer harrive
    · rw [transcript_octets sv rest hfits, harrive]
      rfl

theorem beginsInt_int (n : Int32) (rest : Bytes) :
    FieldReader.BeginsInt (fieldOctets (Field.int n) ++ rest) n rest :=
  ⟨Field.int n, FieldReader.isTerminable_int n, .written (FieldReader.intOf_int n), rfl⟩

/-- A message with the code 1000, octets that are no text behind it, and the next number for an
order behind that. -/
theorem decode_unknown_broken :
    IsForeign [49, 48, 48, 48, 0, 255, 254] 1000 ∧
      decode 176 [49, 48, 48, 48, 0, 255, 254] =
        .ok (.unknown 1000 [49, 48, 48, 48, 0, 255, 254]) ∧
      transcript 176
          (octets [49, 48, 48, 48, 0, 255, 254] ++ octets [57, 0, 49, 0, 52, 50, 0]) =
        [.error (-1) 0 508 "Bad message unknown message id 1000, 7 bytes" "", .nextValidId 42,
          .connectionClosed] := by
  have hforeign : IsForeign [49, 48, 48, 48, 0, 255, 254] 1000 :=
    ⟨⟨[255, 254], beginsInt_int 1000 [255, 254]⟩, by rintro ⟨⟩ <;> decide⟩
  obtain ⟨hdecode, hforeigns, -⟩ := decode_unknown 176 [49, 48, 48, 48, 0, 255, 254]
  obtain ⟨-, hsession⟩ := hforeigns 1000 hforeign
  obtain ⟨-, htranscript⟩ := hsession (by decide) (octets [57, 0, 49, 0, 52, 50, 0])
  have hrest : transcript 176 (octets [57, 0, 49, 0, 52, 50, 0]) =
      [.nextValidId 42, .connectionClosed] := by
    have hsplits : Frame.Splits (octets [57, 0, 49, 0, 52, 50, 0]) [[57, 0, 49, 0, 52, 50, 0]] [] :=
      ⟨rfl, by decide, Scanner.not_hasFrame_nil⟩
    rw [transcript_eq 176 hsplits]
    rfl
  refine ⟨hforeign, (hdecode 1000 _).mpr (.inl ⟨hforeign, rfl⟩), ?_⟩
  rw [htranscript, hrest]
  rfl

/-- A tick of the type 7: it is kept without its nine octets, and told so. -/
theorem decode_drops_tick :
    decode 176 [57, 57, 0, 53, 0, 55, 0, 49, 0] = .ok (.unknown 99 []) ∧
      (arrive 176 [57, 57, 0, 53, 0, 55, 0, 49, 0]).1 =
        [.error (-1) 0 508 "Bad message unhandled message TICK_BY_TICK (99), 0 bytes" ""] ∧
      ¬ ∀ (sv : ServerVersion) (payload : Bytes) (code : Int32) (data : Bytes),
        decode sv payload = .ok (.unknown code data) → data = payload := by
  have hdecode : decode 176 [57, 57, 0, 53, 0, 55, 0, 49, 0] = .ok (.unknown 99 []) := by rfl
  refine ⟨hdecode, by rfl, fun hall => ?_⟩
  have hkept := hall 176 _ 99 [] hdecode
  cases hkept

end Inbox

end BrokerWire
