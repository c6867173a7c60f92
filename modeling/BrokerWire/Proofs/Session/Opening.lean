import BrokerWire.Proofs.Text.Utf8
import BrokerWire.Proofs.Wire.Cursor
import BrokerWire.Proofs.Wire.Framing
import BrokerWire.Session.Handshake

namespace BrokerWire

namespace Scanner

open FieldReader

/-- Pieces that can be taken are at the front, whatever is behind. -/
theorem takePieces_append {count : Nat} {octets rest : Bytes} {pieces : List Bytes}
    (h : takePieces count octets = some (pieces, rest)) (more : Bytes) :
    takePieces count (octets ++ more) = some (pieces, rest ++ more) := by
  induction count generalizing octets pieces with
  | zero =>
    cases h
    rfl
  | succ count ih =>
    obtain hm | ⟨piece, left, rfl, hm⟩ := piece_cases octets
    · rw [takePieces, span_of_not_mem hm] at h
      cases h
    · rw [takePieces, span_piece left hm] at h
      obtain ⟨⟨taken, behind⟩, ht, he⟩ := Option.map_eq_some_iff.mp h
      cases he
      rw [List.append_assoc, List.cons_append, takePieces, span_piece _ hm]
      dsimp only
      rw [ih ht]
      rfl

theorem takePieces_eq_some {count : Nat} {octets rest : Bytes} {pieces : List Bytes}
    (h : takePieces count octets = some (pieces, rest)) :
    pieces.length = count ∧ ∃ taken, octets = taken ++ rest ∧
      takePieces count taken = some (pieces, []) := by
  induction count generalizing octets pieces with
  | zero =>
    cases h
    exact ⟨rfl, [], rfl, rfl⟩
  | succ count ih =>
    obtain hm | ⟨piece, left, rfl, hm⟩ := piece_cases octets
    · rw [takePieces, span_of_not_mem hm] at h
      cases h
    · rw [takePieces, span_piece left hm] at h
      obtain ⟨⟨later, behind⟩, ht, he⟩ := Option.map_eq_some_iff.mp h
      cases he
      obtain ⟨hlength, taken, rfl, htaken⟩ := ih ht
      refine ⟨congrArg Nat.succ hlength, piece ++ 0 :: taken, by simp, ?_⟩
      rw [takePieces, span_piece taken hm]
      dsimp only
      rw [htaken]
      rfl

theorem length_decodePieces {pieces : List Bytes} {texts : List String}
    (h : decodePieces pieces = .ok texts) : texts.length = pieces.length := by
  induction pieces generalizing texts with
  | nil =>
    cases h
    rfl
  | cons piece pieces ih =>
    rw [decodePieces] at h
    cases hpiece : Utf8.decode piece with
    | error fault =>
      rw [hpiece] at h
      cases h
    | ok text =>
      cases hrest : decodePieces pieces with
      | error fault =>
        rw [hpiece, hrest] at h
        cases h
      | ok later =>
        rw [hpiece, hrest] at h
        cases h
        exact congrArg Nat.succ (ih hrest)

/-- Pieces of which octets are missing are waited for. -/
theorem takePieces_of_isPrefix {count : Nat} {octets part : Bytes} {pieces : List Bytes}
    (h : takePieces count octets = some (pieces, [])) (hp : part <+: octets)
    (hne : part ≠ octets) : takePieces count part = none := by
  induction count generalizing octets part pieces with
  | zero =>
    cases h
    exact absurd (List.prefix_nil.mp hp) hne
  | succ count ih =>
    obtain hm | ⟨piece, left, rfl, hm⟩ := piece_cases octets
    · rw [takePieces, span_of_not_mem hm] at h
      cases h
    · rw [takePieces, span_piece left hm] at h
      obtain ⟨⟨taken, behind⟩, ht, he⟩ := Option.map_eq_some_iff.mp h
      cases he
      obtain hshort | ⟨more, rfl, hmore⟩ := prefix_piece_cases hp
      · have hpart : (0 : UInt8) ∉ part := fun hz => hm (hshort.subset hz)
        rw [takePieces, span_of_not_mem hpart]
      · have hrest : more ≠ left := fun he => hne (by rw [he])
        rw [takePieces, span_piece more hm]
        dsimp only
        rw [ih ht hmore hrest]
        rfl

theorem looksFramed_octets {payload : Bytes} (rest : Bytes) (h : payload.length ≤ maxPayload) :
    (⟨Frame.octets payload ++ rest⟩ : Scanner).looksFramed = some true := by
  have hb : payload.length / 16777216 = 0 := by
    have hle : payload.length ≤ 16777215 := h
    omega
  simp [looksFramed, Frame.octets, Frame.header, hb]

/-- The first octet decides, and it stays when more arrives. -/
theorem looksFramed_append {octets : Bytes} {framed : Bool}
    (h : (⟨octets⟩ : Scanner).looksFramed = some framed) (more : Bytes) :
    (⟨octets ++ more⟩ : Scanner).looksFramed = some framed := by
  cases octets with
  | nil => cases h
  | cons octet rest => exact h

theorem looksFramed_of_isPrefix {octets part : Bytes} {framed : Bool}
    (h : (⟨octets⟩ : Scanner).looksFramed = some framed) (hp : part <+: octets) :
    part = [] ∨ (⟨part⟩ : Scanner).looksFramed = some framed := by
  cases part with
  | nil => exact .inl rfl
  | cons octet rest =>
    obtain ⟨missing, rfl⟩ := hp
    exact .inr h

end Scanner

namespace Handshake

open Scanner

/-- What an answer that is taken looks like: a frame with two fields, or two bare fields. -/
theorem reply_cases {answer : Bytes} {fields : String × String}
    (h : reply ⟨answer⟩ = (.ok (some fields), {})) :
    (∃ payload, payload.length ≤ maxPayload ∧ answer = Frame.octets payload ∧
      (replyFields.run payload).1 = .ok fields) ∨
    ((⟨answer⟩ : Scanner).looksFramed = some false ∧
      ∃ pieces, takePieces 2 answer = some (pieces, []) ∧
        decodePieces pieces = .ok [fields.1, fields.2]) := by
  unfold reply at h
  split at h
  · cases h
  · obtain ⟨n, -, -, hn⟩ | ⟨-, -, hn⟩ | ⟨payload, rest, hp, hs, hn⟩ := next_cases ⟨answer⟩
    · rw [hn] at h
      cases h
    · rw [hn] at h
      cases h
    · rw [hn] at h
      dsimp only at h hs
      obtain ⟨hrun, hrest⟩ := Prod.mk.inj h
      cases hrest
      rw [List.append_nil] at hs
      refine .inl ⟨payload, hp, hs, ?_⟩
      cases hr : (replyFields.run payload).1 with
      | error fault =>
        rw [hr] at hrun
        cases hrun
      | ok taken =>
        rw [hr] at hrun
        cases hrun
        rfl
  · next hlooks =>
    refine .inr ⟨hlooks, ?_⟩
    unfold unframedFields at h
    dsimp only at h
    cases ht : takePieces 2 answer with
    | none =>
      rw [ht] at h
      cases h
    | some taken =>
      obtain ⟨pieces, rest⟩ := taken
      rw [ht] at h
      cases hd : decodePieces pieces with
      | error fault =>
        simp only [hd, Except.map] at h
        cases h
      | ok texts =>
        simp only [hd, Except.map] at h
        split at h
        · cases h
        · next first second left hf =>
          cases hf
          cases h
          exact ⟨pieces, rfl, hd⟩
        · cases h

/-- An answer is taken off the front, whatever is behind it. -/
theorem reply_append {answer : Bytes} {fields : String × String}
    (h : reply ⟨answer⟩ = (.ok (some fields), {})) (more : Bytes) :
    reply ⟨answer ++ more⟩ = (.ok (some fields), ⟨more⟩) := by
  obtain ⟨payload, hp, rfl, hrun⟩ | ⟨hlooks, pieces, ht, hd⟩ := reply_cases h
  · rw [reply, looksFramed_octets more hp]
    dsimp only
    rw [next_octets payload more hp]
    dsimp only
    rw [hrun]
    rfl
  · rw [reply, looksFramed_append hlooks more]
    dsimp only
    rw [unframedFields]
    dsimp only
    rw [takePieces_append ht more]
    dsimp only
    rw [hd]
    rfl

/-- An answer of which octets are missing is waited for. -/
theorem reply_of_isPrefix {answer part : Bytes} {fields : String × String}
    (h : reply ⟨answer⟩ = (.ok (some fields), {})) (hp : part <+: answer) (hne : part ≠ answer) :
    reply ⟨part⟩ = (.ok none, ⟨part⟩) := by
  obtain ⟨payload, hfits, rfl, hrun⟩ | ⟨hlooks, pieces, ht, hd⟩ := reply_cases h
  · have hwhole := looksFramed_octets [] hfits
    rw [List.append_nil] at hwhole
    obtain rfl | hpart := looksFramed_of_isPrefix hwhole hp
    · rfl
    · rw [reply, hpart]
      dsimp only
      rw [next_of_isPrefix hfits hp hne]
  · obtain rfl | hpart := looksFramed_of_isPrefix hlooks hp
    · rfl
    · rw [reply, hpart]
      dsimp only
      rw [unframedFields]
      dsimp only
      rw [takePieces_of_isPrefix ht hp hne]

/-- What a scanner makes of its octets while the answer is awaited: it waits and takes nothing, or it
takes an answer off the front. -/
theorem reply_eq_ok {s left : Scanner} {outcome : Option (String × String)}
    (h : reply s = (.ok outcome, left)) :
    match outcome with
    | none => left = s
    | some fields => ∃ answer, s.buffer = answer ++ left.buffer ∧
        reply ⟨answer⟩ = (.ok (some fields), {}) := by
  unfold reply at h
  split at h
  · cases h
    rfl
  · obtain ⟨n, -, -, hn⟩ | ⟨-, -, hn⟩ | ⟨payload, rest, hp, hs, hn⟩ := next_cases s
    · rw [hn] at h
      cases h
    · rw [hn] at h
      cases h
      rfl
    · rw [hn] at h
      dsimp only at h
      cases hr : (replyFields.run payload).1 with
      | error fault =>
        rw [hr] at h
        cases h
      | ok fields =>
        rw [hr] at h
        cases h
        have hlooks := looksFramed_octets [] hp
        have hnext := next_octets payload [] hp
        rw [List.append_nil] at hlooks hnext
        refine ⟨Frame.octets payload, hs, ?_⟩
        rw [reply, hlooks]
        dsimp only
        rw [hnext]
        dsimp only
        rw [hr]
        rfl
  · next hlooks =>
    rw [unframedFields] at h
    cases ht : takePieces 2 s.buffer with
    | none =>
      rw [ht] at h
      cases h
      rfl
    | some taken =>
      obtain ⟨pieces, rest⟩ := taken
      obtain ⟨htwo, answer, hanswer, htake⟩ := takePieces_eq_some ht
      rw [ht] at h
      cases hd : decodePieces pieces with
      | error fault =>
        simp only [hd, Except.map] at h
        cases h
      | ok texts =>
        have hlength := length_decodePieces hd
        rw [htwo] at hlength
        obtain ⟨first, second, rfl⟩ := List.length_eq_two.mp hlength
        simp only [hd, Except.map] at h
        cases h
        have hfront : (⟨answer⟩ : Scanner).looksFramed = some false := by
          obtain hnil | hlooks := looksFramed_of_isPrefix hlooks ⟨rest, hanswer.symm⟩
          · rw [hnil] at htake
            cases htake
          · exact hlooks
        refine ⟨answer, hanswer, ?_⟩
        rw [reply, hfront]
        dsimp only
        rw [unframedFields]
        dsimp only
        rw [htake]
        dsimp only
        rw [hd]
        rfl

/-- Whether octets are an answer, and nothing else, on which a session can start. -/
def Accepts (answer : Bytes) (h : Handshake) : Prop :=
  ∃ version, reply ⟨answer⟩ = (.ok (some (version, h.connectionTime)), {}) ∧
    judge version h.connectionTime = .ok h

theorem version_of_accepts {answer : Bytes} {h : Handshake} (ha : Accepts answer h) :
    ServerVersion.lowest ≤ h.serverVersion ∧ h.serverVersion ≤ ServerVersion.highest := by
  obtain ⟨version, -, hj⟩ := ha
  unfold judge at hj
  split at hj
  · cases hj
  · next n _ =>
    dsimp only at hj
    by_cases hbelow : n.toInt < 0
    · rw [if_pos hbelow] at hj
      cases hj
    rw [if_neg hbelow] at hj
    by_cases hrange : n.toInt < ServerVersion.lowest ∨ ServerVersion.highest < n.toInt
    · rw [if_pos hrange] at hj
      cases hj
    rw [if_neg hrange] at hj
    have hversion := congrArg serverVersion (Except.ok.inj hj)
    rw [← hversion]
    exact ⟨Int.not_lt.mp fun hl => hrange (.inl hl), Int.not_lt.mp fun hl => hrange (.inr hl)⟩

/-- The forms of an answer. -/
inductive Form where
  | framed
  | bare
  deriving DecidableEq

/-- An answer of two fields as it is sent. -/
def Form.octets (form : Form) (version second : String) : Bytes :=
  let fields := (⟨[version, second]⟩ : Message).payload
  match form with
  | .framed => Frame.octets fields
  | .bare => fields

/-- Whether an answer can be sent in a form: its fields have no zero character, a frame holds them,
and bare fields do not look like a frame. -/
structure Form.Admits (form : Form) (version second : String) : Prop where
  version_terminable : Utf8.IsTerminable version
  second_terminable : Utf8.IsTerminable second
  fits : form = .framed → (⟨[version, second]⟩ : Message).payload.length ≤ maxPayload
  version_ne_empty : form = .bare → version ≠ ""

theorem payload_eq (version second : String) :
    (⟨[version, second]⟩ : Message).payload =
      Utf8.encode version.toList ++ 0 :: (Utf8.encode second.toList ++ 0 :: []) := by
  simp [Message.payload, Message.fieldOctets]

theorem replyFields_payload {version second : String} (hv : Utf8.IsTerminable version)
    (hs : Utf8.IsTerminable second) :
    replyFields.run (⟨[version, second]⟩ : Message).payload = (.ok (version, second), []) := by
  rw [Message.payload, List.flatMap_cons, List.flatMap_cons, List.flatMap_nil]
  exact (FieldReader.run_field hv _ _).trans (FieldReader.run_field hs _ [])

theorem encode_ne_nil {text : String} (h : text ≠ "") : Utf8.encode text.toList ≠ [] := by
  intro he
  have hd := Utf8.decode_encode text.toList
  rw [he] at hd
  have hnil : [] = text.toList := Except.ok.inj hd
  exact h (String.toList_inj.mp hnil.symm)

theorem looksFramed_bare {version second : String} (hv : Utf8.IsTerminable version)
    (hne : version ≠ "") :
    (⟨(⟨[version, second]⟩ : Message).payload⟩ : Scanner).looksFramed = some false := by
  rw [payload_eq]
  cases hoctets : Utf8.encode version.toList with
  | nil => exact absurd hoctets (encode_ne_nil hne)
  | cons octet rest =>
    have hz := Utf8.zero_not_mem_encode hv
    rw [hoctets, List.mem_cons, not_or] at hz
    simp only [looksFramed, List.cons_append, List.head?_cons, Option.map_some]
    rw [beq_eq_false_iff_ne.mpr (Ne.symm hz.1)]

theorem reply_octets {form : Form} {version second : String} (h : form.Admits version second) :
    reply ⟨form.octets version second⟩ = (.ok (some (version, second)), {}) := by
  have hv := Utf8.zero_not_mem_encode h.version_terminable
  have hs := Utf8.zero_not_mem_encode h.second_terminable
  cases form with
  | framed =>
    have hfits := h.fits rfl
    have hlooks := looksFramed_octets [] hfits
    have hnext := next_octets _ [] hfits
    rw [List.append_nil] at hlooks hnext
    rw [Form.octets, reply, hlooks, hnext]
    dsimp only
    rw [replyFields_payload h.version_terminable h.second_terminable]
    rfl
  | bare =>
    rw [Form.octets, reply, looksFramed_bare h.version_terminable (h.version_ne_empty rfl)]
    dsimp only
    rw [unframedFields, payload_eq]
    simp only [takePieces, FieldReader.span_piece _ hv, FieldReader.span_piece _ hs,
      Option.map_some, decodePieces, Utf8.decode_encode]
    simp [bind, Except.bind, pure, Except.pure, Except.map]

/-- A version in range is accepted, in a frame or bare. -/
theorem accepts_octets {form : Form} {version time : String} {n : Int32}
    (h : form.Admits version time) (hn : Number.readInt32 version.toList = .ok n)
    (hlow : ServerVersion.lowest ≤ n.toInt) (hhigh : n.toInt ≤ ServerVersion.highest) :
    Accepts (form.octets version time) ⟨n.toInt, time⟩ := by
  refine ⟨version, reply_octets h, ?_⟩
  have hbelow : ¬ n.toInt < 0 := by
    change (100 : Int) ≤ _ at hlow
    omega
  simp [judge, hn, hbelow, hlow, hhigh]

/-- Octets and chunks that begin with an answer lead to what the client makes of it, with all that is
behind the answer left. -/
theorem await_reply {answer stream : Bytes} {version second : String}
    (hr : reply ⟨answer⟩ = (.ok (some (version, second)), {})) {s : Scanner} {chunks : List Bytes}
    (hs : s.buffer ++ chunks.flatten = answer ++ stream) :
    ∃ left rest, await s chunks = (some (judge version second), left, rest) ∧
      left.buffer ++ rest.flatten = stream := by
  induction chunks generalizing s with
  | nil =>
    obtain ⟨buffer⟩ := s
    rw [List.flatten_nil, List.append_nil] at hs
    dsimp only at hs
    rw [await, hs, reply_append hr]
    exact ⟨_, _, rfl, List.append_nil stream⟩
  | cons chunk chunks ih =>
    obtain ⟨buffer⟩ := s
    dsimp only at hs
    -- The answer is complete in the buffer, or it needs the next chunk.
    by_cases hc : ∃ more, buffer = answer ++ more
    · obtain ⟨more, rfl⟩ := hc
      rw [List.append_assoc] at hs
      rw [await, reply_append hr]
      exact ⟨_, _, rfl, List.append_cancel_left hs⟩
    · have hp : buffer <+: answer := by
        obtain ⟨more, hm, -⟩ | ⟨more, hm, -⟩ := List.append_eq_append_iff.mp hs
        · exact ⟨more, hm.symm⟩
        · exact absurd ⟨more, hm⟩ hc
      have hne : buffer ≠ answer := fun he => hc ⟨[], by rw [he, List.append_nil]⟩
      rw [await, reply_of_isPrefix hr hp hne]
      exact ih (by simpa [push] using hs)

/-- An accepted answer leads to its session. -/
theorem await_accepts {answer stream : Bytes} {h : Handshake} (ha : Accepts answer h)
    {s : Scanner} {chunks : List Bytes} (hs : s.buffer ++ chunks.flatten = answer ++ stream) :
    ∃ left rest, await s chunks = (some (.ok h), left, rest) ∧
      left.buffer ++ rest.flatten = stream := by
  obtain ⟨version, hr, hj⟩ := ha
  rw [← hj]
  exact await_reply hr hs

/-- While octets of the answer are missing there is no outcome. -/
theorem await_of_isPrefix {answer : Bytes} {fields : String × String}
    (hr : reply ⟨answer⟩ = (.ok (some fields), {})) {s : Scanner} {chunks : List Bytes}
    (hp : s.buffer ++ chunks.flatten <+: answer) (hne : s.buffer ++ chunks.flatten ≠ answer) :
    (await s chunks).1 = none := by
  have hwait {s : Scanner} {later : Bytes} (hp : s.buffer ++ later <+: answer)
      (hne : s.buffer ++ later ≠ answer) : reply s = (.ok none, s) := by
    refine reply_of_isPrefix hr ((List.prefix_append _ _).trans hp) fun he => hne ?_
    refine hp.eq_of_length_le ?_
    rw [List.length_append, ← he]
    exact Nat.le_add_right _ _
  induction chunks generalizing s with
  | nil => rw [await, hwait hp hne]
  | cons chunk chunks ih =>
    rw [await, hwait hp hne]
    rw [List.flatten_cons, ← List.append_assoc] at hp hne
    exact ih hp hne

/-- A session starts behind an accepted answer: what was waited for is that answer, and all that is
behind it is left. -/
theorem await_eq_ok {s left : Scanner} {chunks rest : List Bytes} {agreed : Handshake}
    (h : await s chunks = (some (.ok agreed), left, rest)) :
    ∃ answer, Accepts answer agreed ∧
      s.buffer ++ chunks.flatten = answer ++ (left.buffer ++ rest.flatten) := by
  have htaken {s left : Scanner} {version second : String}
      (hr : reply s = (.ok (some (version, second)), left))
      (hj : judge version second = .ok agreed) (later : List Bytes) :
      ∃ answer, Accepts answer agreed ∧
        s.buffer ++ later.flatten = answer ++ (left.buffer ++ later.flatten) := by
    obtain ⟨answer, hanswer, hreply⟩ := reply_eq_ok hr
    have hsecond : agreed.connectionTime = second := by
      unfold judge at hj
      split at hj
      · cases hj
      · dsimp only at hj
        split at hj
        · cases hj
        split at hj
        · cases hj
        · cases hj
          rfl
    subst hsecond
    refine ⟨answer, ⟨version, hreply, hj⟩, ?_⟩
    rw [hanswer, List.append_assoc]
  induction chunks generalizing s with
  | nil =>
    unfold await at h
    split at h
    · cases h
    · next version second behind hr =>
      simp only [Prod.mk.injEq, Option.some.injEq] at h
      obtain ⟨hj, rfl, rfl⟩ := h
      exact htaken hr hj []
    · cases h
  | cons chunk chunks ih =>
    unfold await at h
    split at h
    · cases h
    · next version second behind hr =>
      simp only [Prod.mk.injEq, Option.some.injEq] at h
      obtain ⟨hj, rfl, rfl⟩ := h
      exact htaken hr hj (chunk :: chunks)
    · next behind hr =>
      have hsame : behind = s := reply_eq_ok hr
      obtain ⟨answer, haccepts, hbuffer⟩ := ih h
      refine ⟨answer, haccepts, ?_⟩
      rw [← hbuffer, hsame, List.flatten_cons, Scanner.push, List.append_assoc]

end Handshake

end BrokerWire
