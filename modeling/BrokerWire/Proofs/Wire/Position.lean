import BrokerWire.Proofs.Wire.Begins
import BrokerWire.Proofs.Wire.Separation

namespace BrokerWire

open Message (fieldOctets pieces)
open Utf8 (IsTerminable)

/-- Whether a fault says that there was no field to take, rather than that its text was refused. -/
def FieldFault.IsStructural : FieldFault → Prop
  | .endOfMessage | .unterminated | .notUtf8 _ => True
  | .notInt _ _ | .notLong _ _ | .notDouble _ _ | .notDecimal _ _ | .negativeCount _
  | .unknownCondition _ => False

namespace FieldReader

variable {α β : Type}

/-- The texts of the fields that a reader takes off a payload, also when it fails behind them. -/
def taken : FieldReader α → Bytes → List String
  | .done _, _ => []
  | .fail _, _ => []
  | .field next, payload =>
    match nextField payload with
    | .ok (text, rest) => text :: (next text).taken rest
    | .error _ => []

/-- Nothing is lost between what a reader takes and what it leaves. -/
theorem taken_append_unread (r : FieldReader α) (payload : Bytes) :
    (r.taken payload).flatMap fieldOctets ++ (r.run payload).2 = payload ∧
      ∀ text ∈ r.taken payload, IsTerminable text := by
  induction r generalizing payload with
  | done value => exact ⟨rfl, List.forall_mem_nil _⟩
  | fail fault => exact ⟨rfl, List.forall_mem_nil _⟩
  | field next ih =>
    rw [taken, run]
    cases hfield : nextField payload with
    | error fault => exact ⟨rfl, List.forall_mem_nil _⟩
    | ok step =>
      obtain ⟨text, rest⟩ := step
      obtain ⟨hterminable, rfl⟩ := nextField_iff.mp hfield
      obtain ⟨hrest, hall⟩ := ih text rest
      constructor
      · dsimp only
        rw [List.flatMap_cons, List.append_assoc, hrest]
      · exact List.forall_mem_cons.mpr ⟨hterminable, hall⟩

theorem nextField_error {payload : Bytes} {fault : FieldFault}
    (h : nextField payload = .error fault) : fault.IsStructural := by
  obtain hm | ⟨piece, rest, rfl, hm⟩ := piece_cases payload
  · rw [nextField_of_not_mem hm] at h
    cases h
    split <;> trivial
  · rw [nextField_piece rest hm] at h
    cases hd : Utf8.decode piece with
    | ok text =>
      rw [hd] at h
      cases h
    | error fault =>
      rw [hd] at h
      cases h
      trivial

/-- Whether the faults that a reader makes itself are all about texts. -/
def OnlyRefuses : FieldReader α → Prop
  | .done _ => True
  | .fail fault => ¬ fault.IsStructural
  | .field next => ∀ text, (next text).OnlyRefuses

namespace OnlyRefuses

theorem bind {r : FieldReader α} {next : α → FieldReader β} (h : r.OnlyRefuses)
    (hnext : ∀ value, (next value).OnlyRefuses) : (r.bind next).OnlyRefuses := by
  induction r with
  | done value => exact hnext value
  | fail fault => exact h
  | field step ih => exact fun text => ih text (h text)

theorem skips (n : Nat) : (FieldReader.skips n).OnlyRefuses := by
  induction n with
  | zero => trivial
  | succ n ih => exact fun _ => ih

theorem list {item : FieldReader α} (h : item.OnlyRefuses) (n : Nat) :
    (FieldReader.list n item).OnlyRefuses := by
  rw [FieldReader.list]
  generalize [] = before
  induction n generalizing before with
  | zero => trivial
  | succ n ih => exact h.bind fun value => ih (value :: before)

end OnlyRefuses

/-- A reader that fails for want of a field stands where there is none. -/
theorem nextField_of_run_error {r : FieldReader α} (h : r.OnlyRefuses) {payload : Bytes}
    {fault : FieldFault} (hrun : (r.run payload).1 = .error fault) (hf : fault.IsStructural) :
    nextField (r.run payload).2 = .error fault := by
  induction r generalizing payload with
  | done value => cases hrun
  | fail other =>
    cases hrun
    exact absurd hf h
  | field next ih =>
    rw [run] at hrun ⊢
    cases hfield : nextField payload with
    | error other =>
      rw [hfield] at hrun
      cases hrun
      exact hfield
    | ok step =>
      rw [hfield] at hrun
      exact ih step.1 (h step.1) hrun

/-- Whether a fault, if there is one, is about a text. -/
def Refuses (outcome : Except FieldFault α) : Prop :=
  ∀ fault, outcome = .error fault → ¬ fault.IsStructural

namespace Refuses

theorem ok (value : α) : Refuses (.ok value) :=
  nofun

theorem error {fault : FieldFault} (h : ¬ fault.IsStructural) :
    Refuses (.error fault : Except FieldFault α) := by
  intro other he
  cases he
  exact h

theorem mapError {ε : Type} {report : ε → FieldFault} (h : ∀ e, ¬ (report e).IsStructural)
    (outcome : Except ε α) : Refuses (outcome.mapError report) := by
  cases outcome with
  | ok value => exact ok value
  | error e => exact error (h e)

theorem map {outcome : Except FieldFault α} (h : Refuses outcome) (f : α → β) :
    Refuses (outcome.map f) := by
  cases outcome with
  | ok value => exact ok (f value)
  | error fault => exact error (h fault rfl)

theorem bind {outcome : Except FieldFault α} (h : Refuses outcome) {f : α → Except FieldFault β}
    (hf : ∀ value, Refuses (f value)) : Refuses (outcome.bind f) := by
  cases outcome with
  | ok value => exact hf value
  | error fault => exact error (h fault rfl)

theorem ite {condition : Prop} [Decidable condition] {outcome other : Except FieldFault α}
    (h : Refuses outcome) (hother : Refuses other) :
    Refuses (if condition then outcome else other) := by
  split
  · exact h
  · exact hother

end Refuses

/-- Whether a reader takes one field, and refuses nothing but its text. -/
def IsScalar (r : FieldReader α) : Prop :=
  ∃ parse : String → Except FieldFault α, r = parsed parse ∧ ∀ text, Refuses (parse text)

namespace IsScalar

theorem total (f : String → α) : IsScalar (.field fun text => .done (f text)) :=
  ⟨fun text => .ok (f text), rfl, fun text => .ok (f text)⟩

/-- A value that is computed from that of a field, or refused. -/
theorem bind {r : FieldReader α} (h : r.IsScalar) (f : α → Except FieldFault β)
    (hf : ∀ value, Refuses (f value)) : (r.bind fun value => ofExcept (f value)).IsScalar := by
  obtain ⟨parse, rfl, hparse⟩ := h
  refine ⟨fun text => (parse text).bind f, ?_, fun text => (hparse text).bind hf⟩
  rw [parsed, parsed, FieldReader.bind]
  congr 1
  funext text
  cases parse text <;> rfl

theorem onlyRefuses {r : FieldReader α} (h : r.IsScalar) : r.OnlyRefuses := by
  obtain ⟨parse, rfl, hparse⟩ := h
  intro text
  have htext := hparse text
  dsimp only
  cases hp : parse text with
  | ok value => trivial
  | error fault => exact htext fault hp

theorem int : FieldReader.int.IsScalar := by
  refine ⟨_, rfl, fun text => .ite (.ok 0) (.ite (.ok unsetInt) ?_)⟩
  exact .mapError (fun _ => id) _

theorem long : FieldReader.long.IsScalar := by
  refine ⟨_, rfl, fun text => .ite (.ok 0) (.ite (.ok unsetLong) ?_)⟩
  exact .mapError (fun _ => id) _

theorem double : FieldReader.double.IsScalar := by
  refine ⟨_, rfl, fun text => .ite (.ok Double.zero) (.ite (.ok unsetDouble) (.ite (.ok _) ?_))⟩
  exact .mapError (fun _ => id) _

theorem optionalInt : FieldReader.optionalInt.IsScalar := by
  refine ⟨_, rfl, fun text => .ite (.ok none) (.map ?_ some)⟩
  exact .mapError (fun _ => id) _

theorem optionalLong : FieldReader.optionalLong.IsScalar := by
  refine ⟨_, rfl, fun text => .ite (.ok none) (.map ?_ some)⟩
  exact .mapError (fun _ => id) _

theorem optionalDouble : FieldReader.optionalDouble.IsScalar := by
  refine ⟨_, rfl, fun text => .ite (.ok none) (.ite (.ok _) (.map ?_ _))⟩
  exact .mapError (fun _ => id) _

theorem decimal : FieldReader.decimal.IsScalar := by
  refine ⟨_, rfl, fun text => .ite (.ok none) (.map ?_ some)⟩
  exact .mapError (fun _ => id) _

theorem number {κ : Type} [Numbered κ] (other : κ) : (FieldReader.number other).IsScalar :=
  int.bind (fun n => .ok ((Numbered.ofCode? n).getD other)) fun _ => .ok _

theorem count : FieldReader.count.IsScalar := by
  have h := int.bind (fun n => if n < 0 then .error (.negativeCount n) else .ok n.toInt.toNat)
    fun _ => .ite (.error id) (.ok _)
  simpa only [apply_ite ofExcept] using! h

end IsScalar

end FieldReader

/-- The reads of a single field. -/
inductive Scalar : Type → Type 1 where
  | text : Scalar String
  | unescaped : Scalar String
  | int : Scalar Int32
  | optionalInt : Scalar (Option Int32)
  | long : Scalar Int64
  | optionalLong : Scalar (Option Int64)
  | count : Scalar Nat
  | double : Scalar Double
  | optionalDouble : Scalar (Option Double)
  | bool : Scalar Bool
  | decimal : Scalar (Option Decimal)
  | code (κ : Type) [Vocabulary κ] : Scalar (Option (Code κ))
  | number {κ : Type} [Numbered κ] (other : κ) : Scalar κ
  | tickType : Scalar TickType
  | skip : Scalar Unit

/-- The reader of a single field. -/
def Scalar.reader {α : Type} : Scalar α → FieldReader α
  | .text => .text
  | .unescaped => .unescaped
  | .int => .int
  | .optionalInt => .optionalInt
  | .long => .long
  | .optionalLong => .optionalLong
  | .count => .count
  | .double => .double
  | .optionalDouble => .optionalDouble
  | .bool => .bool
  | .decimal => .decimal
  | @code κ _ => (FieldReader.code : FieldReader (Option (Code κ)))
  | @number _ _ other => .number other
  | .tickType => .tickType
  | .skip => .skip

theorem Scalar.isScalar {α : Type} (s : Scalar α) : s.reader.IsScalar := by
  cases s with
  | text => exact .total id
  | unescaped => exact .total _
  | int => exact .int
  | optionalInt => exact .optionalInt
  | long => exact .long
  | optionalLong => exact .optionalLong
  | count => exact .count
  | double => exact .double
  | optionalDouble => exact .optionalDouble
  | bool => exact .total _
  | decimal => exact .decimal
  | code => exact .total _
  | number other => exact .number other
  | tickType => exact .number _
  | skip => exact .total _

/-- Reads, with lists and items nested in any way. -/
inductive Read : Type → Type 1 where
  | scalar {α : Type} (s : Scalar α) : Read α
  | skips (n : Nat) : Read Unit
  | list {α : Type} (count : Nat) (item : Read α) : Read (List α)
  | counted {α : Type} (item : Read α) : Read (List α)
  | answer {α : Type} (value : α) : Read α
  | andThen {α β : Type} (first : Read α) (next : α → Read β) : Read β

/-- The reader that a read stands for. -/
def Read.reader {α : Type} : Read α → FieldReader α
  | .scalar s => s.reader
  | .skips n => .skips n
  | .list count item => .list count item.reader
  | .counted item => .counted item.reader
  | .answer value => .done value
  | .andThen first next => first.reader.bind fun value => (next value).reader

theorem Read.onlyRefuses {α : Type} (r : Read α) : r.reader.OnlyRefuses := by
  induction r with
  | scalar s => exact s.isScalar.onlyRefuses
  | skips n => exact .skips n
  | list count item ih => exact .list ih count
  | counted item ih => exact FieldReader.IsScalar.count.onlyRefuses.bind fun n => .list ih n
  | answer value => trivial
  | andThen first next ihfirst ihnext => exact ihfirst.bind ihnext

/-- A payload, and how many of its octets have been taken. -/
structure Cursor where
  payload : Bytes
  position : Nat := 0
  deriving DecidableEq

namespace Cursor

def unread (c : Cursor) : Bytes :=
  c.payload.drop c.position

def hasRemaining (c : Cursor) : Bool :=
  c.position < c.payload.length

/-- Reads on from where the cursor is, and leaves it where the reader stopped. -/
def read {α : Type} (c : Cursor) (r : FieldReader α) : Except FieldFault α × Cursor :=
  let (outcome, unread) := r.run c.unread
  (outcome, { c with position := c.payload.length - unread.length })

/-- Whether a field stands at the cursor: a text with its end. -/
def HasField (c : Cursor) (text : String) : Prop :=
  IsTerminable text ∧ fieldOctets text <+: c.unread

/-- The cursor behind a field. -/
def behind (c : Cursor) (text : String) : Cursor :=
  { c with position := c.position + (fieldOctets text).length }

variable {α : Type} {c : Cursor}

theorem unread_read (c : Cursor) (r : FieldReader α) :
    (c.read r).2.unread = (r.run c.unread).2 := by
  have hsuffix := (r.run_isSuffix c.unread).trans (List.drop_suffix c.position c.payload)
  exact (List.suffix_iff_eq_drop.mp hsuffix).symm

theorem position_read_le (c : Cursor) (r : FieldReader α) :
    (c.read r).2.position ≤ (c.read r).2.payload.length :=
  Nat.sub_le _ _

theorem not_hasField {fault : FieldFault} (h : FieldReader.nextField c.unread = .error fault)
    (text : String) : ¬ c.HasField text := by
  rintro ⟨hterminable, rest, hrest⟩
  rw [FieldReader.nextField_iff.mpr ⟨hterminable, hrest.symm⟩] at h
  cases h

/-- Where there is no field, every read of one fails alike and moves nothing. -/
theorem read_of_error (hle : c.position ≤ c.payload.length) {fault : FieldFault}
    (h : FieldReader.nextField c.unread = .error fault) (s : Scalar α) :
    c.read s.reader = (.error fault, c) := by
  obtain ⟨parse, hparse, -⟩ := s.isScalar
  have hrun : s.reader.run c.unread = (.error fault, c.unread) := by
    rw [hparse, FieldReader.parsed, FieldReader.run, h]
  have hposition : c.payload.length - c.unread.length = c.position := by
    rw [unread, List.length_drop]
    omega
  rw [read, hrun]
  dsimp only
  rw [hposition]

/-- Where there is a field, every read of one takes it, also one that refuses its text. -/
theorem read_of_field {text : String} {rest : Bytes} (hle : c.position ≤ c.payload.length)
    (h : FieldReader.nextField c.unread = .ok (text, rest)) (s : Scalar α) :
    (c.read s.reader).2 = c.behind text ∧
      ∀ fault, (c.read s.reader).1 = .error fault → ¬ fault.IsStructural := by
  obtain ⟨parse, hparse, hrefuses⟩ := s.isScalar
  have hrun : s.reader.run c.unread = (parse text, rest) := by
    rw [hparse, FieldReader.parsed, FieldReader.run, h]
    dsimp only
    cases parse text <;> rfl
  have hlength := congrArg List.length (FieldReader.nextField_iff.mp h).2
  rw [unread, List.length_drop, List.length_append] at hlength
  have hposition : c.payload.length - rest.length = c.position + (fieldOctets text).length := by
    omega
  rw [read, hrun]
  dsimp only
  rw [hposition]
  exact ⟨rfl, hrefuses text⟩

end Cursor

/-- The cursors that reads lead to, one behind the other whether they succeed or not, and the texts
of the fields that were taken. -/
inductive Visits (payload : Bytes) : Cursor → List String → Prop where
  | start : Visits payload ⟨payload, 0⟩ []
  | read {c : Cursor} {fields : List String} (h : Visits payload c fields) {α : Type} (r : Read α) :
    Visits payload (c.read r.reader).2 (fields ++ r.reader.taken c.unread)

/-- Where a cursor stands: behind the fields that were taken, with the rest of the payload ahead. -/
structure Cursor.Stands (c : Cursor) (payload : Bytes) (fields : List String) : Prop where
  payload_eq : c.payload = payload
  position_le : c.position ≤ payload.length
  split : fields.flatMap fieldOctets ++ c.unread = payload
  terminable : ∀ text ∈ fields, IsTerminable text

namespace Cursor.Stands

variable {c : Cursor} {payload : Bytes} {fields : List String}

/-- One read keeps the cursor between fields, whatever it reads and whether it succeeds or not. -/
theorem read (h : c.Stands payload fields) {α : Type} (r : FieldReader α) :
    (c.read r).2.Stands payload (fields ++ r.taken c.unread) := by
  obtain ⟨htaken, hterminable⟩ := r.taken_append_unread c.unread
  refine ⟨h.payload_eq, h.payload_eq ▸ c.position_read_le r, ?_, ?_⟩
  · rw [List.flatMap_append, List.append_assoc, c.unread_read, htaken]
    exact h.split
  · intro text hm
    obtain hm | hm := List.mem_append.mp hm
    · exact h.terminable text hm
    · exact hterminable text hm

theorem take_eq (h : c.Stands payload fields) :
    payload.take c.position = fields.flatMap fieldOctets := by
  have hsplit := h.split
  rw [unread, h.payload_eq] at hsplit
  exact (List.append_cancel_right (hsplit.trans (List.take_append_drop c.position payload).symm)).symm

/-- The octet in front of the cursor is the end of a field, if there is one. -/
theorem boundary (h : c.Stands payload fields) :
    c.position = 0 ∨ payload[c.position - 1]? = some 0 := by
  have hlength := congrArg List.length h.take_eq
  rw [List.length_take_of_le h.position_le] at hlength
  obtain rfl | ⟨init, last, rfl⟩ := fields.eq_nil_or_concat'
  · exact .inl hlength
  · have hend : (init ++ [last]).flatMap fieldOctets =
        (init.flatMap fieldOctets ++ Utf8.encode last.toList) ++ [0] := by
      simp [fieldOctets]
    rw [hend, List.length_append, List.length_singleton] at hlength
    refine .inr ?_
    have hsplit := h.split
    rw [hend, List.append_assoc] at hsplit
    rw [← hsplit, hlength, Nat.add_sub_cancel, List.getElem?_append_right (Nat.le_refl _),
      Nat.sub_self]
    rfl

/-- The fields that were taken are the first pieces of the payload. -/
theorem pieces_eq (h : c.Stands payload fields) :
    pieces payload = fields.map (fun text => Utf8.encode text.toList) ++ pieces c.unread := by
  obtain ⟨-, -, hsplit, hterminable⟩ := h
  rw [← hsplit]
  clear hsplit
  generalize c.unread = rest
  induction fields with
  | nil => rfl
  | cons text fields ih =>
    obtain ⟨htext, hfields⟩ := List.forall_mem_cons.mp hterminable
    rw [List.flatMap_cons, List.append_assoc, pieces, Message.splitOn_fieldOctets,
      Message.parts_of_isTerminable htext, List.map_singleton, List.singleton_append,
      List.dropLast_cons_of_ne_nil (List.splitOn_ne_nil 0 _)]
    rw [List.map_cons, List.cons_append, ← ih hfields, pieces]

end Cursor.Stands

namespace Visits

variable {payload : Bytes} {c : Cursor} {fields : List String}

/-- However many reads were made, the cursor is between fields. -/
theorem stands (h : Visits payload c fields) : c.Stands payload fields := by
  induction h with
  | start => exact ⟨rfl, Nat.zero_le _, rfl, nofun⟩
  | read h r ih => exact ih.read r.reader

/-- Reads go through the pieces of a payload in order. The cursor is at the front or behind a zero
octet; a read that fails for want of a field leaves it where every further one fails alike; a read
of one field takes it whole, also when its text is refused; and nothing is ahead only at the end. -/
theorem cursor_law (h : Visits payload c fields) :
    (c.position ≤ payload.length ∧ (c.position = 0 ∨ payload[c.position - 1]? = some 0)) ∧
    (payload.take c.position = fields.flatMap fieldOctets ∧
      ∀ (k : Nat) (text : String), fields[k]? = some text →
        (pieces payload)[k]? = some (Utf8.encode text.toList)) ∧
    (c.hasRemaining = false ↔ c.position = payload.length) ∧
    (∀ (α : Type) (r : Read α) (fault : FieldFault), (c.read r.reader).1 = .error fault →
      fault.IsStructural →
        (∀ text, ¬ (c.read r.reader).2.HasField text) ∧
        ∀ (β : Type) (s : Scalar β),
          (c.read r.reader).2.read s.reader = (.error fault, (c.read r.reader).2)) ∧
    ∀ (α : Type) (s : Scalar α),
      (∃ fault, fault.IsStructural ∧ (∀ text, ¬ c.HasField text) ∧
        c.read s.reader = (.error fault, c)) ∨
      (∃ text, c.HasField text ∧ (c.read s.reader).2 = c.behind text ∧
        ∀ fault, (c.read s.reader).1 = .error fault → ¬ fault.IsStructural) := by
  have hstands := h.stands
  have hle := hstands.position_le
  refine ⟨⟨hle, hstands.boundary⟩, ⟨hstands.take_eq, ?_⟩, ?_, ?_, ?_⟩
  · intro k text hk
    obtain ⟨hlt, -⟩ := List.getElem?_eq_some_iff.mp hk
    rw [hstands.pieces_eq, List.getElem?_append_left (by rwa [List.length_map]),
      List.getElem?_map, hk]
    rfl
  · rw [Cursor.hasRemaining, hstands.payload_eq, decide_eq_false_iff_not]
    omega
  · intro α r fault hfault hstructural
    have hnext := FieldReader.nextField_of_run_error r.onlyRefuses hfault hstructural
    rw [← c.unread_read] at hnext
    exact ⟨Cursor.not_hasField hnext,
      fun β s => Cursor.read_of_error (c.position_read_le r.reader) hnext s⟩
  · intro α s
    rw [← hstands.payload_eq] at hle
    cases hnext : FieldReader.nextField c.unread with
    | error fault =>
      exact .inl ⟨fault, FieldReader.nextField_error hnext, Cursor.not_hasField hnext,
        Cursor.read_of_error hle hnext s⟩
    | ok step =>
      obtain ⟨text, rest⟩ := step
      obtain ⟨hterminable, hrest⟩ := FieldReader.nextField_iff.mp hnext
      exact .inr ⟨text, ⟨hterminable, rest, hrest.symm⟩, Cursor.read_of_field hle hnext s⟩

/-- A number, a text that is none, which is taken all the same, and an open field, which stays. -/
theorem cursor_law_open :
    let start : Cursor := { payload := [55, 0, 120, 0, 65] }
    let behind : Cursor := { start with position := 4 }
    Visits start.payload behind ["7", "x"] ∧
      start.payload.take 4 = ["7", "x"].flatMap fieldOctets ∧
      (behind.read Scalar.text.reader).1 = .error .unterminated ∧
      behind.read Scalar.int.reader = (.error .unterminated, behind) := by
  intro start behind
  have hvisits : Visits start.payload behind ["7", "x"] :=
    .read .start (.list 2 (.scalar .int))
  have hlaw := hvisits.cursor_law
  have hopen : (behind.read Scalar.text.reader).1 = .error .unterminated := by decide
  have hstays : (behind.read Scalar.text.reader).2 = behind := by decide
  have hfurther := (hlaw.2.2.2.1 _ (.scalar .text) _ hopen trivial).2 _ .int
  rw [Read.reader, hstays] at hfurther
  exact ⟨hvisits, hlaw.2.1.1, hopen, hfurther⟩

end Visits

end BrokerWire
