import BrokerWire.Wire.Fault

/-!
Readers of message fields. A payload is a run of texts that each end with a zero octet; nothing in
it says what a field means, so a reader decides field by field what it wants next. A reader is a
tree of such decisions, and running it over a payload answers with the octets it left unread.
-/

namespace BrokerWire

/-- A reading plan: an answer, a fault, or a field whose text decides what comes next. -/
inductive FieldReader (α : Type) where
  | done (value : α)
  | fail (fault : FieldFault)
  | field (next : String → FieldReader α)

namespace FieldReader

variable {α β γ : Type}

def bind : FieldReader α → (α → FieldReader β) → FieldReader β
  | .done value, f => f value
  | .fail fault, _ => .fail fault
  | .field next, f => .field fun text => (next text).bind f

instance : Monad FieldReader where
  pure := .done
  bind := bind

def nextField (payload : Bytes) : Except FieldFault (String × Bytes) :=
  match payload with
  | [] => .error .endOfMessage
  | payload =>
    match payload.span (· != 0) with
    | (_, []) => .error .unterminated
    | (octets, _ :: rest) =>
      match Utf8.decode octets with
      | .ok text => .ok (String.ofList text, rest)
      | .error fault => .error (.notUtf8 fault)

/-- Runs a reader over a payload. A field that cannot be taken stays unread; a field whose text is
refused has been read. -/
def run : FieldReader α → Bytes → Except FieldFault α × Bytes
  | .done value, payload => (.ok value, payload)
  | .fail fault, payload => (.error fault, payload)
  | .field next, payload =>
    match nextField payload with
    | .ok (text, rest) => (next text).run rest
    | .error fault => (.error fault, payload)

@[simp] theorem pure_bind_eq (value : α) (f : α → FieldReader β) :
    (FieldReader.done value).bind f = f value := rfl

@[simp] theorem bind_done (r : FieldReader α) : r.bind .done = r := by
  induction r with
  | done value => rfl
  | fail fault => rfl
  | field next ih => simp [bind, ih]

theorem bind_bind (r : FieldReader α) (f : α → FieldReader β) (g : β → FieldReader γ) :
    (r.bind f).bind g = r.bind fun value => (f value).bind g := by
  induction r with
  | done value => rfl
  | fail fault => rfl
  | field next ih => simp [bind, ih]

instance : LawfulMonad FieldReader :=
  LawfulMonad.mk' FieldReader bind_done (fun _ _ => rfl) bind_bind

/-- Running one reader after the other hands the second what the first left unread. -/
theorem run_bind (r : FieldReader α) (f : α → FieldReader β) (payload : Bytes) :
    (r.bind f).run payload =
      match r.run payload with
      | (.ok value, rest) => (f value).run rest
      | (.error fault, rest) => (.error fault, rest) := by
  induction r generalizing payload with
  | done value => rfl
  | fail fault => rfl
  | field next ih =>
    simp only [bind, run]
    cases nextField payload with
    | ok step => exact ih step.1 step.2
    | error fault => rfl

def text : FieldReader String :=
  .field .done

def ofExcept : Except FieldFault α → FieldReader α
  | .ok value => .done value
  | .error fault => .fail fault

def parsed (parse : String → Except FieldFault α) : FieldReader α :=
  .field fun text => ofExcept (parse text)

def skip : FieldReader Unit :=
  .field fun _ => .done ()

def skips : (n : Nat) → FieldReader Unit
  | 0 => .done ()
  | n + 1 => .field fun _ => skips n

/-- Reads what a condition on the message asks for, and answers `other` without reading if it does
not hold. -/
def whenever (condition : Bool) (reader : FieldReader α) (other : α) : FieldReader α :=
  if condition then reader else .done other

/-- Reads `count` items behind those before them, which are held last first. -/
def listFrom (item : FieldReader α) : (before : List α) → (count : Nat) → FieldReader (List α)
  | before, 0 => .done before.reverse
  | before, count + 1 => item.bind fun value => listFrom item (value :: before) count

def list (count : Nat) (item : FieldReader α) : FieldReader (List α) :=
  listFrom item [] count

end FieldReader

end BrokerWire
