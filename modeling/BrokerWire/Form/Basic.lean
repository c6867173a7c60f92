import BrokerWire.Json.Basic
import BrokerWire.Number.Decimal.Reader
import BrokerWire.Code.Vocabulary
import BrokerWire.Code.Numbered

namespace BrokerWire

/-- The JSON form of a type. -/
class JsonForm (α : Type) where
  toJson : α → Json
  ofJson? : Json → Option α

export JsonForm (toJson ofJson?)

instance : JsonForm Bool where
  toJson := .bool
  ofJson?
    | .bool value => some value
    | _ => none

instance : JsonForm String where
  toJson := .string
  ofJson?
    | .string value => some value
    | _ => none

def inRange? {α : Type} (least greatest : Int) (ofInt : Int → α) (n : Int) : Option α :=
  if least ≤ n ∧ n ≤ greatest then some (ofInt n) else none

instance : JsonForm Int32 where
  toJson n := .integer n.toInt
  ofJson?
    | .integer n => inRange? Int32.minValue.toInt Int32.maxValue.toInt Int32.ofInt n
    | _ => none

instance : JsonForm Int64 where
  toJson n := .integer n.toInt
  ofJson?
    | .integer n => inRange? Int64.minValue.toInt Int64.maxValue.toInt Int64.ofInt n
    | _ => none

instance : JsonForm Double where
  toJson := .double
  ofJson?
    | .integer n => some (Double.ofInt n)
    | .double d => some d
    | _ => none

/-- A decimal stands as its text, which keeps the scale. It may also be given as a number, and a
floating point number means what its plain text means. -/
instance : JsonForm Decimal where
  toJson d := .string d.text
  ofJson?
    | .string text => (Decimal.read text.toList).toOption
    | .integer n => Decimal.of? n 0
    | .double d => (Decimal.read d.text.toList).toOption
    | _ => none

instance {κ : Type} [Vocabulary κ] : JsonForm (Code κ) where
  toJson code := .string code.text
  ofJson?
    | .string text => some (Code.ofText text)
    | _ => none

/-- The name of a member of an enumeration, alone or as the only key of an object that holds
nothing. -/
def nameOfVariant? : Json → Option String
  | .string name => some name
  | .object [(name, .null)] => some name
  | _ => none

abbrev Numbered.form {κ : Type} [Numbered κ] : JsonForm κ where
  toJson member := .string (Numbered.name member)
  ofJson? json := (nameOfVariant? json).bind Numbered.ofName?

instance {α : Type} [JsonForm α] : JsonForm (Option α) where
  toJson
    | none => .null
    | some value => toJson value
  ofJson?
    | .null => some none
    | json => (ofJson? json).map some

def ofJsonItems? {α : Type} [JsonForm α] : List Json → Option (List α)
  | [] => some []
  | json :: rest => do
    let item ← ofJson? json
    let items ← ofJsonItems? rest
    pure (item :: items)

instance {α : Type} [JsonForm α] : JsonForm (List α) where
  toJson items := .array (items.map toJson)
  ofJson?
    | .array items => ofJsonItems? items
    | _ => none

/-- What it means that a record's member is missing: a fault, an unset value, or the value that the
blank record has. -/
inductive Absence where
  | fault
  | unset
  | kept
  deriving DecidableEq

/-- A member of the JSON object of a record: a part of the record, and the JSON form of that part. Some
values are left out. -/
structure Member (ρ : Type) where
  name : String
  Value : Type
  [valueForm : JsonForm Value]
  get : ρ → Value
  set : Value → ρ → ρ
  omits : Value → Bool
  absence : Absence
  set_get : ∀ r, set (get r) r = r

attribute [instance] Member.valueForm

namespace Member

variable {ρ α : Type}

def of [JsonForm α] (name : String) (get : ρ → α) (set : α → ρ → ρ)
    (set_get : ∀ r, set (get r) r = r := by exact fun _ => rfl) : Member ρ where
  name := name
  Value := α
  get := get
  set := set
  omits _ := false
  absence := .fault
  set_get := set_get

/-- A member that is unset when it is missing. -/
def opt [JsonForm α] (name : String) (get : ρ → Option α) (set : Option α → ρ → ρ)
    (set_get : ∀ r, set (get r) r = r := by exact fun _ => rfl) : Member ρ :=
  { of name get set set_get with absence := .unset }

/-- A list that is left out when it is empty. -/
def items [JsonForm α] (name : String) (get : ρ → List α) (set : List α → ρ → ρ)
    (set_get : ∀ r, set (get r) r = r := by exact fun _ => rfl) : Member ρ :=
  { of name get set set_get with
    omits := List.isEmpty
    absence := .kept }

/-- The same member, which may be missing. -/
def kept (m : Member ρ) : Member ρ :=
  { m with absence := .kept }

def write (m : Member ρ) (r : ρ) : Option Json :=
  if m.omits (m.get r) then none else some (toJson (m.get r))

def read (m : Member ρ) (json : Json) (r : ρ) : Option ρ :=
  (ofJson? json).map fun value => m.set value r

def readFrom (members : List (String × Json)) (r : ρ) (m : Member ρ) : Option ρ :=
  match Json.find? m.name members with
  | some json => m.read json r
  | none => if m.absence = .fault then none else some r

/-- Sets members from values in their order. Only members that are kept may be missing at the end,
and no value may be left. -/
def readInOrder : List (Member ρ) → List Json → ρ → Option ρ
  | [], [], r => some r
  | [], _ :: _, _ => none
  | m :: rest, [], r => if m.absence = .kept then readInOrder rest [] r else none
  | m :: rest, json :: values, r => (m.read json r).bind (readInOrder rest values)

def writeAll (members : List (Member ρ)) (r : ρ) : Json :=
  .object (members.filterMap fun m => (m.write r).map fun json => (m.name, json))

/-- Reads a record from an object by names, or from an array by order. Unknown names are ignored. -/
def readAll (members : List (Member ρ)) (blank : ρ) : Json → Option ρ
  | .object entries => members.foldlM (readFrom entries) blank
  | .array values => readInOrder members values blank
  | _ => none

abbrev form (members : List (Member ρ)) (blank : ρ) : JsonForm ρ where
  toJson := writeAll members
  ofJson? := readAll members blank

end Member

end BrokerWire
