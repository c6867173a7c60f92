import BrokerWire.Json.Text

namespace BrokerWire

/-- Whether a floating point value is a number. -/
def Double.IsFinite : Double → Prop
  | .finite _ _ => True
  | .infinity _ => False
  | .nan => False

namespace Json

mutual

/-- Whether all floating point values in a value are numbers. -/
def IsFinite : Json → Prop
  | .double d => d.IsFinite
  | .array items => ItemsFinite items
  | .object members => MembersFinite members
  | .null | .bool _ | .integer _ | .string _ => True

def ItemsFinite : List Json → Prop
  | [] => True
  | item :: rest => item.IsFinite ∧ ItemsFinite rest

def MembersFinite : List (String × Json) → Prop
  | [] => True
  | (_, value) :: rest => value.IsFinite ∧ MembersFinite rest

end

mutual

/-- The value that is written in place of a value. -/
def written : Json → Json
  | .null => .null
  | .bool value => .bool value
  | .integer n => .integer n
  | .double (.finite negative rank) => .double (.finite negative rank)
  | .double (.infinity _) => .null
  | .double .nan => .null
  | .string text => .string text
  | .array items => .array (writtenItems items)
  | .object members => .object (writtenMembers members)

def writtenItems : List Json → List Json
  | [] => []
  | item :: rest => item.written :: writtenItems rest

def writtenMembers : List (String × Json) → List (String × Json)
  | [] => []
  | (name, value) :: rest => (name, value.written) :: writtenMembers rest

end

mutual

/-- A value and what is written in its place have one text. -/
theorem render_written : ∀ json : Json,
    render Double.jsonText json.written = render Double.jsonText json
  | .null | .bool _ | .integer _ | .string _ => by simp only [written]
  | .double (.finite _ _) => by simp only [written]
  | .double (.infinity _) | .double .nan => rfl
  | .array items => by simp only [written, render, renderItems_written items]
  | .object members => by simp only [written, render, renderMembers_written members]

theorem renderItems_written : ∀ items : List Json,
    renderItems Double.jsonText (writtenItems items) = renderItems Double.jsonText items
  | [] => rfl
  | item :: rest => by
    simp only [writtenItems, renderItems, render_written item, renderItems_written rest]

theorem renderMembers_written : ∀ members : List (String × Json),
    renderMembers Double.jsonText (writtenMembers members) = renderMembers Double.jsonText members
  | [] => rfl
  | (_, value) :: rest => by
    simp only [writtenMembers, renderMembers, render_written value, renderMembers_written rest]

end

mutual

/-- Where all floating point values are numbers, a value is written as it is. -/
theorem written_of_isFinite : ∀ {json : Json}, json.IsFinite → json.written = json
  | .null, _ | .bool _, _ | .integer _, _ | .string _, _ => by simp only [written]
  | .double (.finite _ _), _ => by simp only [written]
  | .double (.infinity _), h | .double .nan, h => absurd h id
  | .array _, h => by rw [written, writtenItems_of_itemsFinite h]
  | .object _, h => by rw [written, writtenMembers_of_membersFinite h]

theorem writtenItems_of_itemsFinite : ∀ {items : List Json}, ItemsFinite items →
    writtenItems items = items
  | [], _ => rfl
  | item :: rest, h => by
    rw [writtenItems, written_of_isFinite h.1, writtenItems_of_itemsFinite h.2]

theorem writtenMembers_of_membersFinite : ∀ {members : List (String × Json)},
    MembersFinite members → writtenMembers members = members
  | [], _ => rfl
  | (_, value) :: rest, h => by
    rw [writtenMembers, written_of_isFinite h.1, writtenMembers_of_membersFinite h.2]

end

end Json

end BrokerWire
