import BrokerWire.Form.Basic
import BrokerWire.Record.Condition

namespace BrokerWire

def Conjunction.name : Conjunction → String
  | .and => "And"
  | .or => "Or"

instance : JsonForm Conjunction where
  toJson conjunction := .string conjunction.name
  ofJson? json :=
    match nameOfVariant? json with
    | some "And" => some .and
    | some "Or" => some .or
    | _ => none

/-- The name of a member of an enumeration below a tag, where the object whose only key it is may
also hold an empty object. -/
def nameBelowTag? : Json → Option String
  | .object [(name, .object [])] => some name
  | json => nameOfVariant? json

instance : JsonForm TriggerMethod where
  toJson method := .string (Numbered.name method)
  ofJson? json := (nameBelowTag? json).bind Numbered.ofName?

def Comparison.members : List (Member Comparison) :=
  [
    .of "isMore" (·.isMore) fun v r => { r with isMore := v },
    .of "value" (·.value) fun v r => { r with value := v }
  ]

instance : JsonForm Comparison := Member.form Comparison.members {}

def ContractScope.members : List (Member ContractScope) :=
  [
    .of "conId" (·.conId) fun v r => { r with conId := v },
    .of "exchange" (·.exchange) fun v r => { r with exchange := v }
  ]

instance : JsonForm ContractScope := Member.form ContractScope.members {}

namespace ConditionKind

/-- The name of a kind of condition. -/
def tag : ConditionType → String
  | .price => "price"
  | .time => "time"
  | .margin => "margin"
  | .execution => "execution"
  | .volume => "volume"
  | .percentChange => "percentChange"

/-- The members of the object of a condition, behind its tag. -/
def payload : ConditionKind → List (String × Json)
  | .price comparison scope triggerMethod =>
    [("comparison", toJson comparison), ("scope", toJson scope),
      ("trigger_method", toJson triggerMethod)]
  | .time comparison => [("comparison", toJson comparison)]
  | .margin comparison => [("comparison", toJson comparison)]
  | .execution secType exchange symbol =>
    [("sec_type", .string secType), ("exchange", .string exchange), ("symbol", .string symbol)]
  | .volume comparison scope => [("comparison", toJson comparison), ("scope", toJson scope)]
  | .percentChange comparison scope =>
    [("comparison", toJson comparison), ("scope", toJson scope)]

def memberNames : ConditionType → List String
  | .price => ["comparison", "scope", "trigger_method"]
  | .time => ["comparison"]
  | .margin => ["comparison"]
  | .execution => ["sec_type", "exchange", "symbol"]
  | .volume => ["comparison", "scope"]
  | .percentChange => ["comparison", "scope"]

def ofValues? : ConditionType → List Json → Option ConditionKind
  | .price, [comparison, scope, triggerMethod] => do
    pure (.price (← ofJson? comparison) (← ofJson? scope) (← ofJson? triggerMethod))
  | .time, [comparison] => do pure (.time (← ofJson? comparison))
  | .margin, [comparison] => do pure (.margin (← ofJson? comparison))
  | .execution, [secType, exchange, symbol] => do
    pure (.execution (← ofJson? secType) (← ofJson? exchange) (← ofJson? symbol))
  | .volume, [comparison, scope] => do
    pure (.volume (← ofJson? comparison) (← ofJson? scope))
  | .percentChange, [comparison, scope] => do
    pure (.percentChange (← ofJson? comparison) (← ofJson? scope))
  | _, _ => none

/-- The type that a tag stands for, in a member of its own or as the first item of an array: it
names the type, or counts the types before it. -/
def typeOfTag? : Json → Option ConditionType
  | .string text => (Numbered.members : List ConditionType).find? fun type => tag type = text
  | .integer n => if 0 ≤ n then (Numbered.members : List ConditionType)[n.toNat]? else none
  | _ => none

instance : JsonForm ConditionKind where
  toJson kind := .object (("kind", .string (tag kind.type)) :: kind.payload)
  ofJson?
    | .object members => do
      let type ← typeOfTag? (← Json.find? "kind" members)
      ofValues? type (← (memberNames type).mapM fun name => Json.find? name members)
    | .array (kind :: values) => do ofValues? (← typeOfTag? kind) values
    | _ => none

end ConditionKind

def OrderCondition.members : List (Member OrderCondition) :=
  [
    .of "conjunction" (·.conjunction) fun v r => { r with conjunction := v },
    .of "kind" (·.kind) fun v r => { r with kind := v }
  ]

instance : JsonForm OrderCondition :=
  Member.form OrderCondition.members ⟨.and, .time {}⟩

end BrokerWire
