import BrokerWire.Code.Numbers
import BrokerWire.Number.Double.Text

namespace BrokerWire

/-- How a condition is joined with the next one. -/
inductive Conjunction where
  | and
  | or
  deriving DecidableEq

namespace Conjunction

def letter : Conjunction → String
  | .and => "a"
  | .or => "o"

/-- The conjunction of a letter; every text but one means alternatives. -/
def ofLetter (text : String) : Conjunction :=
  if text = "a" then .and else .or

end Conjunction

/-- A threshold and the side of it that fulfils a condition. The threshold stays a text, since its
meaning depends on the kind of condition. -/
structure Comparison where
  isMore : Bool := false
  value : String := ""
  deriving DecidableEq

structure ContractScope where
  conId : Int32 := 0
  exchange : String := ""
  deriving DecidableEq

/-- What a condition watches. -/
inductive ConditionKind where
  | price (comparison : Comparison) (scope : ContractScope) (triggerMethod : TriggerMethod)
  | time (comparison : Comparison)
  | margin (comparison : Comparison)
  | execution (secType exchange symbol : String)
  | volume (comparison : Comparison) (scope : ContractScope)
  | percentChange (comparison : Comparison) (scope : ContractScope)
  deriving DecidableEq

namespace ConditionKind

def type : ConditionKind → ConditionType
  | .price .. => .price
  | .time .. => .time
  | .margin .. => .margin
  | .execution .. => .execution
  | .volume .. => .volume
  | .percentChange .. => .percentChange

def comparison? : ConditionKind → Option Comparison
  | .price comparison _ _ => some comparison
  | .time comparison => some comparison
  | .margin comparison => some comparison
  | .execution .. => none
  | .volume comparison _ => some comparison
  | .percentChange comparison _ => some comparison

def scope? : ConditionKind → Option ContractScope
  | .price _ scope _ => some scope
  | .volume _ scope => some scope
  | .percentChange _ scope => some scope
  | _ => none

end ConditionKind

/-- A condition and how it is joined with the next one. -/
structure OrderCondition where
  conjunction : Conjunction
  kind : ConditionKind
  deriving DecidableEq

namespace OrderCondition

def onPrice (isMore : Bool) (price : Double) (conId : Int32) (exchange : String)
    (triggerMethod : TriggerMethod) : OrderCondition :=
  ⟨.and, .price ⟨isMore, price.text⟩ ⟨conId, exchange⟩ triggerMethod⟩

def onTime (isMore : Bool) (time : String) : OrderCondition :=
  ⟨.and, .time ⟨isMore, time⟩⟩

def alternative (c : OrderCondition) : OrderCondition :=
  { c with conjunction := .or }

end OrderCondition

end BrokerWire
