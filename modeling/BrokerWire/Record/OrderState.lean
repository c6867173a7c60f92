import BrokerWire.Record.Common

namespace BrokerWire

structure OrderProgress where
  orderId : Int32 := 0
  status : String := ""
  filled : Option Decimal := none
  remaining : Option Decimal := none
  avgFillPrice : Double := .zero
  permId : Int64 := 0
  parentId : Int32 := 0
  lastFillPrice : Double := .zero
  clientId : Int32 := 0
  whyHeld : String := ""
  mktCapPrice : Double := .zero
  deriving DecidableEq

/-- The share of one account in an order. -/
structure OrderAllocation where
  account : String := ""
  position : Option Decimal := none
  positionDesired : Option Decimal := none
  positionAfter : Option Decimal := none
  desiredAllocQty : Option Decimal := none
  allowedAllocQty : Option Decimal := none
  isMonetary : Bool := false
  deriving DecidableEq

/-- The state of an order: margins, commissions and allocations. -/
structure OrderState where
  status : String := ""
  initMarginBefore : String := ""
  maintMarginBefore : String := ""
  equityWithLoanBefore : String := ""
  initMarginChange : String := ""
  maintMarginChange : String := ""
  equityWithLoanChange : String := ""
  initMarginAfter : String := ""
  maintMarginAfter : String := ""
  equityWithLoanAfter : String := ""
  commissionAndFees : Option Double := none
  minCommissionAndFees : Option Double := none
  maxCommissionAndFees : Option Double := none
  commissionAndFeesCurrency : String := ""
  marginCurrency : String := ""
  outsideRthMargins : List (Option Double) := []
  suggestedSize : Option Decimal := none
  rejectReason : String := ""
  orderAllocations : List OrderAllocation := []
  warningText : String := ""
  completedTime : String := ""
  completedStatus : String := ""
  deriving DecidableEq

structure OrderCancel where
  manualOrderCancelTime : String := ""
  extOperator : String := ""
  manualOrderIndicator : Option Int32 := none
  deriving DecidableEq

end BrokerWire
