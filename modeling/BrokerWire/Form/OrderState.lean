import BrokerWire.Form.Common
import BrokerWire.Record.OrderState

namespace BrokerWire

def OrderProgress.members : List (Member OrderProgress) :=
  [
    .of "orderId" (·.orderId) fun v r => { r with orderId := v },
    .of "status" (·.status) fun v r => { r with status := v },
    .opt "filled" (·.filled) fun v r => { r with filled := v },
    .opt "remaining" (·.remaining) fun v r => { r with remaining := v },
    .of "avgFillPrice" (·.avgFillPrice) fun v r => { r with avgFillPrice := v },
    .of "permId" (·.permId) fun v r => { r with permId := v },
    .of "parentId" (·.parentId) fun v r => { r with parentId := v },
    .of "lastFillPrice" (·.lastFillPrice) fun v r => { r with lastFillPrice := v },
    .of "clientId" (·.clientId) fun v r => { r with clientId := v },
    .of "whyHeld" (·.whyHeld) fun v r => { r with whyHeld := v },
    .of "mktCapPrice" (·.mktCapPrice) fun v r => { r with mktCapPrice := v }
  ]

instance : JsonForm OrderProgress := Member.form OrderProgress.members {}

def OrderAllocation.members : List (Member OrderAllocation) :=
  [
    .of "account" (·.account) fun v r => { r with account := v },
    .opt "position" (·.position) fun v r => { r with position := v },
    .opt "positionDesired" (·.positionDesired) fun v r => { r with positionDesired := v },
    .opt "positionAfter" (·.positionAfter) fun v r => { r with positionAfter := v },
    .opt "desiredAllocQty" (·.desiredAllocQty) fun v r => { r with desiredAllocQty := v },
    .opt "allowedAllocQty" (·.allowedAllocQty) fun v r => { r with allowedAllocQty := v },
    .of "isMonetary" (·.isMonetary) fun v r => { r with isMonetary := v }
  ]

instance : JsonForm OrderAllocation := Member.form OrderAllocation.members {}

def OrderState.members : List (Member OrderState) :=
  [
    .of "status" (·.status) fun v r => { r with status := v },
    .of "initMarginBefore" (·.initMarginBefore) fun v r => { r with initMarginBefore := v },
    .of "maintMarginBefore" (·.maintMarginBefore) fun v r => { r with maintMarginBefore := v },
    .of "equityWithLoanBefore" (·.equityWithLoanBefore) fun v r =>
      { r with equityWithLoanBefore := v },
    .of "initMarginChange" (·.initMarginChange) fun v r => { r with initMarginChange := v },
    .of "maintMarginChange" (·.maintMarginChange) fun v r => { r with maintMarginChange := v },
    .of "equityWithLoanChange" (·.equityWithLoanChange) fun v r =>
      { r with equityWithLoanChange := v },
    .of "initMarginAfter" (·.initMarginAfter) fun v r => { r with initMarginAfter := v },
    .of "maintMarginAfter" (·.maintMarginAfter) fun v r => { r with maintMarginAfter := v },
    .of "equityWithLoanAfter" (·.equityWithLoanAfter) fun v r =>
      { r with equityWithLoanAfter := v },
    .opt "commissionAndFees" (·.commissionAndFees) fun v r => { r with commissionAndFees := v },
    .opt "minCommissionAndFees" (·.minCommissionAndFees) fun v r =>
      { r with minCommissionAndFees := v },
    .opt "maxCommissionAndFees" (·.maxCommissionAndFees) fun v r =>
      { r with maxCommissionAndFees := v },
    .of "commissionAndFeesCurrency" (·.commissionAndFeesCurrency) fun v r =>
      { r with commissionAndFeesCurrency := v },
    .of "marginCurrency" (·.marginCurrency) fun v r => { r with marginCurrency := v },
    .items "outsideRthMargins" (·.outsideRthMargins) fun v r => { r with outsideRthMargins := v },
    .opt "suggestedSize" (·.suggestedSize) fun v r => { r with suggestedSize := v },
    .of "rejectReason" (·.rejectReason) fun v r => { r with rejectReason := v },
    .items "orderAllocations" (·.orderAllocations) fun v r => { r with orderAllocations := v },
    .of "warningText" (·.warningText) fun v r => { r with warningText := v },
    .of "completedTime" (·.completedTime) fun v r => { r with completedTime := v },
    .of "completedStatus" (·.completedStatus) fun v r => { r with completedStatus := v }
  ]

instance : JsonForm OrderState := Member.form OrderState.members {}

def OrderCancel.members : List (Member OrderCancel) :=
  [
    .of "manualOrderCancelTime" (·.manualOrderCancelTime) fun v r =>
      { r with manualOrderCancelTime := v },
    .of "extOperator" (·.extOperator) fun v r => { r with extOperator := v },
    .opt "manualOrderIndicator" (·.manualOrderIndicator) fun v r =>
      { r with manualOrderIndicator := v }
  ]

instance : JsonForm OrderCancel := Member.form OrderCancel.members {}

end BrokerWire
