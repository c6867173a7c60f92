import BrokerWire.Form.Common
import BrokerWire.Record.Execution

namespace BrokerWire

def Execution.members : List (Member Execution) :=
  [
    .of "orderId" (·.orderId) fun v r => { r with orderId := v },
    .of "execId" (·.execId) fun v r => { r with execId := v },
    .of "time" (·.time) fun v r => { r with time := v },
    .of "acctNumber" (·.acctNumber) fun v r => { r with acctNumber := v },
    .of "exchange" (·.exchange) fun v r => { r with exchange := v },
    .of "side" (·.side) fun v r => { r with side := v },
    .opt "shares" (·.shares) fun v r => { r with shares := v },
    .of "price" (·.price) fun v r => { r with price := v },
    .of "permId" (·.permId) fun v r => { r with permId := v },
    .of "clientId" (·.clientId) fun v r => { r with clientId := v },
    .of "liquidation" (·.liquidation) fun v r => { r with liquidation := v },
    .opt "cumQty" (·.cumQty) fun v r => { r with cumQty := v },
    .of "avgPrice" (·.avgPrice) fun v r => { r with avgPrice := v },
    .of "orderRef" (·.orderRef) fun v r => { r with orderRef := v },
    .of "evRule" (·.evRule) fun v r => { r with evRule := v },
    .of "evMultiplier" (·.evMultiplier) fun v r => { r with evMultiplier := v },
    .of "modelCode" (·.modelCode) fun v r => { r with modelCode := v },
    .of "lastLiquidity" (·.lastLiquidity) fun v r => { r with lastLiquidity := v },
    .of "pendingPriceRevision" (·.pendingPriceRevision) fun v r =>
      { r with pendingPriceRevision := v },
    .of "submitter" (·.submitter) fun v r => { r with submitter := v }
  ]

instance : JsonForm Execution := Member.form Execution.members {}

def ExecutionFilter.members : List (Member ExecutionFilter) :=
  [
    .of "clientId" (·.clientId) fun v r => { r with clientId := v },
    .of "acctCode" (·.acctCode) fun v r => { r with acctCode := v },
    .of "time" (·.time) fun v r => { r with time := v },
    .of "symbol" (·.symbol) fun v r => { r with symbol := v },
    .of "secType" (·.secType) fun v r => { r with secType := v },
    .of "exchange" (·.exchange) fun v r => { r with exchange := v },
    .of "side" (·.side) fun v r => { r with side := v },
    .opt "lastNDays" (·.lastNDays) fun v r => { r with lastNDays := v },
    .items "specificDates" (·.specificDates) fun v r => { r with specificDates := v }
  ]

instance : JsonForm ExecutionFilter := Member.form ExecutionFilter.members {}

def CommissionReport.members : List (Member CommissionReport) :=
  [
    .of "execId" (·.execId) fun v r => { r with execId := v },
    .of "commissionAndFees" (·.commissionAndFees) fun v r => { r with commissionAndFees := v },
    .of "currency" (·.currency) fun v r => { r with currency := v },
    .opt "realizedPnl" (·.realizedPnl) fun v r => { r with realizedPnl := v },
    .opt "yieldAmount" (·.yieldAmount) fun v r => { r with yieldAmount := v },
    .of "yieldRedemptionDate" (·.yieldRedemptionDate) fun v r =>
      { r with yieldRedemptionDate := v }
  ]

instance : JsonForm CommissionReport := Member.form CommissionReport.members {}

end BrokerWire
