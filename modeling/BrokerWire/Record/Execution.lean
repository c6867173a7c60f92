import BrokerWire.Record.Common

namespace BrokerWire

structure Execution where
  orderId : Int32 := 0
  execId : String := ""
  time : String := ""
  acctNumber : String := ""
  exchange : String := ""
  side : String := ""
  shares : Option Decimal := none
  price : Double := .zero
  permId : Int64 := 0
  clientId : Int32 := 0
  liquidation : Int32 := 0
  cumQty : Option Decimal := none
  avgPrice : Double := .zero
  orderRef : String := ""
  evRule : String := ""
  evMultiplier : Double := .zero
  modelCode : String := ""
  lastLiquidity : Int32 := 0
  pendingPriceRevision : Bool := false
  submitter : String := ""
  deriving DecidableEq

/-- Which fills are asked for; an empty text matches everything. -/
structure ExecutionFilter where
  clientId : Int32 := 0
  acctCode : String := ""
  time : String := ""
  symbol : String := ""
  secType : String := ""
  exchange : String := ""
  side : String := ""
  lastNDays : Option Int32 := none
  specificDates : List Int32 := []
  deriving DecidableEq

structure CommissionReport where
  execId : String := ""
  commissionAndFees : Double := .zero
  currency : String := ""
  realizedPnl : Option Double := none
  yieldAmount : Option Double := none
  yieldRedemptionDate : Int32 := 0
  deriving DecidableEq

end BrokerWire
