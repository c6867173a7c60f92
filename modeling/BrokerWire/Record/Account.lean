import BrokerWire.Record.Contract

namespace BrokerWire

/-- A row of an account portfolio. -/
structure PortfolioItem where
  contract : Contract := {}
  position : Option Decimal := none
  marketPrice : Double := .zero
  marketValue : Double := .zero
  averageCost : Double := .zero
  unrealizedPnl : Double := .zero
  realizedPnl : Double := .zero
  accountName : String := ""
  deriving DecidableEq

structure Position where
  account : String := ""
  contract : Contract := {}
  position : Option Decimal := none
  avgCost : Double := .zero
  deriving DecidableEq

end BrokerWire
