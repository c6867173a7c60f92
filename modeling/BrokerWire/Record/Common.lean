import BrokerWire.Number.Double.Text
import BrokerWire.Number.Decimal.Basic

namespace BrokerWire

/-- A named parameter, as algorithms and misc options take them. -/
structure TagValue where
  tag : String := ""
  value : String := ""
  deriving DecidableEq

structure SoftDollarTier where
  name : String := ""
  value : String := ""
  displayName : String := ""
  deriving DecidableEq

/-- An account and the family it belongs to. -/
structure FamilyCode where
  accountId : String := ""
  familyCode : String := ""
  deriving DecidableEq

structure NewsProvider where
  code : String := ""
  name : String := ""
  deriving DecidableEq

/-- How much traded at a price. -/
structure HistogramEntry where
  price : Double := .zero
  size : Option Decimal := none
  deriving DecidableEq

/-- The price step in force from an edge upward. -/
structure PriceIncrement where
  lowEdge : Double := .zero
  increment : Double := .zero
  deriving DecidableEq

structure IneligibilityReason where
  id : String := ""
  description : String := ""
  deriving DecidableEq

/-- One exchange behind a combined best bid and offer. -/
structure SmartComponent where
  bitNumber : Int32 := 0
  exchange : String := ""
  exchangeLetter : String := ""
  deriving DecidableEq

structure DepthMarket where
  exchange : String := ""
  secType : String := ""
  listingExch : String := ""
  serviceDataType : String := ""
  aggGroup : Option Int32 := none
  deriving DecidableEq

end BrokerWire
