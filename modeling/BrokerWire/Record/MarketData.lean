import BrokerWire.Record.Common

namespace BrokerWire

structure PriceFlags where
  canAutoExecute : Bool := false
  pastLimit : Bool := false
  preOpen : Bool := false
  deriving DecidableEq

structure QuoteFlags where
  bidPastLow : Bool := false
  askPastHigh : Bool := false
  deriving DecidableEq

structure TradeFlags where
  pastLimit : Bool := false
  unreported : Bool := false
  deriving DecidableEq

/-- Model values of an option; what the gateway did not compute is unset. -/
structure OptionComputation where
  tickAttrib : Option Int32 := none
  impliedVol : Option Double := none
  delta : Option Double := none
  optPrice : Option Double := none
  pvDividend : Option Double := none
  gamma : Option Double := none
  vega : Option Double := none
  theta : Option Double := none
  undPrice : Option Double := none
  deriving DecidableEq

/-- An exchange for physical tick. -/
structure ExchangeForPhysical where
  basisPoints : Double := .zero
  formattedBasisPoints : String := ""
  impliedFuturesPrice : Double := .zero
  holdDays : Int32 := 0
  futureLastTradeDate : String := ""
  dividendImpact : Double := .zero
  dividendsToLastTradeDate : Double := .zero
  deriving DecidableEq

structure Bar where
  time : String := ""
  opening : Double := .zero
  high : Double := .zero
  low : Double := .zero
  closing : Double := .zero
  volume : Option Decimal := none
  wap : Option Decimal := none
  count : Int32 := 0
  deriving DecidableEq

/-- A bar of five seconds; its time counts seconds. -/
structure RealTimeBar where
  time : Int64 := 0
  opening : Double := .zero
  high : Double := .zero
  low : Double := .zero
  closing : Double := .zero
  volume : Option Decimal := none
  wap : Option Decimal := none
  count : Int32 := 0
  deriving DecidableEq

structure MidpointTick where
  time : Int64 := 0
  price : Double := .zero
  size : Option Decimal := none
  deriving DecidableEq

structure QuoteTick where
  time : Int64 := 0
  attrib : QuoteFlags := {}
  priceBid : Double := .zero
  priceAsk : Double := .zero
  sizeBid : Option Decimal := none
  sizeAsk : Option Decimal := none
  deriving DecidableEq

structure TradeTick where
  time : Int64 := 0
  attrib : TradeFlags := {}
  price : Double := .zero
  size : Option Decimal := none
  exchange : String := ""
  specialConditions : String := ""
  deriving DecidableEq

structure TradingSession where
  startDateTime : String := ""
  endDateTime : String := ""
  refDate : String := ""
  deriving DecidableEq

end BrokerWire
