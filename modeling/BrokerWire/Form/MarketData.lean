import BrokerWire.Form.Common
import BrokerWire.Record.MarketData

namespace BrokerWire

def PriceFlags.members : List (Member PriceFlags) :=
  [
    .of "canAutoExecute" (·.canAutoExecute) fun v r => { r with canAutoExecute := v },
    .of "pastLimit" (·.pastLimit) fun v r => { r with pastLimit := v },
    .of "preOpen" (·.preOpen) fun v r => { r with preOpen := v }
  ]

instance : JsonForm PriceFlags := Member.form PriceFlags.members {}

def QuoteFlags.members : List (Member QuoteFlags) :=
  [
    .of "bidPastLow" (·.bidPastLow) fun v r => { r with bidPastLow := v },
    .of "askPastHigh" (·.askPastHigh) fun v r => { r with askPastHigh := v }
  ]

instance : JsonForm QuoteFlags := Member.form QuoteFlags.members {}

def TradeFlags.members : List (Member TradeFlags) :=
  [
    .of "pastLimit" (·.pastLimit) fun v r => { r with pastLimit := v },
    .of "unreported" (·.unreported) fun v r => { r with unreported := v }
  ]

instance : JsonForm TradeFlags := Member.form TradeFlags.members {}

def OptionComputation.members : List (Member OptionComputation) :=
  [
    .opt "tickAttrib" (·.tickAttrib) fun v r => { r with tickAttrib := v },
    .opt "impliedVol" (·.impliedVol) fun v r => { r with impliedVol := v },
    .opt "delta" (·.delta) fun v r => { r with delta := v },
    .opt "optPrice" (·.optPrice) fun v r => { r with optPrice := v },
    .opt "pvDividend" (·.pvDividend) fun v r => { r with pvDividend := v },
    .opt "gamma" (·.gamma) fun v r => { r with gamma := v },
    .opt "vega" (·.vega) fun v r => { r with vega := v },
    .opt "theta" (·.theta) fun v r => { r with theta := v },
    .opt "undPrice" (·.undPrice) fun v r => { r with undPrice := v }
  ]

instance : JsonForm OptionComputation := Member.form OptionComputation.members {}

def ExchangeForPhysical.members : List (Member ExchangeForPhysical) :=
  [
    .of "basisPoints" (·.basisPoints) fun v r => { r with basisPoints := v },
    .of "formattedBasisPoints" (·.formattedBasisPoints) fun v r =>
      { r with formattedBasisPoints := v },
    .of "impliedFuturesPrice" (·.impliedFuturesPrice) fun v r =>
      { r with impliedFuturesPrice := v },
    .of "holdDays" (·.holdDays) fun v r => { r with holdDays := v },
    .of "futureLastTradeDate" (·.futureLastTradeDate) fun v r =>
      { r with futureLastTradeDate := v },
    .of "dividendImpact" (·.dividendImpact) fun v r => { r with dividendImpact := v },
    .of "dividendsToLastTradeDate" (·.dividendsToLastTradeDate) fun v r =>
      { r with dividendsToLastTradeDate := v }
  ]

instance : JsonForm ExchangeForPhysical := Member.form ExchangeForPhysical.members {}

def Bar.members : List (Member Bar) :=
  [
    .of "time" (·.time) fun v r => { r with time := v },
    .of "open" (·.opening) fun v r => { r with opening := v },
    .of "high" (·.high) fun v r => { r with high := v },
    .of "low" (·.low) fun v r => { r with low := v },
    .of "close" (·.closing) fun v r => { r with closing := v },
    .opt "volume" (·.volume) fun v r => { r with volume := v },
    .opt "wap" (·.wap) fun v r => { r with wap := v },
    .of "count" (·.count) fun v r => { r with count := v }
  ]

instance : JsonForm Bar := Member.form Bar.members {}

def RealTimeBar.members : List (Member RealTimeBar) :=
  [
    .of "time" (·.time) fun v r => { r with time := v },
    .of "open" (·.opening) fun v r => { r with opening := v },
    .of "high" (·.high) fun v r => { r with high := v },
    .of "low" (·.low) fun v r => { r with low := v },
    .of "close" (·.closing) fun v r => { r with closing := v },
    .opt "volume" (·.volume) fun v r => { r with volume := v },
    .opt "wap" (·.wap) fun v r => { r with wap := v },
    .of "count" (·.count) fun v r => { r with count := v }
  ]

instance : JsonForm RealTimeBar := Member.form RealTimeBar.members {}

def MidpointTick.members : List (Member MidpointTick) :=
  [
    .of "time" (·.time) fun v r => { r with time := v },
    .of "price" (·.price) fun v r => { r with price := v },
    .opt "size" (·.size) fun v r => { r with size := v }
  ]

instance : JsonForm MidpointTick := Member.form MidpointTick.members {}

def QuoteTick.members : List (Member QuoteTick) :=
  [
    .of "time" (·.time) fun v r => { r with time := v },
    .of "attrib" (·.attrib) fun v r => { r with attrib := v },
    .of "priceBid" (·.priceBid) fun v r => { r with priceBid := v },
    .of "priceAsk" (·.priceAsk) fun v r => { r with priceAsk := v },
    .opt "sizeBid" (·.sizeBid) fun v r => { r with sizeBid := v },
    .opt "sizeAsk" (·.sizeAsk) fun v r => { r with sizeAsk := v }
  ]

instance : JsonForm QuoteTick := Member.form QuoteTick.members {}

def TradeTick.members : List (Member TradeTick) :=
  [
    .of "time" (·.time) fun v r => { r with time := v },
    .of "attrib" (·.attrib) fun v r => { r with attrib := v },
    .of "price" (·.price) fun v r => { r with price := v },
    .opt "size" (·.size) fun v r => { r with size := v },
    .of "exchange" (·.exchange) fun v r => { r with exchange := v },
    .of "specialConditions" (·.specialConditions) fun v r => { r with specialConditions := v }
  ]

instance : JsonForm TradeTick := Member.form TradeTick.members {}

def TradingSession.members : List (Member TradingSession) :=
  [
    .of "startDateTime" (·.startDateTime) fun v r => { r with startDateTime := v },
    .of "endDateTime" (·.endDateTime) fun v r => { r with endDateTime := v },
    .of "refDate" (·.refDate) fun v r => { r with refDate := v }
  ]

instance : JsonForm TradingSession := Member.form TradingSession.members {}

end BrokerWire
