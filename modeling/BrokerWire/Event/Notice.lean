import BrokerWire.Code.TickType
import BrokerWire.Record.Account
import BrokerWire.Record.Execution
import BrokerWire.Record.MarketData
import BrokerWire.Record.Order
import BrokerWire.Record.OrderState

namespace BrokerWire

/-- What an application is told: each notice is one call, with its arguments in order. -/
inductive Notice where
  -- Session
  | connectAck
  | connectionClosed
  | nextValidId (orderId : Int32)
  | managedAccounts (accounts : String)
  | error (reqId : Int32) (errorTime : Int64) (code : Int32) (message rejectJson : String)
  | currentTime (time : Int64)
  | currentTimeInMillis (timeInMillis : Int64)
  -- Market data
  | tickPrice (reqId : Int32) (tickType : TickType) (price : Double) (attrib : PriceFlags)
  | tickSize (reqId : Int32) (tickType : TickType) (size : Option Decimal)
  | tickOptionComputation (reqId : Int32) (tickType : TickType) (computation : OptionComputation)
  | tickGeneric (reqId : Int32) (tickType : TickType) (value : Double)
  | tickString (reqId : Int32) (tickType : TickType) (value : String)
  | tickEfp (reqId : Int32) (tickType : TickType) (efp : ExchangeForPhysical)
  | tickSnapshotEnd (reqId : Int32)
  | tickReqParams (reqId : Int32) (minTick : Double) (bboExchange : String)
      (snapshotPermissions : Int32)
  | tickNews (reqId : Int32) (timestamp : Int64)
      (providerCode articleId headline extraData : String)
  | marketDataType (reqId dataType : Int32)
  | tickByTickAllLast (reqId tickType : Int32) (time : Int64) (price : Double)
      (size : Option Decimal) (attrib : TradeFlags) (exchange specialConditions : String)
  | tickByTickBidAsk (reqId : Int32) (time : Int64) (bidPrice askPrice : Double)
      (bidSize askSize : Option Decimal) (attrib : QuoteFlags)
  | tickByTickMidPoint (reqId : Int32) (time : Int64) (midPoint : Double)
  | updateMktDepth (reqId row operation side : Int32) (price : Double) (size : Option Decimal)
  | updateMktDepthL2 (reqId row : Int32) (marketMaker : String) (operation side : Int32)
      (price : Double) (size : Option Decimal) (isSmartDepth : Bool)
  | mktDepthExchanges (descriptions : List DepthMarket)
  | rerouteMktDataReq (reqId conId : Int32) (exchange : String)
  | rerouteMktDepthReq (reqId conId : Int32) (exchange : String)
  | smartComponents (reqId : Int32) (components : List SmartComponent)
  -- Orders and fills
  | orderStatus (status : OrderProgress)
  | openOrder (orderId : Int32) (contract : Contract) (order : Order) (state : OrderState)
  | openOrderEnd
  | completedOrder (contract : Contract) (order : Order) (state : OrderState)
  | completedOrdersEnd
  | orderBound (permId : Int64) (clientId orderId : Int32)
  | execDetails (reqId : Int32) (contract : Contract) (execution : Execution)
  | execDetailsEnd (reqId : Int32)
  | commissionAndFeesReport (report : CommissionReport)
  -- Accounts
  | updateAccountValue (key value currency accountName : String)
  | updatePortfolio (item : PortfolioItem)
  | updateAccountTime (timestamp : String)
  | accountDownloadEnd (account : String)
  | accountSummary (reqId : Int32) (account tag value currency : String)
  | accountSummaryEnd (reqId : Int32)
  | position (held : Position)
  | positionEnd
  | positionMulti (reqId : Int32) (account modelCode : String) (contract : Contract)
      (held : Option Decimal) (avgCost : Double)
  | positionMultiEnd (reqId : Int32)
  | accountUpdateMulti (reqId : Int32) (account modelCode key value currency : String)
  | accountUpdateMultiEnd (reqId : Int32)
  | pnl (reqId : Int32) (daily : Double) (unrealized realized : Option Double)
  | pnlSingle (reqId : Int32) (held : Option Decimal) (daily : Double)
      (unrealized realized : Option Double) (value : Double)
  | familyCodes (codes : List FamilyCode)
  | softDollarTiers (reqId : Int32) (tiers : List SoftDollarTier)
  -- Contracts
  | contractDetails (reqId : Int32) (details : ContractDetails)
  | bondContractDetails (reqId : Int32) (details : ContractDetails)
  | contractDetailsEnd (reqId : Int32)
  | symbolSamples (reqId : Int32) (descriptions : List ContractDescription)
  | deltaNeutralValidation (reqId : Int32) (contract : DeltaNeutralContract)
  | securityDefinitionOptionalParameter (reqId : Int32) (exchange : String) (underConId : Int32)
      (tradingClass multiplier : String) (expirations : List String) (strikes : List Double)
  | securityDefinitionOptionalParameterEnd (reqId : Int32)
  | marketRule (marketRuleId : Int32) (priceIncrements : List PriceIncrement)
  -- Historical data
  | historicalData (reqId : Int32) (bar : Bar)
  | historicalDataEnd (reqId : Int32) (start finish : String)
  | historicalDataUpdate (reqId : Int32) (bar : Bar)
  | headTimestamp (reqId : Int32) (timestamp : String)
  | historicalTicks (reqId : Int32) (ticks : List MidpointTick) (done : Bool)
  | historicalTicksBidAsk (reqId : Int32) (ticks : List QuoteTick) (done : Bool)
  | historicalTicksLast (reqId : Int32) (ticks : List TradeTick) (done : Bool)
  | historicalSchedule (reqId : Int32) (start finish timeZone : String)
      (sessions : List TradingSession)
  | realtimeBar (reqId : Int32) (bar : RealTimeBar)
  | histogramData (reqId : Int32) (data : List HistogramEntry)
  -- Scanners, news and fundamentals
  | scannerParameters (xml : String)
  | scannerData (reqId rank : Int32) (details : ContractDetails)
      (distance benchmark projection legs : String)
  | scannerDataEnd (reqId : Int32)
  | updateNewsBulletin (msgId msgType : Int32) (message originExch : String)
  | newsArticle (reqId articleType : Int32) (articleText : String)
  | newsProviders (providers : List NewsProvider)
  | historicalNews (reqId : Int32) (time providerCode articleId headline : String)
  | historicalNewsEnd (reqId : Int32) (hasMore : Bool)
  | fundamentalData (reqId : Int32) (data : String)
  -- Advisors, display groups, verification, corporate events, user
  | receiveFa (faDataType : Int32) (xml : String)
  | replaceFaEnd (reqId : Int32) (text : String)
  | displayGroupList (reqId : Int32) (groups : String)
  | displayGroupUpdated (reqId : Int32) (contractInfo : String)
  | verifyMessageApi (apiData : String)
  | verifyCompleted (isSuccessful : Bool) (errorText : String)
  | verifyAndAuthMessageApi (apiData xyzChallenge : String)
  | verifyAndAuthCompleted (isSuccessful : Bool) (errorText : String)
  | wshMetaData (reqId : Int32) (dataJson : String)
  | wshEventData (reqId : Int32) (dataJson : String)
  | userInfo (reqId : Int32) (whiteBrandingId : String)
  deriving DecidableEq

end BrokerWire
