import BrokerWire.Code.Outbound
import BrokerWire.Code.Numbers
import BrokerWire.Event.ClientError
import BrokerWire.Record.Execution
import BrokerWire.Record.Order
import BrokerWire.Record.OrderState

namespace BrokerWire

inductive Request where
  -- Market data
  | marketData (tickerId : Int32) (contract : Contract) (genericTicks : String)
      (snapshot regulatory : Bool) (options : List TagValue)
  | cancelMarketData (tickerId : Int32)
  | marketDataKind (kind : MarketDataKind)
  | marketDepth (tickerId : Int32) (contract : Contract) (rows : Int32) (smart : Bool)
      (options : List TagValue)
  | cancelMarketDepth (tickerId : Int32) (smart : Bool)
  | tickByTick (reqId : Int32) (contract : Contract) (tickType : String) (count : Int32)
      (ignoreSize : Bool)
  | cancelTickByTick (reqId : Int32)
  -- Orders
  | placeOrder (orderId : Int32) (contract : Contract) (order : Order)
  | cancelOrder (orderId : Int32) (cancel : OrderCancel)
  | openOrders
  | allOpenOrders
  | autoOpenOrders (autoBind : Bool)
  | completedOrders (apiOnly : Bool)
  | orderIds (count : Int32)
  | globalCancel (cancel : OrderCancel)
  -- Fills and contracts
  | executions (reqId : Int32) (filter : ExecutionFilter)
  | contractDetails (reqId : Int32) (contract : Contract)
  | matchingSymbols (reqId : Int32) (pattern : String)
  | optionChain (reqId : Int32) (symbol exchange secType : String) (conId : Int32)
  -- Historical data
  | historicalData (tickerId : Int32) (contract : Contract)
      (finish duration barSize subject : String) (regularHours : Bool) (dateFormat : Int32)
      (keepUpToDate : Bool) (options : List TagValue)
  | cancelHistoricalData (tickerId : Int32)
  | headTimestamp (tickerId : Int32) (contract : Contract) (subject : String)
      (regularHours : Bool) (dateFormat : Int32)
  | historicalTicks (reqId : Int32) (contract : Contract) (start finish : String)
      (count : Int32) (subject : String) (regularHours ignoreSize : Bool)
      (options : List TagValue)
  | realTimeBars (tickerId : Int32) (contract : Contract) (barSize : Int32) (subject : String)
      (regularHours : Bool) (options : List TagValue)
  | cancelRealTimeBars (tickerId : Int32)
  -- Accounts
  | accountUpdates (subscribe : Bool) (account : String)
  | accountSummary (reqId : Int32) (group tags : String)
  | cancelAccountSummary (reqId : Int32)
  | positions
  | cancelPositions
  | profit (reqId : Int32) (account model : String)
  | cancelProfit (reqId : Int32)
  | positionProfit (reqId : Int32) (account model : String) (conId : Int32)
  | cancelPositionProfit (reqId : Int32)
  -- News
  | newsProviders
  | newsArticle (reqId : Int32) (provider article : String) (options : List TagValue)
  | historicalNews (reqId conId : Int32) (providers start finish : String) (count : Int32)
      (options : List TagValue)
  -- Service
  | currentTime
  | currentTimeInMillis
  | managedAccounts
  | familyCodes
  | marketRule (ruleId : Int32)
  | userInfo (reqId : Int32)
  | logLevel (level : Int32)
  deriving DecidableEq

namespace Request

def kind : Request → Outbound
  | .marketData .. => .reqMktData
  | .cancelMarketData .. => .cancelMktData
  | .marketDataKind .. => .reqMarketDataType
  | .marketDepth .. => .reqMktDepth
  | .cancelMarketDepth .. => .cancelMktDepth
  | .tickByTick .. => .reqTickByTickData
  | .cancelTickByTick .. => .cancelTickByTickData
  | .placeOrder .. => .placeOrder
  | .cancelOrder .. => .cancelOrder
  | .openOrders => .reqOpenOrders
  | .allOpenOrders => .reqAllOpenOrders
  | .autoOpenOrders .. => .reqAutoOpenOrders
  | .completedOrders .. => .reqCompletedOrders
  | .orderIds .. => .reqIds
  | .globalCancel .. => .reqGlobalCancel
  | .executions .. => .reqExecutions
  | .contractDetails .. => .reqContractData
  | .matchingSymbols .. => .reqMatchingSymbols
  | .optionChain .. => .reqSecDefOptParams
  | .historicalData .. => .reqHistoricalData
  | .cancelHistoricalData .. => .cancelHistoricalData
  | .headTimestamp .. => .reqHeadTimestamp
  | .historicalTicks .. => .reqHistoricalTicks
  | .realTimeBars .. => .reqRealTimeBars
  | .cancelRealTimeBars .. => .cancelRealTimeBars
  | .accountUpdates .. => .reqAcctData
  | .accountSummary .. => .reqAccountSummary
  | .cancelAccountSummary .. => .cancelAccountSummary
  | .positions => .reqPositions
  | .cancelPositions => .cancelPositions
  | .profit .. => .reqPnl
  | .cancelProfit .. => .cancelPnl
  | .positionProfit .. => .reqPnlSingle
  | .cancelPositionProfit .. => .cancelPnlSingle
  | .newsProviders => .reqNewsProviders
  | .newsArticle .. => .reqNewsArticle
  | .historicalNews .. => .reqHistoricalNews
  | .currentTime => .reqCurrentTime
  | .currentTimeInMillis => .reqCurrentTimeInMillis
  | .managedAccounts => .reqManagedAccts
  | .familyCodes => .reqFamilyCodes
  | .marketRule .. => .reqMarketRule
  | .userInfo .. => .reqUserInfo
  | .logLevel .. => .setServerLoglevel

/-- The number that errors about a request are reported with. -/
def id : Request → Int32
  | .marketData tickerId .. => tickerId
  | .cancelMarketData tickerId => tickerId
  | .marketDepth tickerId .. => tickerId
  | .cancelMarketDepth tickerId _ => tickerId
  | .tickByTick reqId .. => reqId
  | .cancelTickByTick reqId => reqId
  | .placeOrder orderId .. => orderId
  | .cancelOrder orderId _ => orderId
  | .executions reqId _ => reqId
  | .contractDetails reqId _ => reqId
  | .matchingSymbols reqId _ => reqId
  | .optionChain reqId .. => reqId
  | .historicalData tickerId .. => tickerId
  | .cancelHistoricalData tickerId => tickerId
  | .headTimestamp tickerId .. => tickerId
  | .historicalTicks reqId .. => reqId
  | .realTimeBars tickerId .. => tickerId
  | .cancelRealTimeBars tickerId => tickerId
  | .accountSummary reqId .. => reqId
  | .cancelAccountSummary reqId => reqId
  | .profit reqId .. => reqId
  | .cancelProfit reqId => reqId
  | .positionProfit reqId .. => reqId
  | .cancelPositionProfit reqId => reqId
  | .newsArticle reqId .. => reqId
  | .historicalNews reqId .. => reqId
  | .userInfo reqId => reqId
  | _ => ClientError.noRequest

end Request

end BrokerWire
