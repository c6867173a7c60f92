import BrokerWire.Request.OrderFields
import BrokerWire.Wire.Message

namespace BrokerWire

namespace OrderCancel

open BrokerWire.Field

def operatorFields (c : OrderCancel) : List String :=
  [c.extOperator, optional int c.manualOrderIndicator]

/-- The fields of the cancellation of an order. Some server versions take three fields for requests
for quotes in between. -/
def fields (sv : ServerVersion) (orderId : Int32) (c : OrderCancel) : List String :=
  before Since.operatorTags sv [int 1] ++ [int orderId] ++
    since Since.manualOrderTimes sv [c.manualOrderCancelTime] ++
    since Since.quoteRequests sv (before Since.noQuoteRequests sv ["", "", ""]) ++
    since Since.operatorTags sv c.operatorFields

end OrderCancel

namespace Request

open BrokerWire.Field

def marketDataFields (sv : ServerVersion) (tickerId : Int32) (c : Contract)
    (genericTicks : String) (snapshot regulatory : Bool) (options : List TagValue) :
    List String :=
  [int 11, int tickerId] ++ contract c ++ (if c.isCombo then legs c else []) ++
    underlying c.deltaNeutralContract ++ [genericTicks, bool snapshot] ++
    since Since.smartComponents sv [bool regulatory] ++ [tags options]

def marketDepthFields (sv : ServerVersion) (tickerId : Int32) (c : Contract) (rows : Int32)
    (smart : Bool) (options : List TagValue) : List String :=
  [int 5, int tickerId, int c.conId, c.symbol, optional code c.secType,
      c.lastTradeDateOrContractMonth, optional double c.strike, optional code c.right,
      c.multiplier, c.exchange] ++
    since Since.depthPrimaryExchange sv [c.primaryExchange] ++
    [c.currency, c.localSymbol, c.tradingClass, int rows] ++
    since Since.smartDepth sv [bool smart] ++ [tags options]

def executionFields (sv : ServerVersion) (reqId : Int32) (f : ExecutionFilter) : List String :=
  [int 3, int reqId, int f.clientId, f.acctCode, f.time, f.symbol, f.secType, f.exchange,
      f.side] ++
    since Since.executionDays sv
      (optional int f.lastNDays :: count f.specificDates :: f.specificDates.map int)

def historicalFields (sv : ServerVersion) (tickerId : Int32) (c : Contract)
    (finish duration barSize subject : String) (regularHours : Bool) (dateFormat : Int32)
    (keepUpToDate : Bool) (options : List TagValue) : List String :=
  before Since.syntheticBars sv [int 6] ++ [int tickerId] ++ contract c ++
    [bool c.includeExpired, finish, barSize, duration, bool regularHours, subject,
      int dateFormat] ++
    (if c.isCombo then legs c else []) ++ since Since.syntheticBars sv [bool keepUpToDate] ++
    [tags options]

/-- The fields of a request, behind the kind of message. Many begin with a version of their own,
which is fixed for each kind. -/
def fields (sv : ServerVersion) : Request → List String
  | .marketData tickerId c genericTicks snapshot regulatory options =>
    marketDataFields sv tickerId c genericTicks snapshot regulatory options
  | .cancelMarketData tickerId => [int 2, int tickerId]
  | .marketDataKind kind => [int 1, number kind]
  | .marketDepth tickerId c rows smart options =>
    marketDepthFields sv tickerId c rows smart options
  | .cancelMarketDepth tickerId smart =>
    [int 1, int tickerId] ++ since Since.smartDepth sv [bool smart]
  | .tickByTick reqId c tickType n ignoreSize =>
    [int reqId] ++ contract c ++ [tickType] ++
      since Since.tickByTickLimits sv [int n, bool ignoreSize]
  | .cancelTickByTick reqId => [int reqId]
  | .placeOrder orderId c o => o.fields sv orderId c
  | .cancelOrder orderId c => c.fields sv orderId
  | .openOrders => [int 1]
  | .allOpenOrders => [int 1]
  | .autoOpenOrders autoBind => [int 1, bool autoBind]
  | .completedOrders apiOnly => [bool apiOnly]
  | .orderIds n => [int 1, int n]
  | .globalCancel c => if Since.operatorTags ≤ sv then c.operatorFields else [int 1]
  | .executions reqId filter => executionFields sv reqId filter
  | .contractDetails reqId c =>
    [int 8, int reqId] ++ contract c ++
      [bool c.includeExpired, optional code c.secIdType, c.secId] ++
      since Since.bondIssuers sv [c.issuerId]
  | .matchingSymbols reqId pattern => [int reqId, pattern]
  | .optionChain reqId symbol exchange secType conId =>
    [int reqId, symbol, exchange, secType, int conId]
  | .historicalData tickerId c finish duration barSize subject regularHours dateFormat
      keepUpToDate options =>
    historicalFields sv tickerId c finish duration barSize subject regularHours dateFormat
      keepUpToDate options
  | .cancelHistoricalData tickerId => [int 1, int tickerId]
  | .headTimestamp tickerId c subject regularHours dateFormat =>
    [int tickerId] ++ contract c ++
      [bool c.includeExpired, bool regularHours, subject, int dateFormat]
  | .historicalTicks reqId c start finish n subject regularHours ignoreSize options =>
    [int reqId] ++ contract c ++
      [bool c.includeExpired, start, finish, int n, subject, bool regularHours,
        bool ignoreSize, tags options]
  | .realTimeBars tickerId c barSize subject regularHours options =>
    [int 3, int tickerId] ++ contract c ++
      [int barSize, subject, bool regularHours, tags options]
  | .cancelRealTimeBars tickerId => [int 1, int tickerId]
  | .accountUpdates subscribe account => [int 2, bool subscribe, account]
  | .accountSummary reqId group tags => [int 1, int reqId, group, tags]
  | .cancelAccountSummary reqId => [int 1, int reqId]
  | .positions => [int 1]
  | .cancelPositions => [int 1]
  | .profit reqId account model => [int reqId, account, model]
  | .cancelProfit reqId => [int reqId]
  | .positionProfit reqId account model conId => [int reqId, account, model, int conId]
  | .cancelPositionProfit reqId => [int reqId]
  | .newsProviders => []
  | .newsArticle reqId provider article options =>
    [int reqId, provider, article] ++ since Since.newsOrigins sv [tags options]
  | .historicalNews reqId conId providers start finish n options =>
    [int reqId, int conId, providers, start, finish, int n] ++
      since Since.newsOrigins sv [tags options]
  | .currentTime => [int 1]
  | .currentTimeInMillis => []
  | .managedAccounts => [int 1]
  | .familyCodes => []
  | .marketRule ruleId => [int ruleId]
  | .userInfo reqId => [int reqId]
  | .logLevel level => [int 1, int level]

def message (sv : ServerVersion) (r : Request) : Message :=
  .ofKind r.kind (r.fields sv)

end Request

end BrokerWire
