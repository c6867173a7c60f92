import BrokerWire.Code.Numbered

namespace BrokerWire

/-- The kinds of message that a client sends. -/
inductive Outbound where
  | reqMktData
  | cancelMktData
  | placeOrder
  | cancelOrder
  | reqOpenOrders
  | reqAcctData
  | reqExecutions
  | reqIds
  | reqContractData
  | reqMktDepth
  | cancelMktDepth
  | setServerLoglevel
  | reqAutoOpenOrders
  | reqAllOpenOrders
  | reqManagedAccts
  | reqHistoricalData
  | cancelHistoricalData
  | reqCurrentTime
  | reqRealTimeBars
  | cancelRealTimeBars
  | reqGlobalCancel
  | reqMarketDataType
  | reqPositions
  | reqAccountSummary
  | cancelAccountSummary
  | cancelPositions
  | startApi
  | reqSecDefOptParams
  | reqFamilyCodes
  | reqMatchingSymbols
  | reqNewsArticle
  | reqNewsProviders
  | reqHistoricalNews
  | reqHeadTimestamp
  | reqMarketRule
  | reqPnl
  | cancelPnl
  | reqPnlSingle
  | cancelPnlSingle
  | reqHistoricalTicks
  | reqTickByTickData
  | cancelTickByTickData
  | reqCompletedOrders
  | reqUserInfo
  | reqCurrentTimeInMillis
  deriving DecidableEq

namespace Outbound

def all : List Outbound :=
  [.reqMktData, .cancelMktData, .placeOrder, .cancelOrder, .reqOpenOrders, .reqAcctData,
    .reqExecutions, .reqIds, .reqContractData, .reqMktDepth, .cancelMktDepth,
    .setServerLoglevel, .reqAutoOpenOrders, .reqAllOpenOrders, .reqManagedAccts,
    .reqHistoricalData, .cancelHistoricalData, .reqCurrentTime, .reqRealTimeBars,
    .cancelRealTimeBars, .reqGlobalCancel, .reqMarketDataType, .reqPositions,
    .reqAccountSummary, .cancelAccountSummary, .cancelPositions, .startApi,
    .reqSecDefOptParams, .reqFamilyCodes, .reqMatchingSymbols, .reqNewsArticle,
    .reqNewsProviders, .reqHistoricalNews, .reqHeadTimestamp, .reqMarketRule, .reqPnl,
    .cancelPnl, .reqPnlSingle, .cancelPnlSingle, .reqHistoricalTicks, .reqTickByTickData,
    .cancelTickByTickData, .reqCompletedOrders, .reqUserInfo, .reqCurrentTimeInMillis]

/-- The code that the first field of a message of the kind holds. -/
def code : Outbound → Int32
  | .reqMktData => 1
  | .cancelMktData => 2
  | .placeOrder => 3
  | .cancelOrder => 4
  | .reqOpenOrders => 5
  | .reqAcctData => 6
  | .reqExecutions => 7
  | .reqIds => 8
  | .reqContractData => 9
  | .reqMktDepth => 10
  | .cancelMktDepth => 11
  | .setServerLoglevel => 14
  | .reqAutoOpenOrders => 15
  | .reqAllOpenOrders => 16
  | .reqManagedAccts => 17
  | .reqHistoricalData => 20
  | .cancelHistoricalData => 25
  | .reqCurrentTime => 49
  | .reqRealTimeBars => 50
  | .cancelRealTimeBars => 51
  | .reqGlobalCancel => 58
  | .reqMarketDataType => 59
  | .reqPositions => 61
  | .reqAccountSummary => 62
  | .cancelAccountSummary => 63
  | .cancelPositions => 64
  | .startApi => 71
  | .reqSecDefOptParams => 78
  | .reqFamilyCodes => 80
  | .reqMatchingSymbols => 81
  | .reqNewsArticle => 84
  | .reqNewsProviders => 85
  | .reqHistoricalNews => 86
  | .reqHeadTimestamp => 87
  | .reqMarketRule => 91
  | .reqPnl => 92
  | .cancelPnl => 93
  | .reqPnlSingle => 94
  | .cancelPnlSingle => 95
  | .reqHistoricalTicks => 96
  | .reqTickByTickData => 97
  | .cancelTickByTickData => 98
  | .reqCompletedOrders => 99
  | .reqUserInfo => 104
  | .reqCurrentTimeInMillis => 105

def name : Outbound → String
  | .reqMktData => "REQ_MKT_DATA"
  | .cancelMktData => "CANCEL_MKT_DATA"
  | .placeOrder => "PLACE_ORDER"
  | .cancelOrder => "CANCEL_ORDER"
  | .reqOpenOrders => "REQ_OPEN_ORDERS"
  | .reqAcctData => "REQ_ACCT_DATA"
  | .reqExecutions => "REQ_EXECUTIONS"
  | .reqIds => "REQ_IDS"
  | .reqContractData => "REQ_CONTRACT_DATA"
  | .reqMktDepth => "REQ_MKT_DEPTH"
  | .cancelMktDepth => "CANCEL_MKT_DEPTH"
  | .setServerLoglevel => "SET_SERVER_LOGLEVEL"
  | .reqAutoOpenOrders => "REQ_AUTO_OPEN_ORDERS"
  | .reqAllOpenOrders => "REQ_ALL_OPEN_ORDERS"
  | .reqManagedAccts => "REQ_MANAGED_ACCTS"
  | .reqHistoricalData => "REQ_HISTORICAL_DATA"
  | .cancelHistoricalData => "CANCEL_HISTORICAL_DATA"
  | .reqCurrentTime => "REQ_CURRENT_TIME"
  | .reqRealTimeBars => "REQ_REAL_TIME_BARS"
  | .cancelRealTimeBars => "CANCEL_REAL_TIME_BARS"
  | .reqGlobalCancel => "REQ_GLOBAL_CANCEL"
  | .reqMarketDataType => "REQ_MARKET_DATA_TYPE"
  | .reqPositions => "REQ_POSITIONS"
  | .reqAccountSummary => "REQ_ACCOUNT_SUMMARY"
  | .cancelAccountSummary => "CANCEL_ACCOUNT_SUMMARY"
  | .cancelPositions => "CANCEL_POSITIONS"
  | .startApi => "START_API"
  | .reqSecDefOptParams => "REQ_SEC_DEF_OPT_PARAMS"
  | .reqFamilyCodes => "REQ_FAMILY_CODES"
  | .reqMatchingSymbols => "REQ_MATCHING_SYMBOLS"
  | .reqNewsArticle => "REQ_NEWS_ARTICLE"
  | .reqNewsProviders => "REQ_NEWS_PROVIDERS"
  | .reqHistoricalNews => "REQ_HISTORICAL_NEWS"
  | .reqHeadTimestamp => "REQ_HEAD_TIMESTAMP"
  | .reqMarketRule => "REQ_MARKET_RULE"
  | .reqPnl => "REQ_PNL"
  | .cancelPnl => "CANCEL_PNL"
  | .reqPnlSingle => "REQ_PNL_SINGLE"
  | .cancelPnlSingle => "CANCEL_PNL_SINGLE"
  | .reqHistoricalTicks => "REQ_HISTORICAL_TICKS"
  | .reqTickByTickData => "REQ_TICK_BY_TICK_DATA"
  | .cancelTickByTickData => "CANCEL_TICK_BY_TICK_DATA"
  | .reqCompletedOrders => "REQ_COMPLETED_ORDERS"
  | .reqUserInfo => "REQ_USER_INFO"
  | .reqCurrentTimeInMillis => "REQ_CURRENT_TIME_IN_MILLIS"

instance : Numbered Outbound where
  members := all
  code := code
  name := name

end Outbound

end BrokerWire
