import BrokerWire.Code.Numbered

namespace BrokerWire

/-- The kinds of message that the gateway sends. -/
inductive Inbound where
  | tickPrice
  | tickSize
  | orderStatus
  | errMsg
  | openOrder
  | acctValue
  | portfolioValue
  | acctUpdateTime
  | nextValidId
  | contractData
  | executionData
  | marketDepth
  | marketDepthL2
  | newsBulletins
  | managedAccts
  | receiveFa
  | historicalData
  | bondContractData
  | scannerParameters
  | scannerData
  | tickOptionComputation
  | tickGeneric
  | tickString
  | tickEfp
  | currentTime
  | realTimeBars
  | fundamentalData
  | contractDataEnd
  | openOrderEnd
  | acctDownloadEnd
  | executionDataEnd
  | deltaNeutralValidation
  | tickSnapshotEnd
  | marketDataType
  | commissionAndFeesReport
  | positionData
  | positionEnd
  | accountSummary
  | accountSummaryEnd
  | verifyMessageApi
  | verifyCompleted
  | displayGroupList
  | displayGroupUpdated
  | verifyAndAuthMessageApi
  | verifyAndAuthCompleted
  | positionMulti
  | positionMultiEnd
  | accountUpdateMulti
  | accountUpdateMultiEnd
  | securityDefinitionOptionParameter
  | securityDefinitionOptionParameterEnd
  | softDollarTiers
  | familyCodes
  | symbolSamples
  | mktDepthExchanges
  | tickReqParams
  | smartComponents
  | newsArticle
  | tickNews
  | newsProviders
  | historicalNews
  | historicalNewsEnd
  | headTimestamp
  | histogramData
  | historicalDataUpdate
  | rerouteMktDataReq
  | rerouteMktDepthReq
  | marketRule
  | pnl
  | pnlSingle
  | historicalTicks
  | historicalTicksBidAsk
  | historicalTicksLast
  | tickByTick
  | orderBound
  | completedOrder
  | completedOrdersEnd
  | replaceFaEnd
  | wshMetaData
  | wshEventData
  | historicalSchedule
  | userInfo
  | historicalDataEnd
  | currentTimeInMillis
  deriving DecidableEq

namespace Inbound

def all : List Inbound :=
  [.tickPrice, .tickSize, .orderStatus, .errMsg, .openOrder, .acctValue, .portfolioValue,
    .acctUpdateTime, .nextValidId, .contractData, .executionData, .marketDepth, .marketDepthL2,
    .newsBulletins, .managedAccts, .receiveFa, .historicalData, .bondContractData,
    .scannerParameters, .scannerData, .tickOptionComputation, .tickGeneric, .tickString,
    .tickEfp, .currentTime, .realTimeBars, .fundamentalData, .contractDataEnd, .openOrderEnd,
    .acctDownloadEnd, .executionDataEnd, .deltaNeutralValidation, .tickSnapshotEnd,
    .marketDataType, .commissionAndFeesReport, .positionData, .positionEnd, .accountSummary,
    .accountSummaryEnd, .verifyMessageApi, .verifyCompleted, .displayGroupList,
    .displayGroupUpdated, .verifyAndAuthMessageApi, .verifyAndAuthCompleted, .positionMulti,
    .positionMultiEnd, .accountUpdateMulti, .accountUpdateMultiEnd,
    .securityDefinitionOptionParameter, .securityDefinitionOptionParameterEnd,
    .softDollarTiers, .familyCodes, .symbolSamples, .mktDepthExchanges, .tickReqParams,
    .smartComponents, .newsArticle, .tickNews, .newsProviders, .historicalNews,
    .historicalNewsEnd, .headTimestamp, .histogramData, .historicalDataUpdate,
    .rerouteMktDataReq, .rerouteMktDepthReq, .marketRule, .pnl, .pnlSingle, .historicalTicks,
    .historicalTicksBidAsk, .historicalTicksLast, .tickByTick, .orderBound, .completedOrder,
    .completedOrdersEnd, .replaceFaEnd, .wshMetaData, .wshEventData, .historicalSchedule,
    .userInfo, .historicalDataEnd, .currentTimeInMillis]

/-- The code that the first field of a message of the kind holds. -/
def code : Inbound → Int32
  | .tickPrice => 1
  | .tickSize => 2
  | .orderStatus => 3
  | .errMsg => 4
  | .openOrder => 5
  | .acctValue => 6
  | .portfolioValue => 7
  | .acctUpdateTime => 8
  | .nextValidId => 9
  | .contractData => 10
  | .executionData => 11
  | .marketDepth => 12
  | .marketDepthL2 => 13
  | .newsBulletins => 14
  | .managedAccts => 15
  | .receiveFa => 16
  | .historicalData => 17
  | .bondContractData => 18
  | .scannerParameters => 19
  | .scannerData => 20
  | .tickOptionComputation => 21
  | .tickGeneric => 45
  | .tickString => 46
  | .tickEfp => 47
  | .currentTime => 49
  | .realTimeBars => 50
  | .fundamentalData => 51
  | .contractDataEnd => 52
  | .openOrderEnd => 53
  | .acctDownloadEnd => 54
  | .executionDataEnd => 55
  | .deltaNeutralValidation => 56
  | .tickSnapshotEnd => 57
  | .marketDataType => 58
  | .commissionAndFeesReport => 59
  | .positionData => 61
  | .positionEnd => 62
  | .accountSummary => 63
  | .accountSummaryEnd => 64
  | .verifyMessageApi => 65
  | .verifyCompleted => 66
  | .displayGroupList => 67
  | .displayGroupUpdated => 68
  | .verifyAndAuthMessageApi => 69
  | .verifyAndAuthCompleted => 70
  | .positionMulti => 71
  | .positionMultiEnd => 72
  | .accountUpdateMulti => 73
  | .accountUpdateMultiEnd => 74
  | .securityDefinitionOptionParameter => 75
  | .securityDefinitionOptionParameterEnd => 76
  | .softDollarTiers => 77
  | .familyCodes => 78
  | .symbolSamples => 79
  | .mktDepthExchanges => 80
  | .tickReqParams => 81
  | .smartComponents => 82
  | .newsArticle => 83
  | .tickNews => 84
  | .newsProviders => 85
  | .historicalNews => 86
  | .historicalNewsEnd => 87
  | .headTimestamp => 88
  | .histogramData => 89
  | .historicalDataUpdate => 90
  | .rerouteMktDataReq => 91
  | .rerouteMktDepthReq => 92
  | .marketRule => 93
  | .pnl => 94
  | .pnlSingle => 95
  | .historicalTicks => 96
  | .historicalTicksBidAsk => 97
  | .historicalTicksLast => 98
  | .tickByTick => 99
  | .orderBound => 100
  | .completedOrder => 101
  | .completedOrdersEnd => 102
  | .replaceFaEnd => 103
  | .wshMetaData => 104
  | .wshEventData => 105
  | .historicalSchedule => 106
  | .userInfo => 107
  | .historicalDataEnd => 108
  | .currentTimeInMillis => 109

def name : Inbound → String
  | .tickPrice => "TICK_PRICE"
  | .tickSize => "TICK_SIZE"
  | .orderStatus => "ORDER_STATUS"
  | .errMsg => "ERR_MSG"
  | .openOrder => "OPEN_ORDER"
  | .acctValue => "ACCT_VALUE"
  | .portfolioValue => "PORTFOLIO_VALUE"
  | .acctUpdateTime => "ACCT_UPDATE_TIME"
  | .nextValidId => "NEXT_VALID_ID"
  | .contractData => "CONTRACT_DATA"
  | .executionData => "EXECUTION_DATA"
  | .marketDepth => "MARKET_DEPTH"
  | .marketDepthL2 => "MARKET_DEPTH_L2"
  | .newsBulletins => "NEWS_BULLETINS"
  | .managedAccts => "MANAGED_ACCTS"
  | .receiveFa => "RECEIVE_FA"
  | .historicalData => "HISTORICAL_DATA"
  | .bondContractData => "BOND_CONTRACT_DATA"
  | .scannerParameters => "SCANNER_PARAMETERS"
  | .scannerData => "SCANNER_DATA"
  | .tickOptionComputation => "TICK_OPTION_COMPUTATION"
  | .tickGeneric => "TICK_GENERIC"
  | .tickString => "TICK_STRING"
  | .tickEfp => "TICK_EFP"
  | .currentTime => "CURRENT_TIME"
  | .realTimeBars => "REAL_TIME_BARS"
  | .fundamentalData => "FUNDAMENTAL_DATA"
  | .contractDataEnd => "CONTRACT_DATA_END"
  | .openOrderEnd => "OPEN_ORDER_END"
  | .acctDownloadEnd => "ACCT_DOWNLOAD_END"
  | .executionDataEnd => "EXECUTION_DATA_END"
  | .deltaNeutralValidation => "DELTA_NEUTRAL_VALIDATION"
  | .tickSnapshotEnd => "TICK_SNAPSHOT_END"
  | .marketDataType => "MARKET_DATA_TYPE"
  | .commissionAndFeesReport => "COMMISSION_AND_FEES_REPORT"
  | .positionData => "POSITION_DATA"
  | .positionEnd => "POSITION_END"
  | .accountSummary => "ACCOUNT_SUMMARY"
  | .accountSummaryEnd => "ACCOUNT_SUMMARY_END"
  | .verifyMessageApi => "VERIFY_MESSAGE_API"
  | .verifyCompleted => "VERIFY_COMPLETED"
  | .displayGroupList => "DISPLAY_GROUP_LIST"
  | .displayGroupUpdated => "DISPLAY_GROUP_UPDATED"
  | .verifyAndAuthMessageApi => "VERIFY_AND_AUTH_MESSAGE_API"
  | .verifyAndAuthCompleted => "VERIFY_AND_AUTH_COMPLETED"
  | .positionMulti => "POSITION_MULTI"
  | .positionMultiEnd => "POSITION_MULTI_END"
  | .accountUpdateMulti => "ACCOUNT_UPDATE_MULTI"
  | .accountUpdateMultiEnd => "ACCOUNT_UPDATE_MULTI_END"
  | .securityDefinitionOptionParameter => "SECURITY_DEFINITION_OPTION_PARAMETER"
  | .securityDefinitionOptionParameterEnd => "SECURITY_DEFINITION_OPTION_PARAMETER_END"
  | .softDollarTiers => "SOFT_DOLLAR_TIERS"
  | .familyCodes => "FAMILY_CODES"
  | .symbolSamples => "SYMBOL_SAMPLES"
  | .mktDepthExchanges => "MKT_DEPTH_EXCHANGES"
  | .tickReqParams => "TICK_REQ_PARAMS"
  | .smartComponents => "SMART_COMPONENTS"
  | .newsArticle => "NEWS_ARTICLE"
  | .tickNews => "TICK_NEWS"
  | .newsProviders => "NEWS_PROVIDERS"
  | .historicalNews => "HISTORICAL_NEWS"
  | .historicalNewsEnd => "HISTORICAL_NEWS_END"
  | .headTimestamp => "HEAD_TIMESTAMP"
  | .histogramData => "HISTOGRAM_DATA"
  | .historicalDataUpdate => "HISTORICAL_DATA_UPDATE"
  | .rerouteMktDataReq => "REROUTE_MKT_DATA_REQ"
  | .rerouteMktDepthReq => "REROUTE_MKT_DEPTH_REQ"
  | .marketRule => "MARKET_RULE"
  | .pnl => "PNL"
  | .pnlSingle => "PNL_SINGLE"
  | .historicalTicks => "HISTORICAL_TICKS"
  | .historicalTicksBidAsk => "HISTORICAL_TICKS_BID_ASK"
  | .historicalTicksLast => "HISTORICAL_TICKS_LAST"
  | .tickByTick => "TICK_BY_TICK"
  | .orderBound => "ORDER_BOUND"
  | .completedOrder => "COMPLETED_ORDER"
  | .completedOrdersEnd => "COMPLETED_ORDERS_END"
  | .replaceFaEnd => "REPLACE_FA_END"
  | .wshMetaData => "WSH_META_DATA"
  | .wshEventData => "WSH_EVENT_DATA"
  | .historicalSchedule => "HISTORICAL_SCHEDULE"
  | .userInfo => "USER_INFO"
  | .historicalDataEnd => "HISTORICAL_DATA_END"
  | .currentTimeInMillis => "CURRENT_TIME_IN_MILLIS"

instance : Numbered Inbound where
  members := all
  code := code
  name := name

end Inbound

end BrokerWire
