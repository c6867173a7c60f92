import BrokerWire.Event.History
import BrokerWire.Event.Order
import BrokerWire.Event.Execution
import BrokerWire.Event.Service

namespace BrokerWire.Event

/-- How the fields behind the first one are read. -/
def reader (sv : ServerVersion) : Inbound → FieldReader Event
  | .errMsg => single (readError sv)
  | .nextValidId => single readNextValidId
  | .managedAccts => single readManagedAccounts
  | .currentTime => single readCurrentTime
  | .currentTimeInMillis => single readCurrentTimeInMillis
  | .tickPrice => readTickPrice sv
  | .tickSize => single readTickSize
  | .tickOptionComputation => single (readTickOptionComputation sv)
  | .tickGeneric => single readTickGeneric
  | .tickString => single readTickString
  | .tickEfp => single readTickEfp
  | .tickSnapshotEnd => single readTickSnapshotEnd
  | .tickReqParams => single readTickReqParams
  | .tickNews => single readTickNews
  | .marketDataType => single readMarketDataType
  | .tickByTick => readTickByTick
  | .marketDepth => single readMarketDepth
  | .marketDepthL2 => single (readMarketDepthL2 sv)
  | .mktDepthExchanges => single (readDepthMarkets sv)
  | .rerouteMktDataReq => single readRerouteData
  | .rerouteMktDepthReq => single readRerouteDepth
  | .smartComponents => single readSmartComponents
  | .orderStatus => single (readOrderStatus sv)
  | .openOrder => single (readOpenOrder sv)
  | .openOrderEnd => .done (.notice .openOrderEnd)
  | .orderBound => single readOrderBound
  | .completedOrder => single (readCompletedOrder sv)
  | .completedOrdersEnd => .done (.notice .completedOrdersEnd)
  | .executionData => single (readExecution sv)
  | .executionDataEnd => single readExecutionEnd
  | .commissionAndFeesReport => single readCommissionReport
  | .acctValue => single readAccountValue
  | .portfolioValue => single readPortfolioValue
  | .acctUpdateTime => single readAccountTime
  | .acctDownloadEnd => single readAccountDownloadEnd
  | .accountSummary => single readAccountSummary
  | .accountSummaryEnd => single readAccountSummaryEnd
  | .positionData => single readPosition
  | .positionEnd => .done (.notice .positionEnd)
  | .positionMulti => single readPositionMulti
  | .positionMultiEnd => single readPositionMultiEnd
  | .accountUpdateMulti => single readAccountUpdateMulti
  | .accountUpdateMultiEnd => single readAccountUpdateMultiEnd
  | .pnl => single (readPnl sv)
  | .pnlSingle => single (readPnlSingle sv)
  | .familyCodes => single readFamilyCodes
  | .softDollarTiers => single readSoftDollarTiers
  | .contractData => single (readContractDetails sv)
  | .bondContractData => single (readBondDetails sv)
  | .contractDataEnd => single readContractDetailsEnd
  | .symbolSamples => single (readSymbolSamples sv)
  | .deltaNeutralValidation => single readDeltaNeutralValidation
  | .securityDefinitionOptionParameter => single readOptionChain
  | .securityDefinitionOptionParameterEnd => single readOptionChainEnd
  | .marketRule => single readMarketRule
  | .historicalData => readHistoricalData sv
  | .historicalDataUpdate => single readHistoricalDataUpdate
  | .historicalDataEnd => single readHistoricalDataEnd
  | .headTimestamp => single readHeadTimestamp
  | .historicalTicks => single readHistoricalTicks
  | .historicalTicksBidAsk => single readHistoricalQuotes
  | .historicalTicksLast => single readHistoricalTrades
  | .historicalSchedule => single readHistoricalSchedule
  | .realTimeBars => single readRealTimeBar
  | .histogramData => single readHistogramData
  | .scannerData => readScannerData
  | .scannerParameters => single readScannerParameters
  | .newsBulletins => single readNewsBulletin
  | .newsArticle => single readNewsArticle
  | .newsProviders => single readNewsProviders
  | .historicalNews => single readHistoricalNews
  | .historicalNewsEnd => single readHistoricalNewsEnd
  | .fundamentalData => single readFundamentalData
  | .receiveFa => single readReceiveFa
  | .replaceFaEnd => single readReplaceFaEnd
  | .displayGroupList => single readDisplayGroupList
  | .displayGroupUpdated => single readDisplayGroupUpdated
  | .verifyMessageApi => single readVerifyMessageApi
  | .verifyCompleted => single readVerifyCompleted
  | .verifyAndAuthMessageApi => single readVerifyAndAuthMessageApi
  | .verifyAndAuthCompleted => single readVerifyAndAuthCompleted
  | .wshMetaData => single readWshMetaData
  | .wshEventData => single readWshEventData
  | .userInfo => single readUserInfo

/-- Reads the event of a payload. A message of an unknown kind is taken as it is. -/
def read (sv : ServerVersion) (payload : Bytes) : FieldReader Event :=
  FieldReader.int.bind fun code =>
    match (Numbered.ofCode? code : Option Inbound) with
    | some kind => reader sv kind
    | none => .done (.unknown code payload)

/-- Decodes a payload. Fields behind those that the message has are ignored. -/
def decode (sv : ServerVersion) (payload : Bytes) : Except FieldFault Event :=
  ((read sv payload).run payload).1

end BrokerWire.Event
