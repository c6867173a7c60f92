import BrokerWire.Event.Notice
import BrokerWire.Form.Account
import BrokerWire.Form.Contract
import BrokerWire.Form.Execution
import BrokerWire.Form.MarketData
import BrokerWire.Form.Order
import BrokerWire.Form.OrderState

namespace BrokerWire

instance : JsonForm TickType := Numbered.form

namespace Notice

/-- The name of a notice and its arguments. -/
def call : Notice → String × List Json
  | .connectAck => ("connect_ack", [])
  | .connectionClosed => ("connection_closed", [])
  | .nextValidId orderId => ("next_valid_id", [toJson orderId])
  | .managedAccounts accounts => ("managed_accounts", [toJson accounts])
  | .error reqId errorTime code message rejectJson =>
    ("error", [toJson reqId, toJson errorTime, toJson code, toJson message, toJson rejectJson])
  | .currentTime time => ("current_time", [toJson time])
  | .currentTimeInMillis timeInMillis => ("current_time_in_millis", [toJson timeInMillis])
  | .tickPrice reqId tickType price attrib =>
    ("tick_price", [toJson reqId, toJson tickType, toJson price, toJson attrib])
  | .tickSize reqId tickType size => ("tick_size", [toJson reqId, toJson tickType, toJson size])
  | .tickOptionComputation reqId tickType computation =>
    ("tick_option_computation", [toJson reqId, toJson tickType, toJson computation])
  | .tickGeneric reqId tickType value =>
    ("tick_generic", [toJson reqId, toJson tickType, toJson value])
  | .tickString reqId tickType value =>
    ("tick_string", [toJson reqId, toJson tickType, toJson value])
  | .tickEfp reqId tickType efp => ("tick_efp", [toJson reqId, toJson tickType, toJson efp])
  | .tickSnapshotEnd reqId => ("tick_snapshot_end", [toJson reqId])
  | .tickReqParams reqId minTick bboExchange snapshotPermissions =>
    ("tick_req_params", [toJson reqId, toJson minTick, toJson bboExchange,
     toJson snapshotPermissions])
  | .tickNews reqId timestamp providerCode articleId headline extraData =>
    ("tick_news", [toJson reqId, toJson timestamp, toJson providerCode, toJson articleId,
     toJson headline, toJson extraData])
  | .marketDataType reqId dataType => ("market_data_type", [toJson reqId, toJson dataType])
  | .tickByTickAllLast reqId tickType time price size attrib exchange specialConditions =>
    ("tick_by_tick_all_last", [toJson reqId, toJson tickType, toJson time, toJson price,
     toJson size, toJson attrib, toJson exchange, toJson specialConditions])
  | .tickByTickBidAsk reqId time bidPrice askPrice bidSize askSize attrib =>
    ("tick_by_tick_bid_ask", [toJson reqId, toJson time, toJson bidPrice, toJson askPrice,
     toJson bidSize, toJson askSize, toJson attrib])
  | .tickByTickMidPoint reqId time midPoint =>
    ("tick_by_tick_mid_point", [toJson reqId, toJson time, toJson midPoint])
  | .updateMktDepth reqId row operation side price size =>
    ("update_mkt_depth", [toJson reqId, toJson row, toJson operation, toJson side, toJson price,
     toJson size])
  | .updateMktDepthL2 reqId row marketMaker operation side price size isSmartDepth =>
    ("update_mkt_depth_l2", [toJson reqId, toJson row, toJson marketMaker, toJson operation,
     toJson side, toJson price, toJson size, toJson isSmartDepth])
  | .mktDepthExchanges descriptions => ("mkt_depth_exchanges", [toJson descriptions])
  | .rerouteMktDataReq reqId conId exchange =>
    ("reroute_mkt_data_req", [toJson reqId, toJson conId, toJson exchange])
  | .rerouteMktDepthReq reqId conId exchange =>
    ("reroute_mkt_depth_req", [toJson reqId, toJson conId, toJson exchange])
  | .smartComponents reqId components => ("smart_components", [toJson reqId, toJson components])
  | .orderStatus status => ("order_status", [toJson status])
  | .openOrder orderId contract order state =>
    ("open_order", [toJson orderId, toJson contract, toJson order, toJson state])
  | .openOrderEnd => ("open_order_end", [])
  | .completedOrder contract order state =>
    ("completed_order", [toJson contract, toJson order, toJson state])
  | .completedOrdersEnd => ("completed_orders_end", [])
  | .orderBound permId clientId orderId =>
    ("order_bound", [toJson permId, toJson clientId, toJson orderId])
  | .execDetails reqId contract execution =>
    ("exec_details", [toJson reqId, toJson contract, toJson execution])
  | .execDetailsEnd reqId => ("exec_details_end", [toJson reqId])
  | .commissionAndFeesReport report => ("commission_and_fees_report", [toJson report])
  | .updateAccountValue key value currency accountName =>
    ("update_account_value", [toJson key, toJson value, toJson currency, toJson accountName])
  | .updatePortfolio item => ("update_portfolio", [toJson item])
  | .updateAccountTime timestamp => ("update_account_time", [toJson timestamp])
  | .accountDownloadEnd account => ("account_download_end", [toJson account])
  | .accountSummary reqId account tag value currency =>
    ("account_summary", [toJson reqId, toJson account, toJson tag, toJson value, toJson currency])
  | .accountSummaryEnd reqId => ("account_summary_end", [toJson reqId])
  | .position held => ("position", [toJson held])
  | .positionEnd => ("position_end", [])
  | .positionMulti reqId account modelCode contract held avgCost =>
    ("position_multi", [toJson reqId, toJson account, toJson modelCode, toJson contract,
     toJson held, toJson avgCost])
  | .positionMultiEnd reqId => ("position_multi_end", [toJson reqId])
  | .accountUpdateMulti reqId account modelCode key value currency =>
    ("account_update_multi", [toJson reqId, toJson account, toJson modelCode, toJson key,
     toJson value, toJson currency])
  | .accountUpdateMultiEnd reqId => ("account_update_multi_end", [toJson reqId])
  | .pnl reqId daily unrealized realized =>
    ("pnl", [toJson reqId, toJson daily, toJson unrealized, toJson realized])
  | .pnlSingle reqId held daily unrealized realized value =>
    ("pnl_single", [toJson reqId, toJson held, toJson daily, toJson unrealized, toJson realized,
     toJson value])
  | .familyCodes codes => ("family_codes", [toJson codes])
  | .softDollarTiers reqId tiers => ("soft_dollar_tiers", [toJson reqId, toJson tiers])
  | .contractDetails reqId details => ("contract_details", [toJson reqId, toJson details])
  | .bondContractDetails reqId details =>
    ("bond_contract_details", [toJson reqId, toJson details])
  | .contractDetailsEnd reqId => ("contract_details_end", [toJson reqId])
  | .symbolSamples reqId descriptions => ("symbol_samples", [toJson reqId, toJson descriptions])
  | .deltaNeutralValidation reqId contract =>
    ("delta_neutral_validation", [toJson reqId, toJson contract])
  | .securityDefinitionOptionalParameter reqId exchange underConId tradingClass multiplier
   expirations strikes =>
    ("security_definition_optional_parameter", [toJson reqId, toJson exchange, toJson underConId,
     toJson tradingClass, toJson multiplier, toJson expirations, toJson strikes])
  | .securityDefinitionOptionalParameterEnd reqId =>
    ("security_definition_optional_parameter_end", [toJson reqId])
  | .marketRule marketRuleId priceIncrements =>
    ("market_rule", [toJson marketRuleId, toJson priceIncrements])
  | .historicalData reqId bar => ("historical_data", [toJson reqId, toJson bar])
  | .historicalDataEnd reqId start finish =>
    ("historical_data_end", [toJson reqId, toJson start, toJson finish])
  | .historicalDataUpdate reqId bar => ("historical_data_update", [toJson reqId, toJson bar])
  | .headTimestamp reqId timestamp => ("head_timestamp", [toJson reqId, toJson timestamp])
  | .historicalTicks reqId ticks done =>
    ("historical_ticks", [toJson reqId, toJson ticks, toJson done])
  | .historicalTicksBidAsk reqId ticks done =>
    ("historical_ticks_bid_ask", [toJson reqId, toJson ticks, toJson done])
  | .historicalTicksLast reqId ticks done =>
    ("historical_ticks_last", [toJson reqId, toJson ticks, toJson done])
  | .historicalSchedule reqId start finish timeZone sessions =>
    ("historical_schedule", [toJson reqId, toJson start, toJson finish, toJson timeZone,
     toJson sessions])
  | .realtimeBar reqId bar => ("realtime_bar", [toJson reqId, toJson bar])
  | .histogramData reqId data => ("histogram_data", [toJson reqId, toJson data])
  | .scannerParameters xml => ("scanner_parameters", [toJson xml])
  | .scannerData reqId rank details distance benchmark projection legs =>
    ("scanner_data", [toJson reqId, toJson rank, toJson details, toJson distance,
     toJson benchmark, toJson projection, toJson legs])
  | .scannerDataEnd reqId => ("scanner_data_end", [toJson reqId])
  | .updateNewsBulletin msgId msgType message originExch =>
    ("update_news_bulletin", [toJson msgId, toJson msgType, toJson message, toJson originExch])
  | .newsArticle reqId articleType articleText =>
    ("news_article", [toJson reqId, toJson articleType, toJson articleText])
  | .newsProviders providers => ("news_providers", [toJson providers])
  | .historicalNews reqId time providerCode articleId headline =>
    ("historical_news", [toJson reqId, toJson time, toJson providerCode, toJson articleId,
     toJson headline])
  | .historicalNewsEnd reqId hasMore => ("historical_news_end", [toJson reqId, toJson hasMore])
  | .fundamentalData reqId data => ("fundamental_data", [toJson reqId, toJson data])
  | .receiveFa faDataType xml => ("receive_fa", [toJson faDataType, toJson xml])
  | .replaceFaEnd reqId text => ("replace_fa_end", [toJson reqId, toJson text])
  | .displayGroupList reqId groups => ("display_group_list", [toJson reqId, toJson groups])
  | .displayGroupUpdated reqId contractInfo =>
    ("display_group_updated", [toJson reqId, toJson contractInfo])
  | .verifyMessageApi apiData => ("verify_message_api", [toJson apiData])
  | .verifyCompleted isSuccessful errorText =>
    ("verify_completed", [toJson isSuccessful, toJson errorText])
  | .verifyAndAuthMessageApi apiData xyzChallenge =>
    ("verify_and_auth_message_api", [toJson apiData, toJson xyzChallenge])
  | .verifyAndAuthCompleted isSuccessful errorText =>
    ("verify_and_auth_completed", [toJson isSuccessful, toJson errorText])
  | .wshMetaData reqId dataJson => ("wsh_meta_data", [toJson reqId, toJson dataJson])
  | .wshEventData reqId dataJson => ("wsh_event_data", [toJson reqId, toJson dataJson])
  | .userInfo reqId whiteBrandingId => ("user_info", [toJson reqId, toJson whiteBrandingId])

def toArray (notice : Notice) : Json :=
  .array (.string notice.call.1 :: notice.call.2)

end Notice

end BrokerWire
