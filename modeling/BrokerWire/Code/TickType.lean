import BrokerWire.Code.Numbered

namespace BrokerWire

/-- The market data fields, in the order of their codes from zero. -/
inductive TickType where
  | bidSize
  | bid
  | ask
  | askSize
  | last
  | lastSize
  | high
  | low
  | volume
  | close
  | bidOptionComputation
  | askOptionComputation
  | lastOptionComputation
  | modelOption
  | open
  | low13Week
  | high13Week
  | low26Week
  | high26Week
  | low52Week
  | high52Week
  | avgVolume
  | openInterest
  | optionHistoricalVol
  | optionImpliedVol
  | optionBidExch
  | optionAskExch
  | optionCallOpenInterest
  | optionPutOpenInterest
  | optionCallVolume
  | optionPutVolume
  | indexFuturePremium
  | bidExch
  | askExch
  | auctionVolume
  | auctionPrice
  | auctionImbalance
  | markPrice
  | bidEfpComputation
  | askEfpComputation
  | lastEfpComputation
  | openEfpComputation
  | highEfpComputation
  | lowEfpComputation
  | closeEfpComputation
  | lastTimestamp
  | shortable
  | fundamentalRatios
  | rtVolume
  | halted
  | bidYield
  | askYield
  | lastYield
  | custOptionComputation
  | tradeCount
  | tradeRate
  | volumeRate
  | lastRthTrade
  | rtHistoricalVol
  | ibDividends
  | bondFactorMultiplier
  | regulatoryImbalance
  | newsTick
  | shortTermVolume3Min
  | shortTermVolume5Min
  | shortTermVolume10Min
  | delayedBid
  | delayedAsk
  | delayedLast
  | delayedBidSize
  | delayedAskSize
  | delayedLastSize
  | delayedHigh
  | delayedLow
  | delayedVolume
  | delayedClose
  | delayedOpen
  | rtTrdVolume
  | creditmanMarkPrice
  | creditmanSlowMarkPrice
  | delayedBidOptionComputation
  | delayedAskOptionComputation
  | delayedLastOptionComputation
  | delayedModelOptionComputation
  | lastExch
  | lastRegTime
  | futuresOpenInterest
  | avgOptVolume
  | delayedLastTimestamp
  | shortableShares
  | delayedHalted
  | reuters2MutualFunds
  | etfNavClose
  | etfNavPriorClose
  | etfNavBid
  | etfNavAsk
  | etfNavLast
  | etfFrozenNavLast
  | etfNavHigh
  | etfNavLow
  | socialMarketAnalytics
  | estimatedIpoMidpoint
  | finalIpoLast
  | delayedYieldBid
  | delayedYieldAsk
  | notSet
  deriving DecidableEq

namespace TickType

def all : List TickType :=
  [.bidSize, .bid, .ask, .askSize, .last, .lastSize, .high, .low, .volume, .close,
    .bidOptionComputation, .askOptionComputation, .lastOptionComputation, .modelOption, .open,
    .low13Week, .high13Week, .low26Week, .high26Week, .low52Week, .high52Week, .avgVolume,
    .openInterest, .optionHistoricalVol, .optionImpliedVol, .optionBidExch, .optionAskExch,
    .optionCallOpenInterest, .optionPutOpenInterest, .optionCallVolume, .optionPutVolume,
    .indexFuturePremium, .bidExch, .askExch, .auctionVolume, .auctionPrice, .auctionImbalance,
    .markPrice, .bidEfpComputation, .askEfpComputation, .lastEfpComputation, .openEfpComputation,
    .highEfpComputation, .lowEfpComputation, .closeEfpComputation, .lastTimestamp, .shortable,
    .fundamentalRatios, .rtVolume, .halted, .bidYield, .askYield, .lastYield,
    .custOptionComputation, .tradeCount, .tradeRate, .volumeRate, .lastRthTrade,
    .rtHistoricalVol, .ibDividends, .bondFactorMultiplier, .regulatoryImbalance, .newsTick,
    .shortTermVolume3Min, .shortTermVolume5Min, .shortTermVolume10Min, .delayedBid, .delayedAsk,
    .delayedLast, .delayedBidSize, .delayedAskSize, .delayedLastSize, .delayedHigh, .delayedLow,
    .delayedVolume, .delayedClose, .delayedOpen, .rtTrdVolume, .creditmanMarkPrice,
    .creditmanSlowMarkPrice, .delayedBidOptionComputation, .delayedAskOptionComputation,
    .delayedLastOptionComputation, .delayedModelOptionComputation, .lastExch, .lastRegTime,
    .futuresOpenInterest, .avgOptVolume, .delayedLastTimestamp, .shortableShares, .delayedHalted,
    .reuters2MutualFunds, .etfNavClose, .etfNavPriorClose, .etfNavBid, .etfNavAsk, .etfNavLast,
    .etfFrozenNavLast, .etfNavHigh, .etfNavLow, .socialMarketAnalytics, .estimatedIpoMidpoint,
    .finalIpoLast, .delayedYieldBid, .delayedYieldAsk, .notSet]

def name : TickType → String
  | .bidSize => "BidSize"
  | .bid => "Bid"
  | .ask => "Ask"
  | .askSize => "AskSize"
  | .last => "Last"
  | .lastSize => "LastSize"
  | .high => "High"
  | .low => "Low"
  | .volume => "Volume"
  | .close => "Close"
  | .bidOptionComputation => "BidOptionComputation"
  | .askOptionComputation => "AskOptionComputation"
  | .lastOptionComputation => "LastOptionComputation"
  | .modelOption => "ModelOption"
  | .open => "Open"
  | .low13Week => "Low13Week"
  | .high13Week => "High13Week"
  | .low26Week => "Low26Week"
  | .high26Week => "High26Week"
  | .low52Week => "Low52Week"
  | .high52Week => "High52Week"
  | .avgVolume => "AvgVolume"
  | .openInterest => "OpenInterest"
  | .optionHistoricalVol => "OptionHistoricalVol"
  | .optionImpliedVol => "OptionImpliedVol"
  | .optionBidExch => "OptionBidExch"
  | .optionAskExch => "OptionAskExch"
  | .optionCallOpenInterest => "OptionCallOpenInterest"
  | .optionPutOpenInterest => "OptionPutOpenInterest"
  | .optionCallVolume => "OptionCallVolume"
  | .optionPutVolume => "OptionPutVolume"
  | .indexFuturePremium => "IndexFuturePremium"
  | .bidExch => "BidExch"
  | .askExch => "AskExch"
  | .auctionVolume => "AuctionVolume"
  | .auctionPrice => "AuctionPrice"
  | .auctionImbalance => "AuctionImbalance"
  | .markPrice => "MarkPrice"
  | .bidEfpComputation => "BidEfpComputation"
  | .askEfpComputation => "AskEfpComputation"
  | .lastEfpComputation => "LastEfpComputation"
  | .openEfpComputation => "OpenEfpComputation"
  | .highEfpComputation => "HighEfpComputation"
  | .lowEfpComputation => "LowEfpComputation"
  | .closeEfpComputation => "CloseEfpComputation"
  | .lastTimestamp => "LastTimestamp"
  | .shortable => "Shortable"
  | .fundamentalRatios => "FundamentalRatios"
  | .rtVolume => "RtVolume"
  | .halted => "Halted"
  | .bidYield => "BidYield"
  | .askYield => "AskYield"
  | .lastYield => "LastYield"
  | .custOptionComputation => "CustOptionComputation"
  | .tradeCount => "TradeCount"
  | .tradeRate => "TradeRate"
  | .volumeRate => "VolumeRate"
  | .lastRthTrade => "LastRthTrade"
  | .rtHistoricalVol => "RtHistoricalVol"
  | .ibDividends => "IbDividends"
  | .bondFactorMultiplier => "BondFactorMultiplier"
  | .regulatoryImbalance => "RegulatoryImbalance"
  | .newsTick => "NewsTick"
  | .shortTermVolume3Min => "ShortTermVolume3Min"
  | .shortTermVolume5Min => "ShortTermVolume5Min"
  | .shortTermVolume10Min => "ShortTermVolume10Min"
  | .delayedBid => "DelayedBid"
  | .delayedAsk => "DelayedAsk"
  | .delayedLast => "DelayedLast"
  | .delayedBidSize => "DelayedBidSize"
  | .delayedAskSize => "DelayedAskSize"
  | .delayedLastSize => "DelayedLastSize"
  | .delayedHigh => "DelayedHigh"
  | .delayedLow => "DelayedLow"
  | .delayedVolume => "DelayedVolume"
  | .delayedClose => "DelayedClose"
  | .delayedOpen => "DelayedOpen"
  | .rtTrdVolume => "RtTrdVolume"
  | .creditmanMarkPrice => "CreditmanMarkPrice"
  | .creditmanSlowMarkPrice => "CreditmanSlowMarkPrice"
  | .delayedBidOptionComputation => "DelayedBidOptionComputation"
  | .delayedAskOptionComputation => "DelayedAskOptionComputation"
  | .delayedLastOptionComputation => "DelayedLastOptionComputation"
  | .delayedModelOptionComputation => "DelayedModelOptionComputation"
  | .lastExch => "LastExch"
  | .lastRegTime => "LastRegTime"
  | .futuresOpenInterest => "FuturesOpenInterest"
  | .avgOptVolume => "AvgOptVolume"
  | .delayedLastTimestamp => "DelayedLastTimestamp"
  | .shortableShares => "ShortableShares"
  | .delayedHalted => "DelayedHalted"
  | .reuters2MutualFunds => "Reuters2MutualFunds"
  | .etfNavClose => "EtfNavClose"
  | .etfNavPriorClose => "EtfNavPriorClose"
  | .etfNavBid => "EtfNavBid"
  | .etfNavAsk => "EtfNavAsk"
  | .etfNavLast => "EtfNavLast"
  | .etfFrozenNavLast => "EtfFrozenNavLast"
  | .etfNavHigh => "EtfNavHigh"
  | .etfNavLow => "EtfNavLow"
  | .socialMarketAnalytics => "SocialMarketAnalytics"
  | .estimatedIpoMidpoint => "EstimatedIpoMidpoint"
  | .finalIpoLast => "FinalIpoLast"
  | .delayedYieldBid => "DelayedYieldBid"
  | .delayedYieldAsk => "DelayedYieldAsk"
  | .notSet => "NotSet"

def code (t : TickType) : Int32 :=
  Int32.ofNat t.ctorIdx

instance : Numbered TickType where
  members := all
  code := code
  name := name

/-- The size tick that comes with a price tick. -/
def pairedSize : TickType → Option TickType
  | .bid => some .bidSize
  | .ask => some .askSize
  | .last => some .lastSize
  | .delayedBid => some .delayedBidSize
  | .delayedAsk => some .delayedAskSize
  | .delayedLast => some .delayedLastSize
  | _ => none

/-- Whether a tick is a model's option computation, which always carries a price and a dividend. -/
def isModelComputation : TickType → Bool
  | .modelOption => true
  | .delayedModelOptionComputation => true
  | _ => false

end TickType

end BrokerWire
