import BrokerWire.Code.Numbered

namespace BrokerWire

/-- Who originated an order. -/
inductive Origin where
  | customer
  | firm
  | unknown
  deriving DecidableEq

instance : Numbered Origin where
  members := [.customer, .firm, .unknown]
  code
    | .customer => 0
    | .firm => 1
    | .unknown => 2
  name
    | .customer => "Customer"
    | .firm => "Firm"
    | .unknown => "Unknown"

inductive AuctionStrategy where
  | unset
  | match
  | improvement
  | transparent
  deriving DecidableEq

instance : Numbered AuctionStrategy where
  members := [.unset, .match, .improvement, .transparent]
  code
    | .unset => 0
    | .match => 1
    | .improvement => 2
    | .transparent => 3
  name
    | .unset => "Unset"
    | .match => "Match"
    | .improvement => "Improvement"
    | .transparent => "Transparent"

/-- Whether a leg of a combination opens or closes a position. -/
inductive LegOpenClose where
  | same
  | opening
  | closing
  | unknown
  deriving DecidableEq

instance : Numbered LegOpenClose where
  members := [.same, .opening, .closing, .unknown]
  code
    | .same => 0
    | .opening => 1
    | .closing => 2
    | .unknown => 3
  name
    | .same => "Same"
    | .opening => "Open"
    | .closing => "Close"
    | .unknown => "Unknown"

inductive MarketDataKind where
  | realTime
  | frozen
  | delayed
  | delayedFrozen
  deriving DecidableEq

instance : Numbered MarketDataKind where
  members := [.realTime, .frozen, .delayed, .delayedFrozen]
  code
    | .realTime => 1
    | .frozen => 2
    | .delayed => 3
    | .delayedFrozen => 4
  name
    | .realTime => "RealTime"
    | .frozen => "Frozen"
    | .delayed => "Delayed"
    | .delayedFrozen => "DelayedFrozen"

/-- How the gateway watches a price trigger. -/
inductive TriggerMethod where
  | default
  | doubleBidAsk
  | last
  | doubleLast
  | bidAsk
  | lastOrBidAsk
  | midPoint
  deriving DecidableEq

instance : Numbered TriggerMethod where
  members := [.default, .doubleBidAsk, .last, .doubleLast, .bidAsk, .lastOrBidAsk, .midPoint]
  code
    | .default => 0
    | .doubleBidAsk => 1
    | .last => 2
    | .doubleLast => 3
    | .bidAsk => 4
    | .lastOrBidAsk => 7
    | .midPoint => 8
  name
    | .default => "Default"
    | .doubleBidAsk => "DoubleBidAsk"
    | .last => "Last"
    | .doubleLast => "DoubleLast"
    | .bidAsk => "BidAsk"
    | .lastOrBidAsk => "LastOrBidAsk"
    | .midPoint => "MidPoint"

inductive ConditionType where
  | price
  | time
  | margin
  | execution
  | volume
  | percentChange
  deriving DecidableEq

instance : Numbered ConditionType where
  members := [.price, .time, .margin, .execution, .volume, .percentChange]
  code
    | .price => 1
    | .time => 3
    | .margin => 4
    | .execution => 5
    | .volume => 6
    | .percentChange => 7
  name
    | .price => "Price"
    | .time => "Time"
    | .margin => "Margin"
    | .execution => "Execution"
    | .volume => "Volume"
    | .percentChange => "PercentChange"

end BrokerWire
