import BrokerWire.Code.Vocabulary

namespace BrokerWire

inductive Security where
  | stock
  | option
  | future
  | continuousFuture
  | forex
  | index
  | futureOption
  | bond
  | fund
  | warrant
  | commodity
  | combo
  | news
  | crypto
  deriving DecidableEq

instance : Vocabulary Security where
  words :=
    [.stock, .option, .future, .continuousFuture, .forex, .index, .futureOption, .bond, .fund,
      .warrant, .commodity, .combo, .news, .crypto]
  text
    | .stock => "STK"
    | .option => "OPT"
    | .future => "FUT"
    | .continuousFuture => "CONTFUT"
    | .forex => "CASH"
    | .index => "IND"
    | .futureOption => "FOP"
    | .bond => "BOND"
    | .fund => "FUND"
    | .warrant => "WAR"
    | .commodity => "CMDTY"
    | .combo => "BAG"
    | .news => "NEWS"
    | .crypto => "CRYPTO"

/-- The two rights of an option; the gateway sometimes spells them out. -/
inductive OptionRight where
  | call
  | put
  deriving DecidableEq

instance : Vocabulary OptionRight where
  words :=
    [.call, .put]
  text
    | .call => "C"
    | .put => "P"
  aliases
    | .call => ["CALL"]
    | .put => ["PUT"]

/-- The numbering schemes of security identifiers. -/
inductive SecurityIdScheme where
  | cusip
  | sedol
  | isin
  | ric
  deriving DecidableEq

instance : Vocabulary SecurityIdScheme where
  words :=
    [.cusip, .sedol, .isin, .ric]
  text
    | .cusip => "CUSIP"
    | .sedol => "SEDOL"
    | .isin => "ISIN"
    | .ric => "RIC"

inductive Side where
  | buy
  | sell
  | sellShort
  | sellLong
  deriving DecidableEq

instance : Vocabulary Side where
  words :=
    [.buy, .sell, .sellShort, .sellLong]
  text
    | .buy => "BUY"
    | .sell => "SELL"
    | .sellShort => "SSHORT"
    | .sellLong => "SLONG"

inductive OrderKind where
  | market
  | limit
  | stop
  | stopLimit
  | trailingStop
  | trailingStopLimit
  | relative
  | marketOnClose
  | limitOnClose
  | marketOnOpen
  | limitOnOpen
  | peggedToMarket
  | peggedToMidpoint
  | peggedToBest
  | peggedToBenchmark
  | peggedToPrimary
  | volatility
  | marketIfTouched
  | limitIfTouched
  | marketWithProtection
  | midPrice
  | snapToMarket
  | snapToMidpoint
  | snapToPrimary
  deriving DecidableEq

instance : Vocabulary OrderKind where
  words :=
    [.market, .limit, .stop, .stopLimit, .trailingStop, .trailingStopLimit, .relative,
      .marketOnClose, .limitOnClose, .marketOnOpen, .limitOnOpen, .peggedToMarket,
      .peggedToMidpoint, .peggedToBest, .peggedToBenchmark, .peggedToPrimary, .volatility,
      .marketIfTouched, .limitIfTouched, .marketWithProtection, .midPrice, .snapToMarket,
      .snapToMidpoint, .snapToPrimary]
  text
    | .market => "MKT"
    | .limit => "LMT"
    | .stop => "STP"
    | .stopLimit => "STP LMT"
    | .trailingStop => "TRAIL"
    | .trailingStopLimit => "TRAIL LIMIT"
    | .relative => "REL"
    | .marketOnClose => "MOC"
    | .limitOnClose => "LOC"
    | .marketOnOpen => "MOO"
    | .limitOnOpen => "LOO"
    | .peggedToMarket => "PEG MKT"
    | .peggedToMidpoint => "PEG MID"
    | .peggedToBest => "PEG BEST"
    | .peggedToBenchmark => "PEG BENCH"
    | .peggedToPrimary => "PEG PRIM"
    | .volatility => "VOL"
    | .marketIfTouched => "MIT"
    | .limitIfTouched => "LIT"
    | .marketWithProtection => "MKT PRT"
    | .midPrice => "MIDPRICE"
    | .snapToMarket => "SNAP MKT"
    | .snapToMidpoint => "SNAP MID"
    | .snapToPrimary => "SNAP PRIM"

inductive TimeInForce where
  | day
  | goodTilCancelled
  | immediateOrCancel
  | goodTilDate
  | atTheOpening
  | fillOrKill
  | dayTilCancelled
  deriving DecidableEq

instance : Vocabulary TimeInForce where
  words :=
    [.day, .goodTilCancelled, .immediateOrCancel, .goodTilDate, .atTheOpening, .fillOrKill,
      .dayTilCancelled]
  text
    | .day => "DAY"
    | .goodTilCancelled => "GTC"
    | .immediateOrCancel => "IOC"
    | .goodTilDate => "GTD"
    | .atTheOpening => "OPG"
    | .fillOrKill => "FOK"
    | .dayTilCancelled => "DTC"

inductive FundAsset where
  | others
  | moneyMarket
  | fixedIncome
  | multiAsset
  | equity
  | sector
  | guaranteed
  | alternative
  deriving DecidableEq

instance : Vocabulary FundAsset where
  words :=
    [.others, .moneyMarket, .fixedIncome, .multiAsset, .equity, .sector, .guaranteed,
      .alternative]
  text
    | .others => "000"
    | .moneyMarket => "001"
    | .fixedIncome => "002"
    | .multiAsset => "003"
    | .equity => "004"
    | .sector => "005"
    | .guaranteed => "006"
    | .alternative => "007"

inductive FundPayout where
  | accumulationFund
  | incomeFund
  deriving DecidableEq

instance : Vocabulary FundPayout where
  words :=
    [.accumulationFund, .incomeFund]
  text
    | .accumulationFund => "N"
    | .incomeFund => "Y"

end BrokerWire
