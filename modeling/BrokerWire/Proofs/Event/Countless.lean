import BrokerWire.Event.Decode
import BrokerWire.Proofs.Wire.Countless

namespace BrokerWire.Event

open FieldReader

variable (sv : ServerVersion) (version : Int)

instance (since : ServerVersion) : Countless (messageVersion since sv) := by
  unfold messageVersion
  infer_instance

instance : Countless readContract := by
  unfold readContract
  infer_instance

instance (version : Int32) : Countless (readPortfolioContract version) := by
  unfold readPortfolioContract
  infer_instance

instance : Countless (readFilledContract version) := by
  unfold readFilledContract
  infer_instance

instance (orderId : Int32) : Countless (readFill sv version orderId) := by
  unfold readFill
  infer_instance

instance (type : TickType) : Countless (readComputation sv version type) := by
  unfold readComputation amount sensitivity greek
  infer_instance

instance : Countless (readReport sv) := by
  unfold readReport
  infer_instance

instance : Countless (readDepthMarket sv) := by
  unfold readDepthMarket
  infer_instance

instance : Countless readSmartComponent := by
  unfold readSmartComponent
  infer_instance

instance : Countless readFamilyCode := by
  unfold readFamilyCode
  infer_instance

instance : Countless readSoftDollarTier := by
  unfold readSoftDollarTier
  infer_instance

instance : Countless readNewsProvider := by
  unfold readNewsProvider
  infer_instance

instance : Countless readScannerRow := by
  unfold readScannerRow
  infer_instance

instance : Countless readRange := by
  unfold readRange
  infer_instance

instance : Countless (readBar sv) := by
  unfold readBar
  infer_instance

instance : Countless readMidpointTick := by
  unfold readMidpointTick
  infer_instance

instance : Countless readQuoteTick := by
  unfold readQuoteTick
  infer_instance

instance : Countless readTradeTick := by
  unfold readTradeTick
  infer_instance

instance : Countless readTradingSession := by
  unfold readTradingSession
  infer_instance

instance : Countless readHistogramEntry := by
  unfold readHistogramEntry
  infer_instance

instance : Countless readPriceIncrement := by
  unfold readPriceIncrement
  infer_instance

instance : Countless readDeltaNeutral := by
  unfold readDeltaNeutral
  infer_instance

instance : Countless readTagValue := by
  unfold readTagValue
  infer_instance

instance : Countless readIneligibility := by
  unfold readIneligibility
  infer_instance

instance : Countless readFund := by
  unfold readFund
  infer_instance

instance : Countless (readLongName sv) := by
  unfold readLongName
  infer_instance

instance : Countless (skipSizeMultiplier sv) := by
  unfold skipSizeMultiplier
  infer_instance

instance : Countless (readDetailsRequest version) := by
  unfold readDetailsRequest
  infer_instance

instance : Countless readTerms := by
  unfold readTerms
  infer_instance

instance : Countless (readExemptCode sv version) := by
  unfold readExemptCode
  infer_instance

instance (a : OrderAuction) : Countless (readStockRange a) := by
  unfold readStockRange
  infer_instance

instance (isOpen : Bool) : Countless (readHedgeOrder version isOpen) := by
  unfold readHedgeOrder
  infer_instance

instance (isOpen : Bool) : Countless (readVolatility version isOpen) := by
  unfold readVolatility
  infer_instance

instance : Countless (readTrail version) := by
  unfold readTrail
  infer_instance

instance : Countless readComboLeg := by
  unfold readComboLeg
  infer_instance

instance : Countless (readScaleSizes version) := by
  unfold readScaleSizes
  infer_instance

instance : Countless (readScale version) := by
  unfold readScale
  infer_instance

instance : Countless (readHedge version) := by
  unfold readHedge
  infer_instance

instance : Countless (readUnderlying version) := by
  unfold readUnderlying
  infer_instance

instance (a : OrderAuction) : Countless (readRandomize version a) := by
  unfold readRandomize
  infer_instance

instance (kind : Option (Code OrderKind)) : Countless (readPegBench sv kind) := by
  unfold readPegBench
  infer_instance

instance : Countless readComparison := by
  unfold readComparison
  infer_instance

instance : Countless readScope := by
  unfold readScope
  infer_instance

instance : Countless (readPegBest sv) := by
  unfold readPegBest
  infer_instance

instance : Countless readOrderAllocation := by
  unfold readOrderAllocation
  infer_instance

instance (type : ConditionType) : Countless (readConditionKind type) := by
  cases type <;>
    · unfold readConditionKind
      infer_instance

instance : Countless readCondition := by
  refine .of_bind .int fun n => ?_
  cases (Numbered.ofCode? n : Option ConditionType) with
  | none => exact .fail nofun
  | some type => infer_instance

end BrokerWire.Event
