import BrokerWire.Form.Account
import BrokerWire.Form.Execution
import BrokerWire.Form.MarketData
import BrokerWire.Form.Order
import BrokerWire.Form.OrderState
import BrokerWire.Proofs.Form.Conditions

namespace BrokerWire

open Member (Lawful settles_map_kept)

theorem TagValue.lawful : Lawful TagValue.members {} where
  settles := by simp [TagValue.members]

theorem SoftDollarTier.lawful : Lawful SoftDollarTier.members {} where
  settles := by simp [SoftDollarTier.members]

theorem FamilyCode.lawful : Lawful FamilyCode.members {} where
  settles := by simp [FamilyCode.members]

theorem NewsProvider.lawful : Lawful NewsProvider.members {} where
  settles := by simp [NewsProvider.members]

theorem HistogramEntry.lawful : Lawful HistogramEntry.members {} where
  settles := by simp [HistogramEntry.members]

theorem PriceIncrement.lawful : Lawful PriceIncrement.members {} where
  settles := by simp [PriceIncrement.members]

theorem IneligibilityReason.lawful : Lawful IneligibilityReason.members {} where
  settles := by simp [IneligibilityReason.members]

theorem SmartComponent.lawful : Lawful SmartComponent.members {} where
  settles := by simp [SmartComponent.members]

theorem DepthMarket.lawful : Lawful DepthMarket.members {} where
  settles := by simp [DepthMarket.members]

instance : SettlingForm TagValue := TagValue.lawful.settlingForm
instance : SettlingForm SoftDollarTier := SoftDollarTier.lawful.settlingForm
instance : SettlingForm FamilyCode := FamilyCode.lawful.settlingForm
instance : SettlingForm NewsProvider := NewsProvider.lawful.settlingForm
instance : SettlingForm HistogramEntry := HistogramEntry.lawful.settlingForm
instance : SettlingForm PriceIncrement := PriceIncrement.lawful.settlingForm
instance : SettlingForm IneligibilityReason := IneligibilityReason.lawful.settlingForm
instance : SettlingForm SmartComponent := SmartComponent.lawful.settlingForm
instance : SettlingForm DepthMarket := DepthMarket.lawful.settlingForm
@[simp] theorem SoftDollarTier.lasts_blank : Lasts ({} : SoftDollarTier) := SoftDollarTier.lawful.lasts_blank

instance : LastingForm LegOpenClose := Numbered.lasting

theorem ComboLeg.lawful : Lawful ComboLeg.members {} where
  settles := by simp [ComboLeg.members]

theorem DeltaNeutralContract.lawful : Lawful DeltaNeutralContract.members {} where
  settles := by simp [DeltaNeutralContract.members]

instance : SettlingForm ComboLeg := ComboLeg.lawful.settlingForm
instance : SettlingForm DeltaNeutralContract := DeltaNeutralContract.lawful.settlingForm
instance : NeverNull DeltaNeutralContract := ⟨fun _ => nofun⟩

theorem Contract.lawful : Lawful Contract.members {} where
  settles := by simp [Contract.members]

theorem BondDetails.lawful : Lawful BondDetails.members {} where
  settles := by simp [BondDetails.members]

theorem FundDetails.lawful : Lawful FundDetails.members {} where
  settles := by simp [FundDetails.members]

instance : SettlingForm Contract := Contract.lawful.settlingForm
instance : SettlingForm BondDetails := BondDetails.lawful.settlingForm
instance : SettlingForm FundDetails := FundDetails.lawful.settlingForm
@[simp] theorem Contract.lasts_blank : Lasts ({} : Contract) := Contract.lawful.lasts_blank
@[simp] theorem BondDetails.lasts_blank : Lasts ({} : BondDetails) := BondDetails.lawful.lasts_blank
@[simp] theorem FundDetails.lasts_blank : Lasts ({} : FundDetails) := FundDetails.lawful.lasts_blank

theorem ContractDetails.lawful : Lawful ContractDetails.members {} where
  settles := by simp [ContractDetails.members]

theorem ContractDescription.lawful : Lawful ContractDescription.members {} where
  settles := by simp [ContractDescription.members]

theorem PortfolioItem.lawful : Lawful PortfolioItem.members {} where
  settles := by simp [PortfolioItem.members]

theorem Position.lawful : Lawful Position.members {} where
  settles := by simp [Position.members]

instance : SettlingForm ContractDetails := ContractDetails.lawful.settlingForm
instance : SettlingForm ContractDescription := ContractDescription.lawful.settlingForm
instance : SettlingForm PortfolioItem := PortfolioItem.lawful.settlingForm
instance : SettlingForm Position := Position.lawful.settlingForm

theorem Execution.lawful : Lawful Execution.members {} where
  settles := by simp [Execution.members]

theorem ExecutionFilter.lawful : Lawful ExecutionFilter.members {} where
  settles := by simp [ExecutionFilter.members]

theorem CommissionReport.lawful : Lawful CommissionReport.members {} where
  settles := by simp [CommissionReport.members]

theorem OrderProgress.lawful : Lawful OrderProgress.members {} where
  settles := by simp [OrderProgress.members]

theorem OrderAllocation.lawful : Lawful OrderAllocation.members {} where
  settles := by simp [OrderAllocation.members]

instance : SettlingForm Execution := Execution.lawful.settlingForm
instance : SettlingForm ExecutionFilter := ExecutionFilter.lawful.settlingForm
instance : SettlingForm CommissionReport := CommissionReport.lawful.settlingForm
instance : SettlingForm OrderProgress := OrderProgress.lawful.settlingForm
instance : SettlingForm OrderAllocation := OrderAllocation.lawful.settlingForm

theorem OrderState.lawful : Lawful OrderState.members {} where
  settles := by simp [OrderState.members]

theorem OrderCancel.lawful : Lawful OrderCancel.members {} where
  settles := by simp [OrderCancel.members]

instance : SettlingForm OrderState := OrderState.lawful.settlingForm
instance : SettlingForm OrderCancel := OrderCancel.lawful.settlingForm

theorem PriceFlags.lawful : Lawful PriceFlags.members {} where
  settles := by simp [PriceFlags.members]

theorem QuoteFlags.lawful : Lawful QuoteFlags.members {} where
  settles := by simp [QuoteFlags.members]

theorem TradeFlags.lawful : Lawful TradeFlags.members {} where
  settles := by simp [TradeFlags.members]

instance : SettlingForm PriceFlags := PriceFlags.lawful.settlingForm
instance : SettlingForm QuoteFlags := QuoteFlags.lawful.settlingForm
instance : SettlingForm TradeFlags := TradeFlags.lawful.settlingForm
@[simp] theorem QuoteFlags.lasts_blank : Lasts ({} : QuoteFlags) := QuoteFlags.lawful.lasts_blank
@[simp] theorem TradeFlags.lasts_blank : Lasts ({} : TradeFlags) := TradeFlags.lawful.lasts_blank

theorem OptionComputation.lawful : Lawful OptionComputation.members {} where
  settles := by simp [OptionComputation.members]

theorem ExchangeForPhysical.lawful : Lawful ExchangeForPhysical.members {} where
  settles := by simp [ExchangeForPhysical.members]

theorem Bar.lawful : Lawful Bar.members {} where
  settles := by simp [Bar.members]

theorem RealTimeBar.lawful : Lawful RealTimeBar.members {} where
  settles := by simp [RealTimeBar.members]

theorem MidpointTick.lawful : Lawful MidpointTick.members {} where
  settles := by simp [MidpointTick.members]

theorem QuoteTick.lawful : Lawful QuoteTick.members {} where
  settles := by simp [QuoteTick.members]

theorem TradeTick.lawful : Lawful TradeTick.members {} where
  settles := by simp [TradeTick.members]

theorem TradingSession.lawful : Lawful TradingSession.members {} where
  settles := by simp [TradingSession.members]

instance : SettlingForm OptionComputation := OptionComputation.lawful.settlingForm
instance : SettlingForm ExchangeForPhysical := ExchangeForPhysical.lawful.settlingForm
instance : SettlingForm Bar := Bar.lawful.settlingForm
instance : SettlingForm RealTimeBar := RealTimeBar.lawful.settlingForm
instance : SettlingForm MidpointTick := MidpointTick.lawful.settlingForm
instance : SettlingForm QuoteTick := QuoteTick.lawful.settlingForm
instance : SettlingForm TradeTick := TradeTick.lawful.settlingForm
instance : SettlingForm TradingSession := TradingSession.lawful.settlingForm

instance : LastingForm Origin := Numbered.lasting
instance : LastingForm AuctionStrategy := Numbered.lasting

theorem DeltaNeutralOrder.lawful : Lawful DeltaNeutralOrder.members {} where
  settles := settles_map_kept (by simp)

theorem ScaleParams.lawful : Lawful ScaleParams.members {} where
  settles := settles_map_kept (by simp)

theorem PegBenchParams.lawful : Lawful PegBenchParams.members {} where
  settles := settles_map_kept (by simp)

theorem AdjustedOrder.lawful : Lawful AdjustedOrder.members {} where
  settles := settles_map_kept (by simp)

theorem DecisionMakers.lawful : Lawful DecisionMakers.members {} where
  settles := settles_map_kept (by simp)

instance : SettlingForm DeltaNeutralOrder := DeltaNeutralOrder.lawful.settlingForm
instance : SettlingForm ScaleParams := ScaleParams.lawful.settlingForm
instance : SettlingForm PegBenchParams := PegBenchParams.lawful.settlingForm
instance : SettlingForm AdjustedOrder := AdjustedOrder.lawful.settlingForm
instance : SettlingForm DecisionMakers := DecisionMakers.lawful.settlingForm
@[simp] theorem DeltaNeutralOrder.lasts_blank : Lasts ({} : DeltaNeutralOrder) := DeltaNeutralOrder.lawful.lasts_blank
@[simp] theorem ScaleParams.lasts_blank : Lasts ({} : ScaleParams) := ScaleParams.lawful.lasts_blank
@[simp] theorem PegBenchParams.lasts_blank : Lasts ({} : PegBenchParams) := PegBenchParams.lawful.lasts_blank
@[simp] theorem AdjustedOrder.lasts_blank : Lasts ({} : AdjustedOrder) := AdjustedOrder.lawful.lasts_blank
@[simp] theorem DecisionMakers.lasts_blank : Lasts ({} : DecisionMakers) := DecisionMakers.lawful.lasts_blank

-- With so many members the ordinary `simp` is slow: it splits the membership before the property.
theorem Order.settles : ∀ m ∈ Order.members, m.Settles {} := by
  apply settles_map_kept
  simp only [List.forall_mem_cons]
  simp

theorem Order.lawful : Lawful Order.members {} where
  settles := Order.settles

instance : SettlingForm Order := Order.lawful.settlingForm

end BrokerWire
