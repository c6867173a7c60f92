import BrokerWire.Request.OrderFields

namespace BrokerWire

open BrokerWire.Field (since pairs underlying)

/-- The volatility of an order and its hedge. -/
def OrderVolatility.fields (v : OrderVolatility) : List String :=
  [Field.optional Field.double v.volatility, Field.optional Field.int v.volatilityType] ++
    Field.hedgeOrder v.deltaNeutral ++
    [Field.bool v.continuousUpdate, Field.optional Field.int v.referencePriceType]

/-- The legs of a combination and their prices. -/
def Contract.legFields (c : Contract) (prices : List (Option Double)) : List String :=
  (Field.count c.comboLegs :: c.comboLegs.flatMap Field.orderedLeg) ++
    (Field.count prices :: prices.map (Field.optional Field.double))

/-- The ladder of an order without its table. -/
def ScaleParams.fields (s : ScaleParams) : List String :=
  [Field.optional Field.int s.initLevelSize, Field.optional Field.int s.subsLevelSize,
    Field.optional Field.double s.priceIncrement] ++
    if s.hasAdjustments then
      [Field.optional Field.double s.priceAdjustValue,
        Field.optional Field.int s.priceAdjustInterval,
        Field.optional Field.double s.profitOffset, Field.bool s.autoReset,
        Field.optional Field.int s.initPosition, Field.optional Field.int s.initFillQty,
        Field.bool s.randomPercent]
    else []

/-- What an order hedges, with the parameter that only a hedge has. -/
def OrderHedge.fields (h : OrderHedge) : List String :=
  [h.hedgeType] ++ if h.hedgeType ≠ "" then [h.hedgeParam] else []

/-- The algorithm of an order, with the parameters that only an algorithm has. -/
def OrderAlgo.fields (a : OrderAlgo) : List String :=
  [a.algoStrategy] ++ if a.algoStrategy ≠ "" then pairs a.algoParams else []

namespace Order

open BrokerWire.Field

/-- What every order says, whatever it asks for besides. -/
def headFields (sv : ServerVersion) (orderId : Int32) (c : Contract) (o : Order) : List String :=
  before Since.orderContainers sv [int 45] ++ [int orderId] ++
    (contract c ++ [Field.optional code c.secIdType, c.secId]) ++ o.termFields sv ++
    o.handlingFields

/-- The fields of an order, cut where its groups begin and end. -/
def groups (sv : ServerVersion) (orderId : Int32) (c : Contract) (o : Order) :
    List (List String) :=
  [o.headFields sv orderId c,
    o.comboFields c,
    o.allocationFields sv ++ o.auctionFields,
    o.volatility.fields,
    [Field.optional double o.trail.trailStopPrice, Field.optional double o.trail.trailingPercent],
    o.scale.fields ++ [o.scale.table],
    [o.timing.activeStartTime, o.timing.activeStopTime],
    o.hedge.fields,
    [bool o.handling.optOutSmartRouting, o.clearing.clearingAccount, o.clearing.clearingIntent,
      bool o.handling.notHeld],
    underlying c.deltaNeutralContract,
    o.algo.fields,
    [o.algo.algoId, bool o.handling.whatIf, tags o.handling.orderMiscOptions,
      bool o.handling.solicited, bool o.auction.randomizeSize, bool o.auction.randomizePrice],
    since Since.benchmarkPegs sv o.pegBenchFields,
    since Since.benchmarkPegs sv (conditions o.conditional ++ o.adjustmentFields),
    o.operatorFields sv ++ since Since.pegOffsets sv (o.pegBestFields c) ++ o.customerFields sv]

theorem flatten_groups (sv : ServerVersion) (orderId : Int32) (c : Contract) (o : Order) :
    (o.groups sv orderId c).flatten = o.fields sv orderId c := by
  have hbenchmark : since Since.benchmarkPegs sv
      (o.pegBenchFields ++ conditions o.conditional ++ o.adjustmentFields) =
      since Since.benchmarkPegs sv o.pegBenchFields ++
        since Since.benchmarkPegs sv (conditions o.conditional ++ o.adjustmentFields) := by
    unfold since
    split
    · exact List.append_assoc _ _ _
    · rfl
  unfold fields
  rw [hbenchmark]
  simp [groups, headFields, volatilityFields, OrderVolatility.fields, Field.scale,
    ScaleParams.fields, clearingFields, OrderHedge.fields, algoFields, OrderAlgo.fields]

/-- The fields of a combination are its legs with their prices, and how it is routed. -/
theorem comboFields_of_isCombo {c : Contract} (hcombo : c.isCombo = true) (o : Order) :
    o.comboFields c =
      c.legFields o.combo.orderComboLegs ++ pairs o.combo.smartComboRoutingParams :=
  if_pos hcombo

end Order

end BrokerWire
