import BrokerWire.Proofs.Event.OrderGroups
import BrokerWire.Proofs.Request.OrderLayout
import BrokerWire.Proofs.Wire.Delimiting
import BrokerWire.Request.Message

namespace BrokerWire

open Message (fieldOctets)
open Utf8 (IsTerminable)
open BrokerWire.Field (since pairs underlying)

/-- Whether a reader takes exactly the fields of a group, whatever stands behind them, and answers a
value. -/
def FieldReader.Recovers {α : Type} (reader : FieldReader α) (group : List String) (value : α) :
    Prop :=
  ∀ rest, reader.run (group.flatMap fieldOctets ++ rest) = (.ok value, rest)

open FieldReader (Recovers)

theorem Tells.recovers {α : Type} {layout : List Item} {reader : FieldReader α} {value : α}
    {group : List String} (h : Tells layout reader value) (hplain : ∀ item ∈ layout, item.IsPlain)
    (hgroup : layout.flatMap Item.fields = group) : Recovers reader group value := by
  intro rest
  have hrun := h hplain rest
  rw [← hgroup, List.flatMap_assoc]
  exact hrun

theorem Item.flatMap_fields_counted {α : Type} (items : α → List Item) (values : List α) :
    (Item.counted items values).flatMap Item.fields =
      Field.count values :: values.flatMap fun value => (items value).flatMap Item.fields := by
  rw [Item.counted, List.flatMap_cons, List.flatMap_assoc]
  rfl

theorem DeltaNeutralOrder.flatMap_fields (d : DeltaNeutralOrder) :
    (d.items true).flatMap Item.fields = Field.hedgeOrder d := by
  unfold items Field.hedgeOrder
  by_cases htype : d.orderType = ""
  · have hset : ¬ d.isSet = true := by simpa [isSet] using htype
    rw [if_pos htype, if_neg hset]
    rfl
  · have hset : d.isSet = true := by simpa [isSet] using htype
    rw [if_neg htype, if_pos hset]
    rfl

theorem OrderVolatility.flatMap_fields (v : OrderVolatility) :
    (v.items true).flatMap Item.fields = v.fields := by
  rw [items, List.flatMap_append, List.flatMap_append, DeltaNeutralOrder.flatMap_fields]
  rfl

theorem TagValue.flatMap_fields (params : List TagValue) :
    (Item.counted TagValue.items params).flatMap Item.fields = pairs params :=
  Item.flatMap_fields_counted TagValue.items params

theorem Contract.flatMap_fields (c : Contract) (prices : List (Option Double)) :
    (c.comboItems prices).flatMap Item.fields = c.comboLegsDescrip :: c.legFields prices := by
  rw [comboItems, List.flatMap_append, List.flatMap_append, Item.flatMap_fields_counted,
    Item.flatMap_fields_counted, legFields, List.map_eq_flatMap]
  rfl

theorem ScaleParams.flatMap_fields (s : ScaleParams) :
    s.items.flatMap Item.fields = s.fields := by
  unfold items fields
  cases s.hasAdjustments <;> rfl

theorem OrderHedge.flatMap_fields (h : OrderHedge) : h.items.flatMap Item.fields = h.fields := by
  unfold items fields
  by_cases htype : h.hedgeType = ""
  · rw [if_pos htype, if_neg (not_not.mpr htype)]
    rfl
  · rw [if_neg htype, if_pos htype]
    rfl

theorem DeltaNeutralContract.flatMap_fields (d : Option DeltaNeutralContract) :
    (DeltaNeutralContract.items d).flatMap Item.fields = underlying d := by
  cases d <;> rfl

theorem OrderAlgo.flatMap_fields (a : OrderAlgo) : a.items.flatMap Item.fields = a.fields := by
  unfold items fields
  by_cases hstrategy : a.algoStrategy = ""
  · rw [if_pos hstrategy, if_neg (not_not.mpr hstrategy)]
    rfl
  · rw [if_neg hstrategy, if_pos hstrategy, List.flatMap_append, TagValue.flatMap_fields]
    rfl

theorem PegBenchParams.flatMap_fields (sv : ServerVersion) (o : Order) :
    (o.pegBench.items sv o.terms.orderType).flatMap Item.fields =
      since Since.benchmarkPegs sv o.pegBenchFields := by
  unfold items since
  by_cases hsv : Since.benchmarkPegs ≤ sv
  · rw [if_pos hsv, Order.pegBenchFields]
    by_cases hkind : o.terms.orderType = some (.known .peggedToBenchmark)
    · have hbenchmarked : Order.IsBenchmarked sv o.terms.orderType := ⟨hsv, hkind⟩
      have hof : o.isOfKind .peggedToBenchmark = true := decide_eq_true hkind
      rw [if_pos hbenchmarked, hof]
      rfl
    · have hbenchmarked : ¬ Order.IsBenchmarked sv o.terms.orderType := fun h => hkind h.2
      have hof : o.isOfKind .peggedToBenchmark = false := decide_eq_false hkind
      rw [if_neg hbenchmarked, hof]
      rfl
  · have hbenchmarked : ¬ Order.IsBenchmarked sv o.terms.orderType := fun h => hsv h.1
    rw [if_neg hbenchmarked, if_neg hsv]
    rfl

namespace Order

open BrokerWire.Field

/-- The values of the groups that readers of open orders know, without the numbers of records. -/
def groupValues (sv : ServerVersion) (c : Contract) (o : Order) : List Item :=
  o.volatility.items true ++
    (if c.isCombo then
      c.comboLegs.flatMap ComboLeg.items ++
        o.combo.orderComboLegs.flatMap (fun price => [⟨.optionalDouble, price⟩]) ++
        o.combo.smartComboRoutingParams.flatMap TagValue.items
    else []) ++
    o.scale.items ++ o.hedge.items ++ DeltaNeutralContract.items c.deltaNeutralContract ++
    ([⟨.text, o.algo.algoStrategy⟩] ++
      if o.algo.algoStrategy = "" then [] else o.algo.algoParams.flatMap TagValue.items) ++
    o.pegBench.items sv o.terms.orderType

/-- Records of a group that fits into a frame are plain with their number. -/
theorem plain_counted {α : Type} {items : α → List Item} {values : List α} {group : List String}
    (hvalues : ∀ item ∈ values.flatMap items, item.IsPlain) (hfew : values.length ≤ group.length)
    (hfits : group.length ≤ maxPayload) : ∀ item ∈ Item.counted items values, item.IsPlain := by
  change _ ≤ 16777215 at hfits
  exact List.forall_mem_cons.mpr ⟨⟨show values.length < 2 ^ 31 by omega, trivial⟩, hvalues⟩

theorem length_le_length_pairs (params : List TagValue) : params.length ≤ (pairs params).length :=
  (length_le_length_flatMap (fun _ => List.cons_ne_nil _ _) params).trans (Nat.le_succ _)

/-- Legs stand behind a description in the messages that are read. -/
theorem recovers_legs {version : Int} (hv : 29 ≤ version) {c : Contract}
    {prices : List (Option Double)} (hfits : (c.legFields prices).length ≤ maxPayload)
    (hlegs : ∀ item ∈ c.comboLegs.flatMap ComboLeg.items, item.IsPlain)
    (hprices : ∀ item ∈ prices.flatMap (fun price => ([⟨.optionalDouble, price⟩] : List Item)),
      item.IsPlain)
    {description : String} (hdescription : IsTerminable description) :
    Recovers (Event.readComboLegs version) (description :: c.legFields prices)
      (description, c.comboLegs, prices) := by
  have htells := Event.tells_comboLegs hv { c with comboLegsDescrip := description } prices
  have hlength : (c.legFields prices).length =
      (c.comboLegs.flatMap orderedLeg).length + 1 + (prices.length + 1) := by
    simp only [Contract.legFields, List.length_append, List.length_cons, List.length_map]
  have hfew := @length_le_length_flatMap _ orderedLeg (fun _ => List.cons_ne_nil _ _) c.comboLegs
  refine htells.recovers ?_ (Contract.flatMap_fields _ prices)
  simp only [Contract.comboItems, List.forall_mem_append, List.forall_mem_singleton]
  exact ⟨⟨⟨hdescription, trivial⟩, plain_counted hlegs (by omega) hfits⟩,
    plain_counted hprices (by omega) hfits⟩

theorem recovers_pairs {params : List TagValue} (hfits : (pairs params).length ≤ maxPayload)
    (hplain : ∀ item ∈ params.flatMap TagValue.items, item.IsPlain) :
    Recovers (FieldReader.counted Event.readTagValue) (pairs params) params :=
  (Tells.counted fun p _ => Event.tells_tagValue p).recovers
    (plain_counted hplain (length_le_length_pairs params) hfits) (TagValue.flatMap_fields params)

theorem recovers_algo {version : Int} (hv : 21 ≤ version) {a : OrderAlgo}
    (hfits : a.fields.length ≤ maxPayload) (hstrategy : IsTerminable a.algoStrategy)
    (hparams : ∀ item ∈ if a.algoStrategy = "" then [] else a.algoParams.flatMap TagValue.items,
      item.IsPlain) :
    Recovers (Event.readAlgo version) a.fields a.told := by
  refine (Event.tells_algo hv a).recovers ?_ (OrderAlgo.flatMap_fields a)
  unfold OrderAlgo.items
  refine List.forall_mem_append.mpr ⟨List.forall_mem_singleton.mpr ⟨hstrategy, trivial⟩, ?_⟩
  by_cases hnone : a.algoStrategy = ""
  · rw [if_pos hnone]
    exact nofun
  · rw [if_neg hnone] at hparams ⊢
    rw [OrderAlgo.fields, if_pos hnone, List.length_append] at hfits
    have hfew := length_le_length_pairs a.algoParams
    exact plain_counted hparams hfew (by omega)

/-- The message of an order is made of groups, and the readers of open orders recover those that
they know; only what an earlier field of a group suppresses is lost. -/
theorem groups_recovered {sv : ServerVersion} {orderId : Int32} {c : Contract} {o : Order}
    {frame : Bytes} (hframe : ((Request.placeOrder orderId c o).message sv).encode = .ok frame)
    (hplain : ∀ item ∈ o.groupValues sv c, item.IsPlain) (version : Int) :
    (o.groups sv orderId c).flatten = o.fields sv orderId c ∧
    (31 ≤ version → Recovers (Event.readVolatility version true) o.volatility.fields
      (o.volatility.told true)) ∧
    (c.isCombo →
      o.comboFields c =
        c.legFields o.combo.orderComboLegs ++ pairs o.combo.smartComboRoutingParams ∧
      (∀ description, IsTerminable description → 29 ≤ version →
        Recovers (Event.readComboLegs version)
          (description :: c.legFields o.combo.orderComboLegs)
          (description, c.comboLegs, o.combo.orderComboLegs)) ∧
      Recovers (FieldReader.counted Event.readTagValue) (pairs o.combo.smartComboRoutingParams)
        o.combo.smartComboRoutingParams) ∧
    (28 ≤ version → Recovers (Event.readScale version) o.scale.fields o.scale.told) ∧
    (24 ≤ version → Recovers (Event.readHedge version) o.hedge.fields o.hedge.told) ∧
    (20 ≤ version → Recovers (Event.readUnderlying version) (underlying c.deltaNeutralContract)
      c.deltaNeutralContract) ∧
    (21 ≤ version → Recovers (Event.readAlgo version) o.algo.fields o.algo.told) ∧
    Recovers (Event.readPegBench sv o.terms.orderType)
      (since Since.benchmarkPegs sv o.pegBenchFields)
      (o.pegBench.told sv o.terms.orderType) := by
  simp only [groupValues, List.forall_mem_append] at hplain
  obtain ⟨⟨⟨⟨⟨⟨hvolatility, hcombo⟩, hscale⟩, hhedge⟩, hunderlying⟩, hstrategy, hparams⟩,
    hpegBench⟩ := hplain
  rw [Message.encode_eq] at hframe
  obtain ⟨hlength, -⟩ := (Frame.encode_eq_ok_iff _ _).mp hframe
  have hfits {group : List String} (hgroup : group ∈ o.groups sv orderId c) :
      group.length ≤ maxPayload := by
    have hinfix := List.infix_of_mem_flatten hgroup
    rw [flatten_groups] at hinfix
    exact hinfix.length_le.trans (Message.length_fields_le hlength)
  refine ⟨flatten_groups sv orderId c o, fun hv => ?_, fun his => ?_, fun hv => ?_, fun hv => ?_,
    fun hv => ?_, fun hv => ?_, ?_⟩
  · exact (Event.tells_volatility hv true _).recovers hvolatility
      (OrderVolatility.flatMap_fields _)
  · rw [if_pos his, List.forall_mem_append, List.forall_mem_append] at hcombo
    obtain ⟨⟨hlegs, hprices⟩, hrouting⟩ := hcombo
    have hfields := comboFields_of_isCombo his o
    have hboth := hfits (show o.comboFields c ∈ o.groups sv orderId c by simp [groups])
    rw [hfields, List.length_append] at hboth
    exact ⟨hfields, fun description hdescription hv =>
      recovers_legs hv (by omega) hlegs hprices hdescription, recovers_pairs (by omega) hrouting⟩
  · exact (Event.tells_scale hv _).recovers hscale (ScaleParams.flatMap_fields _)
  · exact (Event.tells_hedge hv _).recovers hhedge (OrderHedge.flatMap_fields _)
  · exact (Event.tells_underlying hv _).recovers hunderlying
      (DeltaNeutralContract.flatMap_fields _)
  · exact recovers_algo hv (hfits (by simp [groups])) (hstrategy _ List.mem_cons_self).1 hparams
  · exact (Event.tells_pegBench sv _ _).recovers hpegBench (PegBenchParams.flatMap_fields sv o)

/-- A combination of two legs. -/
def spread : Contract where
  secType := some (.known .combo)
  comboLegs := [{ conId := 1, ratio := 1, action := some (.known .buy) },
    { conId := 2, ratio := 2, action := some (.known .sell), exemptCode := 0 }]

/-- A ladder that moves, with a hedge and an algorithm. -/
def laddered : Order where
  scale :=
    { initLevelSize := some 10, priceIncrement := some (.infinity false), randomPercent := true }
  volatility := { volatilityType := some 1, deltaNeutral := { orderType := "MKT", conId := 3 } }
  combo :=
    { orderComboLegs := [none, some .zero]
      smartComboRoutingParams := [⟨"NonGuaranteed", "1"⟩] }
  hedge := { hedgeType := "D" }
  algo := { algoParams := [⟨"adaptivePriority", "Urgent"⟩] }

/-- The ladder and the legs come back, and the parameters of an algorithm without a name do not. -/
theorem groups_recovered_laddered :
    Recovers (Event.readScale 28) laddered.scale.fields laddered.scale ∧
      Recovers (Event.readComboLegs 29) ("two legs" :: spread.legFields [none, some .zero])
        ("two legs", spread.comboLegs, [none, some .zero]) ∧
      Recovers (Event.readAlgo 21) laddered.algo.fields {} := by
  have hlength : ((Request.placeOrder 7 spread laddered).message 188).length ≤ maxPayload := by
    decide +kernel
  have hframe := (Message.encode_eq _).trans
    ((Frame.encode_eq_ok_iff _ _).mpr ⟨(Message.length_payload _).trans_le hlength, rfl⟩)
  have hplain : ∀ item ∈ laddered.groupValues 188 spread, item.IsPlain := by decide +kernel
  have hscale := groups_recovered hframe hplain 28
  have hlegs := groups_recovered hframe hplain 29
  have halgo := groups_recovered hframe hplain 21
  exact ⟨hscale.2.2.2.1 (by decide), (hlegs.2.2.1 rfl).2.1 _ (by decide) (by decide),
    halgo.2.2.2.2.2.2.1 (by decide)⟩

end Order

end BrokerWire
