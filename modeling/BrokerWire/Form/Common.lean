import BrokerWire.Form.Basic
import BrokerWire.Record.Common

namespace BrokerWire

def TagValue.members : List (Member TagValue) :=
  [
    .of "tag" (·.tag) fun v r => { r with tag := v },
    .of "value" (·.value) fun v r => { r with value := v }
  ]

instance : JsonForm TagValue := Member.form TagValue.members {}

def SoftDollarTier.members : List (Member SoftDollarTier) :=
  [
    .of "name" (·.name) fun v r => { r with name := v },
    .of "value" (·.value) fun v r => { r with value := v },
    .of "displayName" (·.displayName) fun v r => { r with displayName := v }
  ]

instance : JsonForm SoftDollarTier := Member.form SoftDollarTier.members {}

def FamilyCode.members : List (Member FamilyCode) :=
  [
    .of "accountId" (·.accountId) fun v r => { r with accountId := v },
    .of "familyCode" (·.familyCode) fun v r => { r with familyCode := v }
  ]

instance : JsonForm FamilyCode := Member.form FamilyCode.members {}

def NewsProvider.members : List (Member NewsProvider) :=
  [
    .of "code" (·.code) fun v r => { r with code := v },
    .of "name" (·.name) fun v r => { r with name := v }
  ]

instance : JsonForm NewsProvider := Member.form NewsProvider.members {}

def HistogramEntry.members : List (Member HistogramEntry) :=
  [
    .of "price" (·.price) fun v r => { r with price := v },
    .opt "size" (·.size) fun v r => { r with size := v }
  ]

instance : JsonForm HistogramEntry := Member.form HistogramEntry.members {}

def PriceIncrement.members : List (Member PriceIncrement) :=
  [
    .of "lowEdge" (·.lowEdge) fun v r => { r with lowEdge := v },
    .of "increment" (·.increment) fun v r => { r with increment := v }
  ]

instance : JsonForm PriceIncrement := Member.form PriceIncrement.members {}

def IneligibilityReason.members : List (Member IneligibilityReason) :=
  [
    .of "id" (·.id) fun v r => { r with id := v },
    .of "description" (·.description) fun v r => { r with description := v }
  ]

instance : JsonForm IneligibilityReason := Member.form IneligibilityReason.members {}

def SmartComponent.members : List (Member SmartComponent) :=
  [
    .of "bitNumber" (·.bitNumber) fun v r => { r with bitNumber := v },
    .of "exchange" (·.exchange) fun v r => { r with exchange := v },
    .of "exchangeLetter" (·.exchangeLetter) fun v r => { r with exchangeLetter := v }
  ]

instance : JsonForm SmartComponent := Member.form SmartComponent.members {}

def DepthMarket.members : List (Member DepthMarket) :=
  [
    .of "exchange" (·.exchange) fun v r => { r with exchange := v },
    .of "secType" (·.secType) fun v r => { r with secType := v },
    .of "listingExch" (·.listingExch) fun v r => { r with listingExch := v },
    .of "serviceDataType" (·.serviceDataType) fun v r => { r with serviceDataType := v },
    .opt "aggGroup" (·.aggGroup) fun v r => { r with aggGroup := v }
  ]

instance : JsonForm DepthMarket := Member.form DepthMarket.members {}

end BrokerWire
