import BrokerWire.Proofs.Event.OrderMessages

namespace BrokerWire

open Item (since)

/-- The version of messages about fills that has all their fields; servers that write no version
write these. -/
def newestFill : Int := 10

namespace Contract

/-- The contract of a fill, in a message of a version. -/
def filledItems (version : Int) (c : Contract) : List Item :=
  since 5 version [⟨.int, c.conId⟩] ++
  [⟨.text, c.symbol⟩, ⟨.optionalCode Security, c.secType⟩,
    ⟨.text, c.lastTradeDateOrContractMonth⟩, ⟨.optionalDouble, c.strike⟩,
    ⟨.optionalCode OptionRight, c.right⟩] ++
  since 9 version [⟨.text, c.multiplier⟩] ++
  [⟨.text, c.exchange⟩, ⟨.text, c.currency⟩, ⟨.text, c.localSymbol⟩] ++
  since 10 version [⟨.text, c.tradingClass⟩]

/-- What a message of a version carries of the contract of a fill. -/
def inFill (version : Int) (c : Contract) : Contract where
  conId := if 5 ≤ version then c.conId else 0
  symbol := c.symbol
  secType := c.secType
  lastTradeDateOrContractMonth := c.lastTradeDateOrContractMonth
  strike := c.strike
  right := c.right
  multiplier := if 9 ≤ version then c.multiplier else ""
  exchange := c.exchange
  currency := c.currency
  localSymbol := c.localSymbol
  tradingClass := if 10 ≤ version then c.tradingClass else ""

/-- The contract of a row of a portfolio. -/
def portfolioItems (version : Int32) (c : Contract) : List Item :=
  (if 6 ≤ version then [⟨.int, c.conId⟩] else []) ++
  [⟨.text, c.symbol⟩, ⟨.optionalCode Security, c.secType⟩,
    ⟨.text, c.lastTradeDateOrContractMonth⟩, ⟨.optionalDouble, c.strike⟩,
    ⟨.optionalCode OptionRight, c.right⟩] ++
  (if 7 ≤ version then [⟨.text, c.multiplier⟩] else []) ++
  (if 7 ≤ version then [⟨.text, c.primaryExchange⟩] else []) ++
  [⟨.text, c.currency⟩] ++
  (if 2 ≤ version then [⟨.text, c.localSymbol⟩] else []) ++
  (if 8 ≤ version then [⟨.text, c.tradingClass⟩] else [])

def inPortfolio (version : Int32) (c : Contract) : Contract where
  conId := if 6 ≤ version then c.conId else 0
  symbol := c.symbol
  secType := c.secType
  lastTradeDateOrContractMonth := c.lastTradeDateOrContractMonth
  strike := c.strike
  right := c.right
  multiplier := if 7 ≤ version then c.multiplier else ""
  primaryExchange := if 7 ≤ version then c.primaryExchange else ""
  currency := c.currency
  localSymbol := if 2 ≤ version then c.localSymbol else ""
  tradingClass := if 8 ≤ version then c.tradingClass else ""

end Contract

namespace Execution

/-- A fill behind its contract: the version of the message decides about some fields, and that of
the server about others. -/
def fillItems (sv : ServerVersion) (version : Int) (e : Execution) : List Item :=
  [⟨.text, e.execId⟩, ⟨.text, e.time⟩, ⟨.text, e.acctNumber⟩, ⟨.text, e.exchange⟩, ⟨.text, e.side⟩,
    ⟨.quantity, e.shares⟩, ⟨.double, e.price⟩] ++
  since 2 version [⟨.long, e.permId⟩] ++
  since 3 version [⟨.int, e.clientId⟩] ++
  since 4 version [⟨.int, e.liquidation⟩] ++
  since 6 version [⟨.quantity, e.cumQty⟩] ++
  since 6 version [⟨.double, e.avgPrice⟩] ++
  since 8 version [⟨.text, e.orderRef⟩] ++
  since 9 version [⟨.text, e.evRule⟩] ++
  since 9 version [⟨.double, e.evMultiplier⟩] ++
  since Since.modelCodes sv [⟨.text, e.modelCode⟩] ++
  since Since.lastLiquidity sv [⟨.int, e.lastLiquidity⟩] ++
  since Since.pendingRevisions sv [⟨.bool, e.pendingPriceRevision⟩] ++
  since Since.submitters sv [⟨.text, e.submitter⟩]

/-- A fill with the request that it answers, and its contract. -/
def items (sv : ServerVersion) (version : Int) (reqId : Int32) (c : Contract) (e : Execution) :
    List Item :=
  since 7 version [⟨.int, reqId⟩] ++ [⟨.int, e.orderId⟩] ++ c.filledItems version ++
  e.fillItems sv version

/-- The fields of a message that begins with its version. -/
def versionedItems (sv : ServerVersion) (version reqId : Int32) (c : Contract) (e : Execution) :
    List Item :=
  ⟨.int, version⟩ :: e.items sv version.toInt reqId c

/-- The message of a server that writes the version of the message. -/
def versionedMessage (sv : ServerVersion) (version reqId : Int32) (c : Contract) (e : Execution) :
    Message :=
  Item.message (Numbered.code Inbound.executionData) (e.versionedItems sv version reqId c)

/-- The message of a server that writes no version. -/
def message (sv : ServerVersion) (reqId : Int32) (c : Contract) (e : Execution) : Message :=
  Item.message (Numbered.code Inbound.executionData) (e.items sv newestFill reqId c)

/-- What a message of a version carries of a fill. -/
def inFill (sv : ServerVersion) (version : Int) (e : Execution) : Execution where
  orderId := e.orderId
  execId := e.execId
  time := e.time
  acctNumber := e.acctNumber
  exchange := e.exchange
  side := e.side
  shares := e.shares
  price := e.price
  permId := if 2 ≤ version then e.permId else 0
  clientId := if 3 ≤ version then e.clientId else 0
  liquidation := if 4 ≤ version then e.liquidation else 0
  cumQty := if 6 ≤ version then e.cumQty else none
  avgPrice := if 6 ≤ version then e.avgPrice else .zero
  orderRef := if 8 ≤ version then e.orderRef else ""
  evRule := if 9 ≤ version then e.evRule else ""
  evMultiplier := if 9 ≤ version then e.evMultiplier else .zero
  modelCode := if Since.modelCodes ≤ sv then e.modelCode else ""
  lastLiquidity := if Since.lastLiquidity ≤ sv then e.lastLiquidity else 0
  pendingPriceRevision := if Since.pendingRevisions ≤ sv then e.pendingPriceRevision else false
  submitter := if Since.submitters ≤ sv then e.submitter else ""

end Execution

namespace PortfolioItem

/-- A row of a portfolio, behind the version of the message. -/
def items (version : Int32) (p : PortfolioItem) : List Item :=
  [⟨.int, version⟩] ++ p.contract.portfolioItems version ++
  [⟨.quantity, p.position⟩, ⟨.double, p.marketPrice⟩, ⟨.double, p.marketValue⟩] ++
  (if 3 ≤ version then [⟨.double, p.averageCost⟩] else []) ++
  (if 3 ≤ version then [⟨.double, p.unrealizedPnl⟩] else []) ++
  (if 3 ≤ version then [⟨.double, p.realizedPnl⟩] else []) ++
  (if 4 ≤ version then [⟨.text, p.accountName⟩] else [])

def message (version : Int32) (p : PortfolioItem) : Message :=
  Item.message (Numbered.code Inbound.portfolioValue) (p.items version)

/-- What a message of a version carries of a row of a portfolio. -/
def told (version : Int32) (p : PortfolioItem) : PortfolioItem where
  contract := p.contract.inPortfolio version
  position := p.position
  marketPrice := p.marketPrice
  marketValue := p.marketValue
  averageCost := if 3 ≤ version then p.averageCost else .zero
  unrealizedPnl := if 3 ≤ version then p.unrealizedPnl else .zero
  realizedPnl := if 3 ≤ version then p.realizedPnl else .zero
  accountName := if 4 ≤ version then p.accountName else ""

end PortfolioItem

namespace Event

open FieldReader

theorem tells_filledContract (version : Int) (c : Contract) :
    Tells (c.filledItems version) (readFilledContract version) (c.inFill version) := by
  rw [Contract.filledItems, ← List.append_nil (since 10 version _)]
  simp only [List.append_assoc, List.cons_append, List.nil_append]
  exact .since (fun _ => tells_int _) <| .text <| .code <| .text <| .optionalDouble <| .code <|
    .since (fun _ => tells_text _) <| .text <| .text <| .text <| .since (fun _ => tells_text _) <|
    .pure _

theorem tells_fill (sv : ServerVersion) (version : Int) (e : Execution) :
    Tells (e.fillItems sv version) (readFill sv version e.orderId) (e.inFill sv version) := by
  rw [Execution.fillItems, ← List.append_nil (since Since.submitters sv _)]
  simp only [List.append_assoc, List.cons_append, List.nil_append]
  exact .text <| .text <| .text <| .text <| .text <| .quantity <| .double <|
    .since (fun _ => .last <| .long <| .pure _) <| .since (fun _ => tells_int _) <|
    .since (fun _ => tells_int _) <| .since (fun _ => .last <| .quantity <| .pure _) <|
    .since (fun _ => tells_double _) <| .since (fun _ => tells_text _) <|
    .since (fun _ => tells_text _) <| .since (fun _ => tells_double _) <|
    .since (fun _ => tells_text _) <| .since (fun _ => tells_int _) <|
    .since (fun _ => tells_bool _) <| .since (fun _ => tells_text _) <| .pure _

/-- What a fill is read as by a reader that knows the version of its message. -/
theorem tells_execution {sv : ServerVersion} {head : List Item} {version : Int}
    (hversion : Tells head (messageVersion Since.lastLiquidity sv) version) (reqId : Int32)
    (c : Contract) (e : Execution) :
    Tells (head ++ e.items sv version reqId c) (readExecution sv)
      (.execDetails (if 7 ≤ version then reqId else -1) (c.inFill version)
        (e.inFill sv version)) := by
  simp only [Execution.items, List.append_assoc, List.cons_append, List.nil_append]
  exact .bind hversion <| .since (fun _ => tells_int _) <| .int <|
    .bind (tells_filledContract version c) <| .final (tells_fill sv version e) <| .pure _

section

variable {version : Int} (hnewest : newestFill ≤ version)

include hnewest

/-- From the newest version of the message on, all versions have the same fields. -/
theorem known_newest {first : Int} (hfirst : first ≤ newestFill) :
    first ≤ version ↔ first ≤ newestFill :=
  iff_of_true (Int.le_trans hfirst hnewest) hfirst

theorem fillItems_newest (sv : ServerVersion) (reqId : Int32) (c : Contract) (e : Execution) :
    e.items sv version reqId c = e.items sv newestFill reqId c := by
  simp (disch := decide) only [Execution.items, Contract.filledItems, Execution.fillItems,
    Item.since, known_newest hnewest]

theorem inFill_newest (sv : ServerVersion) (c : Contract) (e : Execution) :
    c.inFill version = c.inFill newestFill ∧ e.inFill sv version = e.inFill sv newestFill := by
  constructor
  · simp (disch := decide) only [Contract.inFill, known_newest hnewest]
  · simp (disch := decide) only [Execution.inFill, known_newest hnewest]

end

theorem tells_portfolioContract (version : Int32) (c : Contract) :
    Tells (c.portfolioItems version) (readPortfolioContract version) (c.inPortfolio version) := by
  rw [Contract.portfolioItems, ← List.append_nil (if 8 ≤ version then _ else _)]
  simp only [List.append_assoc, List.cons_append, List.nil_append]
  exact .whenever (fun _ => tells_int _) <| .text <| .code <| .text <| .optionalDouble <| .code <|
    .whenever (fun _ => tells_text _) <| .whenever (fun _ => tells_text _) <| .text <|
    .whenever (fun _ => tells_text _) <| .whenever (fun _ => tells_text _) <| .pure _

theorem tells_portfolioItem (version : Int32) (p : PortfolioItem) :
    Tells (p.items version) readPortfolioValue (.updatePortfolio (p.told version)) := by
  rw [PortfolioItem.items, ← List.append_nil (if 4 ≤ version then _ else _)]
  simp only [List.append_assoc, List.cons_append, List.nil_append]
  exact .int <| .bind (tells_portfolioContract version p.contract) <| .quantity <| .double <|
    .double <| .whenever (fun _ => tells_double _) <| .whenever (fun _ => tells_double _) <|
    .whenever (fun _ => tells_double _) <| .whenever (fun _ => tells_text _) <| .pure _

/-- What is told of a fill is enough to write its message again. -/
theorem fillItems_told (sv : ServerVersion) (version : Int) (reqId : Int32) (c : Contract)
    (e : Execution) :
    (e.inFill sv version).items sv version (if 7 ≤ version then reqId else -1)
        (c.inFill version) =
      e.items sv version reqId c := by
  simp +contextual only [Execution.items, Contract.filledItems, Contract.inFill,
    Execution.fillItems, Execution.inFill, if_true]

theorem portfolioItems_told (version : Int32) (p : PortfolioItem) :
    (p.told version).items version = p.items version := by
  simp +contextual only [PortfolioItem.items, PortfolioItem.told, Contract.portfolioItems,
    Contract.inPortfolio, if_true]

theorem readsAs_versionedFill {sv : ServerVersion} (hsv : sv < Since.lastLiquidity)
    {version reqId : Int32} {c : Contract} {e : Execution}
    (hplain : ∀ item ∈ e.versionedItems sv version reqId c, item.IsPlain) :
    ReadsAs sv (e.versionedMessage sv version reqId c)
      (.notice (.execDetails (if 7 ≤ version.toInt then reqId else -1) (c.inFill version.toInt)
        (e.inFill sv version.toInt))) := by
  have hversion := tells_messageVersion Since.lastLiquidity sv version
  rw [if_pos hsv, if_pos hsv] at hversion
  exact readsAs_single rfl (tells_execution hversion reqId c e) hplain

theorem readsAs_fill {sv : ServerVersion} (hsv : Since.lastLiquidity ≤ sv) {reqId : Int32}
    {c : Contract} {e : Execution}
    (hplain : ∀ item ∈ e.items sv newestFill reqId c, item.IsPlain) :
    ReadsAs sv (e.message sv reqId c)
      (.notice (.execDetails reqId (c.inFill newestFill) (e.inFill sv newestFill))) := by
  have hnewest : newestFill ≤ sv := Int.le_trans (by decide) hsv
  have hrequest : (7 : Int) ≤ sv := Int.le_trans (by decide) hsv
  -- The version of the server stands for that of the message.
  have hversion : Tells [] (messageVersion Since.lastLiquidity sv) sv := by
    rw [messageVersion, if_pos hsv]
    exact .pure sv
  have htold := tells_execution hversion reqId c e
  obtain ⟨hcontract, hfill⟩ := inFill_newest hnewest sv c e
  rw [List.nil_append, fillItems_newest hnewest, if_pos hrequest, hcontract, hfill] at htold
  exact readsAs_single rfl htold hplain

theorem readsAs_portfolioItem {sv : ServerVersion} {version : Int32} {p : PortfolioItem}
    (hplain : ∀ item ∈ p.items version, item.IsPlain) :
    ReadsAs sv (p.message version) (.notice (.updatePortfolio (p.told version))) :=
  readsAs_single rfl (tells_portfolioItem version p) hplain

/-- A message of any version about a fill or a row of a portfolio is decoded as what the version
carries, with nothing left unread, and that is all that its writer put into it. Servers that write
no version of the messages about fills write all fields that such messages ever had. -/
theorem decode_message_versions (sv : ServerVersion) (version reqId : Int32) (c : Contract)
    (e : Execution) (p : PortfolioItem) :
    (sv < Since.lastLiquidity →
      (∀ item ∈ e.versionedItems sv version reqId c, item.IsPlain) →
      ReadsAs sv (e.versionedMessage sv version reqId c)
        (.notice (.execDetails (if 7 ≤ version.toInt then reqId else -1) (c.inFill version.toInt)
          (e.inFill sv version.toInt))) ∧
      (e.inFill sv version.toInt).versionedMessage sv version
          (if 7 ≤ version.toInt then reqId else -1) (c.inFill version.toInt) =
        e.versionedMessage sv version reqId c) ∧
    (Since.lastLiquidity ≤ sv →
      (∀ item ∈ e.items sv newestFill reqId c, item.IsPlain) →
      ReadsAs sv (e.message sv reqId c)
        (.notice (.execDetails reqId (c.inFill newestFill) (e.inFill sv newestFill))) ∧
      (e.inFill sv newestFill).message sv reqId (c.inFill newestFill) = e.message sv reqId c) ∧
    ((∀ item ∈ p.items version, item.IsPlain) →
      ReadsAs sv (p.message version) (.notice (.updatePortfolio (p.told version))) ∧
      (p.told version).message version = p.message version) := by
  refine ⟨fun hsv hplain => ⟨readsAs_versionedFill hsv hplain, ?_⟩,
    fun hsv hplain => ⟨readsAs_fill hsv hplain, ?_⟩,
    fun hplain => ⟨readsAs_portfolioItem hplain, ?_⟩⟩
  · rw [Execution.versionedMessage, Execution.versionedItems, fillItems_told]
    rfl
  · have htold := fillItems_told sv newestFill reqId c e
    rw [if_pos (by decide)] at htold
    rw [Execution.message, htold]
    rfl
  · rw [PortfolioItem.message, portfolioItems_told]
    rfl

/-- A purchase of a stock. -/
def purchase : Execution where
  orderId := 3
  execId := "0001"
  time := "20250601 14:30:00"
  acctNumber := "DU1"
  exchange := "ISLAND"
  side := "BOT"
  shares := some ⟨250, 0, by decide, Nat.zero_le Decimal.maxScale⟩
  permId := 1840
  clientId := 1
  orderRef := "first"
  modelCode := "growth"
  lastLiquidity := 1

/-- What is held of the stock after the purchase. -/
def holding : PortfolioItem where
  contract := .stock "IBM" "USD"
  position := some ⟨250, 0, by decide, Nat.zero_le Decimal.maxScale⟩
  accountName := "DU1"

/-- A message of a negative version has the first fields only, one of version 6 has no reference
of the order, and one without a version has everything. -/
theorem decode_message_versions_purchase :
    ReadsAs 100 (purchase.versionedMessage 100 (-4) 9 (.stock "IBM" "USD"))
        (.notice (.execDetails (-1) (.stock "IBM" "USD")
          { purchase with
            permId := 0, clientId := 0, orderRef := "", modelCode := "", lastLiquidity := 0 })) ∧
      ReadsAs 135 (purchase.versionedMessage 135 6 9 (.stock "IBM" "USD"))
        (.notice (.execDetails (-1) (.stock "IBM" "USD")
          { purchase with orderRef := "", lastLiquidity := 0 })) ∧
      ReadsAs 136 (purchase.message 136 9 (.stock "IBM" "USD"))
        (.notice (.execDetails 9 (.stock "IBM" "USD") purchase)) ∧
      ReadsAs 176 (holding.message 3)
        (.notice (.updatePortfolio { holding with
          contract := { (Contract.stock "IBM" "USD") with exchange := "" }
          accountName := "" })) := by
  have hfirst : ∀ item ∈ purchase.versionedItems 100 (-4) 9 (.stock "IBM" "USD"),
      item.IsPlain := by
    decide +kernel
  have hsixth : ∀ item ∈ purchase.versionedItems 135 6 9 (.stock "IBM" "USD"), item.IsPlain := by
    decide +kernel
  have hnewest : ∀ item ∈ purchase.items 136 newestFill 9 (.stock "IBM" "USD"), item.IsPlain := by
    decide +kernel
  have hheld : ∀ item ∈ holding.items 3, item.IsPlain := by
    decide +kernel
  have hold := (decode_message_versions 100 (-4) 9 (.stock "IBM" "USD") purchase {}).1
  have hlater := (decode_message_versions 135 6 9 (.stock "IBM" "USD") purchase {}).1
  have hnew := (decode_message_versions 136 6 9 (.stock "IBM" "USD") purchase {}).2.1
  have hrow := (decode_message_versions 176 3 9 (.stock "IBM" "USD") purchase holding).2.2
  exact ⟨(hold (by decide) hfirst).1, (hlater (by decide) hsixth).1,
    (hnew (by decide) hnewest).1, (hrow hheld).1⟩

end Event

end BrokerWire
