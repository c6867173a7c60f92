import BrokerWire.Proofs.Event.CompletedOrder
import BrokerWire.Proofs.Event.OpenOrder
import BrokerWire.Proofs.Event.Truncation

namespace BrokerWire.Event

open FieldReader

/-- A message tells an event if its items tell the event to the reader of its kind. -/
theorem read_message {sv : ServerVersion} {kind : Inbound} {items : List Item} {event : Event}
    (h : Tells items (reader sv kind) event) (hplain : ∀ item ∈ items, item.IsPlain) :
    (read sv (Item.message (Numbered.code kind) items).payload).run
      (Item.message (Numbered.code kind) items).payload = (.ok event, []) := by
  have hrun := h hplain []
  rw [List.append_nil] at hrun
  rw [Item.payload_message]
  unfold read
  rw [run_bind, run_int]
  dsimp only
  rw [LawfulNumbered.ofCode?_code]
  exact hrun

/-- Whether a message is decoded as an event, with nothing of it left unread. -/
def ReadsAs (sv : ServerVersion) (message : Message) (event : Event) : Prop :=
  decode sv message.payload = .ok event ∧ cursor sv message.payload = message.payload.length

theorem readsAs_single {sv : ServerVersion} {kind : Inbound} {items : List Item}
    {told : FieldReader Notice} {n : Notice} (hkind : reader sv kind = single told)
    (h : Tells items told n) (hplain : ∀ item ∈ items, item.IsPlain) :
    ReadsAs sv (Item.message (Numbered.code kind) items) (.notice n) := by
  have hread : Tells items (reader sv kind) (.notice n) := by
    rw [hkind]
    exact h.final (.pure (Event.notice n))
  have hrun := read_message hread hplain
  refine ⟨congrArg Prod.fst hrun, ?_⟩
  rw [cursor, hrun]
  exact Nat.sub_zero _

/-- Old servers write the version of a message; with the others it is their own. -/
theorem tells_messageVersion (since sv : ServerVersion) (version : Int32) :
    Tells (if sv < since then [⟨.int, version⟩] else []) (messageVersion since sv)
      (if sv < since then version.toInt else sv) := by
  unfold messageVersion
  by_cases hsv : sv < since
  · rw [if_pos hsv, if_pos hsv, if_neg (Int.not_le.mpr hsv)]
    exact .map (.last <| .int <| .pure version) Int32.toInt
  · rw [if_neg hsv, if_neg hsv, if_pos (Int.not_lt.mp hsv)]
    exact .pure sv

theorem readsAs_openOrder {sv : ServerVersion} (hsv : Since.orderContainers ≤ sv)
    {unread : UnreadTexts} {c : Contract} {o : Order} {s : OrderState}
    (hmargins : Since.fullPreview ≤ sv → s.outsideRthMargins.length = 9)
    (hplain : ∀ item ∈ o.openItems sv unread c s, item.IsPlain) :
    ReadsAs sv (o.openMessage sv unread c s)
      (.notice (.openOrder o.identity.orderId c.inOrder (o.inOpen sv) (s.inOpen sv))) :=
  readsAs_single rfl (tells_openOrder hsv unread c o s hmargins) hplain

theorem readsAs_completedOrder {sv : ServerVersion} (hsv : ServerVersion.lowest ≤ sv)
    {profile : String} {c : Contract} {o : Order} {s : OrderState}
    (hplain : ∀ item ∈ o.completedItems sv profile c s, item.IsPlain) :
    ReadsAs sv (o.completedMessage sv profile c s)
      (.notice (.completedOrder c.inOrder (o.inCompleted sv) s.inCompleted)) :=
  readsAs_single rfl (tells_completedOrder hsv profile c o s) hplain

/-- A message about an order is decoded as all that it carries, with nothing left unread, and what
it carries is all that its writer put into it. If the records have nothing else, they come back as
they are. -/
theorem decode_orders (sv : ServerVersion) (unread : UnreadTexts) (c : Contract) (o : Order)
    (s : OrderState) :
    (Since.orderContainers ≤ sv →
      (Since.fullPreview ≤ sv → s.outsideRthMargins.length = 9) →
      (∀ item ∈ o.openItems sv unread c s, item.IsPlain) →
      ReadsAs sv (o.openMessage sv unread c s)
        (.notice (.openOrder o.identity.orderId c.inOrder (o.inOpen sv) (s.inOpen sv))) ∧
      (o.inOpen sv).openMessage sv unread c.inOrder (s.inOpen sv) =
        o.openMessage sv unread c s ∧
      (c.inOrder = c → o.inOpen sv = o → s.inOpen sv = s →
        ReadsAs sv (o.openMessage sv unread c s)
          (.notice (.openOrder o.identity.orderId c o s)))) ∧
    (ServerVersion.lowest ≤ sv →
      (∀ item ∈ o.completedItems sv unread.profile c s, item.IsPlain) →
      ReadsAs sv (o.completedMessage sv unread.profile c s)
        (.notice (.completedOrder c.inOrder (o.inCompleted sv) s.inCompleted)) ∧
      (o.inCompleted sv).completedMessage sv unread.profile c.inOrder s.inCompleted =
        o.completedMessage sv unread.profile c s ∧
      (c.inOrder = c → o.inCompleted sv = o → s.inCompleted = s →
        ReadsAs sv (o.completedMessage sv unread.profile c s)
          (.notice (.completedOrder c o s)))) := by
  constructor
  · intro hsv hmargins hplain
    have hread := readsAs_openOrder hsv hmargins hplain
    refine ⟨hread, ?_, fun hc ho hs => ?_⟩
    · rw [Order.openMessage, openItems_told]
      rfl
    · rwa [hc, ho, hs] at hread
  · intro hsv hplain
    have hread := readsAs_completedOrder hsv hplain
    refine ⟨hread, ?_, fun hc ho hs => ?_⟩
    · rw [Order.completedMessage, completedItems_told]
      rfl
    · rwa [hc, ho, hs] at hread

/-- An order with a hedge that waits for a time. -/
def waitingOrder : Order where
  identity := { orderId := 7, clientId := 1, permId := 1840 }
  terms := (Order.market (.known .buy) ⟨100, 0, by decide, Nat.zero_le Decimal.maxScale⟩).terms
  handling := { usePriceMgmtAlgo := some true }
  hedge := { hedgeType := "B", hedgeParam := "2" }
  conditional :=
    { conditions := [⟨.and, .time ⟨true, "20250601-14:30:00"⟩⟩], conditionsCancelOrder := true }

theorem decode_orders_waitingOrder :
    ReadsAs 176 (waitingOrder.openMessage 176 {} (.stock "IBM" "USD") { status := "Submitted" })
        (.notice (.openOrder 7 (.stock "IBM" "USD") waitingOrder { status := "Submitted" })) ∧
      ReadsAs 176
        (waitingOrder.completedMessage 176 "" (.stock "IBM" "USD") { status := "Filled" })
        (.notice (.completedOrder (.stock "IBM" "USD") (waitingOrder.inCompleted 176)
          { status := "Filled" })) := by
  have hopen : ∀ item ∈ waitingOrder.openItems 176 {} (.stock "IBM" "USD")
      { status := "Submitted" }, item.IsPlain := by
    decide +kernel
  have hcompleted : ∀ item ∈ waitingOrder.completedItems 176 "" (.stock "IBM" "USD")
      { status := "Filled" }, item.IsPlain := by
    decide +kernel
  obtain ⟨hread, -⟩ := decode_orders 176 {} (.stock "IBM" "USD") waitingOrder
    { status := "Submitted" }
  obtain ⟨-, hdone⟩ := decode_orders 176 {} (.stock "IBM" "USD") waitingOrder
    { status := "Filled" }
  exact ⟨(hread (by decide) (by decide) hopen).2.2 (by decide) (by decide) (by decide),
    (hdone (by decide) hcompleted).1⟩

end BrokerWire.Event
