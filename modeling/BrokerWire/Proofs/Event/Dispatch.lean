import BrokerWire.Proofs.Event.Layout
import BrokerWire.Proofs.Session.Unhandled

namespace BrokerWire.Event

open FieldReader
open Message (fieldOctets)

/-- The types of price ticks that bring a size along, and the types of their sizes. -/
def sizePairs : List (TickType × TickType) :=
  [(.bid, .bidSize), (.ask, .askSize), (.last, .lastSize), (.delayedBid, .delayedBidSize),
    (.delayedAsk, .delayedAskSize), (.delayedLast, .delayedLastSize)]

theorem pairedSize_eq_some_iff {type sizeType : TickType} :
    type.pairedSize = some sizeType ↔ (type, sizeType) ∈ sizePairs := by
  constructor
  · intro h
    unfold TickType.pairedSize at h
    split at h <;> cases h <;> decide
  · intro h
    simp only [sizePairs, List.mem_cons, Prod.mk.injEq, List.not_mem_nil, or_false] at h
    obtain ⟨rfl, rfl⟩ | ⟨rfl, rfl⟩ | ⟨rfl, rfl⟩ | ⟨rfl, rfl⟩ | ⟨rfl, rfl⟩ | ⟨rfl, rfl⟩ := h <;> rfl

/-- The fields of a price tick: the request, the type, the price, the size and the mask of flags. -/
def priceFields : FieldReader (Int32 × TickType × Double × Option Decimal × Int32) := do
  skip
  return (← int, ← tickType, ← double, ← decimal, ← int)

/-- What stands in front of bars: the request, the range as far as it comes along, and how many
bars there are. -/
def barsHead (sv : ServerVersion) : FieldReader (Int32 × Option (String × String) × Nat) := do
  whenever (sv < Since.syntheticBars) skip ()
  let reqId ← int
  let range ← whenever (sv < Since.historicalRangeApart) (some <$> readRange) none
  return (reqId, range, ← count)

/-- What stands in front of the rows of a scanner: the request and how many rows there are. -/
def scannerHead : FieldReader (Int32 × Nat) := do
  skip
  return (← int, ← count)

/-- The notice of a row of a scanner. -/
def scannerNotice (reqId : Int32) (row : ScannerRow) : Notice :=
  .scannerData reqId row.rank row.details row.distance row.benchmark row.projection row.legs

/-- What the fields behind the code of a message are told as: the request that the message names,
and the notices in order. -/
inductive ToldAs (sv : ServerVersion) :
    Inbound → (fields : Bytes) → (request : Option Int32) → List Notice → Prop
  | price {fields unread : Bytes} {reqId mask : Int32} {type : TickType} {price : Double}
      {size : Option Decimal}
      (hfields : priceFields.run fields = (.ok (reqId, type, price, size, mask), unread))
      (hpair : ∀ sizeType, (type, sizeType) ∉ sizePairs) :
      ToldAs sv .tickPrice fields (some reqId) [.tickPrice reqId type price (priceFlags sv mask)]
  | priceAndSize {fields unread : Bytes} {reqId mask : Int32} {type sizeType : TickType}
      {price : Double} {size : Option Decimal}
      (hfields : priceFields.run fields = (.ok (reqId, type, price, size, mask), unread))
      (hpair : (type, sizeType) ∈ sizePairs) :
      ToldAs sv .tickPrice fields (some reqId)
        [.tickPrice reqId type price (priceFlags sv mask), .tickSize reqId sizeType size]
  | barsAndEnd {fields rows unread : Bytes} {reqId : Int32} {start finish : String}
      {bars : List Bar} (hsv : sv < 196)
      (hhead : (barsHead sv).run fields = (.ok (reqId, some (start, finish), bars.length), rows))
      (hrows : Rows (readBar sv) rows bars unread) :
      ToldAs sv .historicalData fields (some reqId)
        (bars.map (.historicalData reqId) ++ [.historicalDataEnd reqId start finish])
  | bars {fields rows unread : Bytes} {reqId : Int32} {bars : List Bar} (hsv : 196 ≤ sv)
      (hhead : (barsHead sv).run fields = (.ok (reqId, none, bars.length), rows))
      (hrows : Rows (readBar sv) rows bars unread) :
      ToldAs sv .historicalData fields (some reqId) (bars.map (.historicalData reqId))
  | scanner {fields rows unread : Bytes} {reqId : Int32} {found : List ScannerRow}
      (hhead : scannerHead.run fields = (.ok (reqId, found.length), rows))
      (hrows : Rows readScannerRow rows found unread) :
      ToldAs sv .scannerData fields (some reqId)
        (found.map (scannerNotice reqId) ++ [.scannerDataEnd reqId])
  | tick {fields behindId behindType unread : Bytes} {reqId type : Int32} {n : Notice}
      {q : FieldReader Call} {call : Call} (hid : BeginsInt fields reqId behindId)
      (htype : BeginsInt behindId type behindType) (hlayout : tickLayout type = some q)
      (hread : q.run fields = (.ok call, unread)) (hcall : n.toCall = call) :
      ToldAs sv .tickByTick fields call.request [n]
  | one {kind : Inbound} {fields unread : Bytes} {n : Notice} {q : FieldReader Call} {call : Call}
      (hlayout : layout sv kind = some q) (hread : q.run fields = (.ok call, unread))
      (hcall : n.toCall = call) : ToldAs sv kind fields call.request [n]

/-- All notices of a message are about the request that it names. -/
theorem ToldAs.request {sv : ServerVersion} {kind : Inbound} {fields : Bytes}
    {request : Option Int32} {notices : List Notice} (h : ToldAs sv kind fields request notices) :
    ∀ n ∈ notices, n.request? = request := by
  intro n hm
  cases h with
  | price =>
    rw [List.mem_singleton.mp hm]
    rfl
  | priceAndSize =>
    rw [List.mem_pair] at hm
    obtain rfl | rfl := hm <;> rfl
  | barsAndEnd =>
    rw [List.mem_append, List.mem_map, List.mem_singleton] at hm
    obtain ⟨bar, -, rfl⟩ | rfl := hm <;> rfl
  | bars =>
    obtain ⟨bar, -, rfl⟩ := List.mem_map.mp hm
    rfl
  | scanner =>
    rw [List.mem_append, List.mem_map, List.mem_singleton] at hm
    obtain ⟨row, -, rfl⟩ | rfl := hm <;> rfl
  | tick _ _ _ _ hcall | one _ _ hcall =>
    rw [List.mem_singleton.mp hm, ← hcall]
    rfl

theorem readTickPrice_eq (sv : ServerVersion) :
    readTickPrice sv = priceFields.bind fun (reqId, type, price, size, mask) =>
      .done (.tickPrice reqId type price size (priceFlags sv mask)) := by
  simp only [readTickPrice, priceFields, bind_eq, pure_eq, bind_bind, pure_bind_eq]

theorem readHistoricalData_eq (sv : ServerVersion) :
    readHistoricalData sv = (barsHead sv).bind fun (reqId, range, n) =>
      (list n (readBar sv)).bind fun bars => .done (.historicalData reqId bars range) := by
  simp only [readHistoricalData, barsHead, counted, bind_eq, pure_eq, bind_bind, pure_bind_eq]

theorem readScannerData_eq :
    readScannerData = scannerHead.bind fun (reqId, n) =>
      (list n readScannerRow).bind fun rows => .done (.scannerData reqId rows) := by
  simp only [readScannerData, scannerHead, counted, bind_eq, pure_eq, bind_bind, pure_bind_eq]

theorem toldAs_price {sv : ServerVersion} {fields unread : Bytes} {event : Event}
    (h : (readTickPrice sv).run fields = (.ok event, unread)) :
    ∃ request, ToldAs sv .tickPrice fields request event.notices := by
  rw [readTickPrice_eq] at h
  obtain ⟨⟨reqId, type, price, size, mask⟩, rest, hfields, hdone⟩ := run_bind_eq_ok.mp h
  cases hdone
  refine ⟨some reqId, ?_⟩
  cases hsizeType : type.pairedSize with
  | none =>
    have hpair : ∀ sizeType, (type, sizeType) ∉ sizePairs := by
      intro sizeType hm
      rw [pairedSize_eq_some_iff.mpr hm] at hsizeType
      cases hsizeType
    rw [notices, hsizeType]
    exact .price hfields hpair
  | some sizeType =>
    rw [notices, hsizeType]
    exact .priceAndSize hfields (pairedSize_eq_some_iff.mp hsizeType)

/-- The range of bars comes along exactly with old servers. -/
theorem range_of_barsHead {sv : ServerVersion} {fields rows : Bytes} {reqId : Int32} {n : Nat}
    {range : Option (String × String)}
    (h : (barsHead sv).run fields = (.ok (reqId, range, n), rows)) :
    range.isSome = true ↔ sv < 196 := by
  obtain ⟨⟨⟩, _, -, h⟩ := run_bind_eq_ok.mp h
  obtain ⟨_, _, -, h⟩ := run_bind_eq_ok.mp h
  obtain ⟨found, _, hrange, h⟩ := run_bind_eq_ok.mp h
  obtain ⟨_, _, -, h⟩ := run_bind_eq_ok.mp h
  cases h
  by_cases hsv : sv < 196
  · rw [whenever, if_pos (decide_eq_true hsv)] at hrange
    obtain ⟨ends, _, -, hsome⟩ := run_bind_eq_ok.mp hrange
    cases hsome
    exact iff_of_true rfl hsv
  · rw [whenever, if_neg (by rwa [decide_eq_true_eq])] at hrange
    cases hrange
    exact iff_of_false (by decide) hsv

theorem toldAs_bars {sv : ServerVersion} {fields unread : Bytes} {event : Event}
    (h : (readHistoricalData sv).run fields = (.ok event, unread)) :
    ∃ request, ToldAs sv .historicalData fields request event.notices := by
  rw [readHistoricalData_eq] at h
  obtain ⟨⟨reqId, range, n⟩, rows, hhead, h⟩ := run_bind_eq_ok.mp h
  obtain ⟨bars, rest, hlist, hdone⟩ := run_bind_eq_ok.mp h
  cases hdone
  obtain ⟨rfl, hrows⟩ := rows_of_list hlist
  have hrange := range_of_barsHead hhead
  refine ⟨some reqId, ?_⟩
  cases range with
  | none =>
    have hsv : 196 ≤ sv := by
      by_contra hlt
      cases hrange.mpr (not_le.mp hlt)
    have hnotices : notices (.historicalData reqId bars none) =
        bars.map (.historicalData reqId) := List.append_nil _
    rw [hnotices]
    exact .bars hsv hhead hrows
  | some ends => exact .barsAndEnd (hrange.mp rfl) hhead hrows

theorem toldAs_scanner {sv : ServerVersion} {fields unread : Bytes} {event : Event}
    (h : readScannerData.run fields = (.ok event, unread)) :
    ∃ request, ToldAs sv .scannerData fields request event.notices := by
  rw [readScannerData_eq] at h
  obtain ⟨⟨reqId, n⟩, rows, hhead, h⟩ := run_bind_eq_ok.mp h
  obtain ⟨found, rest, hlist, hdone⟩ := run_bind_eq_ok.mp h
  cases hdone
  obtain ⟨rfl, hrows⟩ := rows_of_list hlist
  exact ⟨some reqId, .scanner hhead hrows⟩

/-- The first fields of a single tick: the request, the type and the time. -/
theorem run_tickHead {fields behindId behindType behindTime : Bytes} {reqId type : Int32}
    {time : Int64} (hid : int.run fields = (.ok reqId, behindId))
    (htype : int.run behindId = (.ok type, behindType))
    (htime : long.run behindType = (.ok time, behindTime)) (name : String)
    (arguments : Int32 → List Json) (slots : List Slot) :
    (gather (.request :: .told int arguments :: .value long :: slots) ⟨none, name, []⟩).run
        fields =
      (gather slots ⟨some reqId, name, toJson reqId :: (arguments type ++ [toJson time])⟩).run
        behindTime := by
  simp only [gather, Slot.value, run_bind, hid, htype, htime, List.nil_append,
    List.cons_append]

theorem toldAs_tick_of_layout {sv : ServerVersion} {fields behindId behindType : Bytes}
    {reqId type : Int32} {n : Notice} {q : FieldReader Call}
    (hid : int.run fields = (.ok reqId, behindId))
    (htype : int.run behindId = (.ok type, behindType)) (hlayout : tickLayout type = some q)
    (unread : Bytes) (hread : q.run fields = (.ok n.toCall, unread)) :
    ∃ request, ToldAs sv .tickByTick fields request (notices (.notice n)) :=
  ⟨_, .tick (run_int_iff.mp hid) (run_int_iff.mp htype) hlayout hread rfl⟩

/-- A single tick is told as its type says, or it has no layout. -/
theorem toldAs_tick {sv : ServerVersion} {fields unread : Bytes} {event : Event}
    (h : readTickByTick.run fields = (.ok event, unread)) :
    (∃ request, ToldAs sv .tickByTick fields request event.notices) ∨ event.IsUnknown := by
  obtain ⟨reqId, behindId, hid, h⟩ := run_bind_eq_ok.mp h
  obtain ⟨type, behindType, htype, h⟩ := run_bind_eq_ok.mp h
  obtain ⟨time, behindTime, htime, h⟩ := run_bind_eq_ok.mp h
  split at h
  · next htrade =>
    obtain ⟨n, rest, hn, hdone⟩ := run_bind_eq_ok.mp h
    cases hdone
    refine .inl (toldAs_tick_of_layout hid htype (if_pos htrade) unread ?_)
    refine (run_tickHead hid htype htime _ _ _).trans ?_
    exact (isTold_trade reqId type time).run_call hn
  next htrade =>
  split at h
  · next hquote =>
    obtain ⟨n, rest, hn, hdone⟩ := run_bind_eq_ok.mp h
    cases hdone
    refine .inl (toldAs_tick_of_layout hid htype ((if_neg htrade).trans (if_pos hquote))
      unread ?_)
    refine (run_tickHead hid htype htime _ _ _).trans ?_
    exact (isTold_quote reqId time).run_call hn
  next hquote =>
  split at h
  · next hmid =>
    obtain ⟨price, rest, hprice, hdone⟩ := run_bind_eq_ok.mp h
    cases hdone
    refine .inl (toldAs_tick_of_layout hid htype
      ((if_neg htrade).trans ((if_neg hquote).trans (if_pos hmid))) unread ?_)
    refine (run_tickHead hid htype htime _ _ _).trans ?_
    exact run_bind_eq_ok.mpr ⟨price, unread, hprice, rfl⟩
  · cases h
    exact .inr ⟨_, _, rfl⟩

/-- What the application is called with for a payload. The calls for a message of a known kind are
about the request that it names, if it names one, and have its number as their first argument. -/
def Dispatched (sv : ServerVersion) (payload : Bytes) (notices : List Notice) : Prop :=
  (∃ kind fields request, BeginsInt payload (Numbered.code kind) fields ∧
      ToldAs sv kind fields request notices ∧
      ∀ n ∈ notices, n.request? = request ∧
        ∀ reqId, request = some reqId → n.call.2.head? = some (toJson reqId)) ∨
    (∃ code, IsForeign payload code ∧ notices = [foreignNotice code payload.length]) ∨
    (IsUntypedTick payload ∧ ∃ message, notices = [.error (-1) 0 508 message ""])

theorem toldAs_reader {sv : ServerVersion} {kind : Inbound} {fields unread : Bytes}
    {event : Event} (h : (reader sv kind).run fields = (.ok event, unread)) :
    (∃ request, ToldAs sv kind fields request event.notices) ∨ event.IsUnknown := by
  cases hlayout : layout sv kind with
  | some q =>
    obtain ⟨n, rfl, hread⟩ := run_layout hlayout h
    exact .inl ⟨_, .one hlayout hread rfl⟩
  | none =>
    cases kind
    case tickPrice => exact .inl (toldAs_price h)
    case historicalData => exact .inl (toldAs_bars h)
    case scannerData => exact .inl (toldAs_scanner h)
    case tickByTick => exact toldAs_tick h
    all_goals cases hlayout

/-- The calls for a message that can be read. -/
theorem calls_of_decode {sv : ServerVersion} {payload : Bytes} {event : Event}
    (h : decode sv payload = .ok event) : Dispatched sv payload event.notices := by
  have hrun := run_of_decode h
  by_cases hunknown : event.IsUnknown
  · obtain ⟨code, data, rfl⟩ := hunknown
    obtain ⟨hforeign, rfl⟩ | ⟨htick, rfl, rfl⟩ := run_read_unknown hrun
    · exact .inr (.inl ⟨code, hforeign, notices_foreign hforeign.2 _⟩)
    · exact .inr (.inr ⟨htick, _, rfl⟩)
  · obtain ⟨code, fields, hcode, hrest⟩ := run_bind_eq_ok.mp hrun
    split at hrest
    · next kind hkind =>
      obtain ⟨request, htold⟩ | hother := toldAs_reader hrest
      · have hbegins := run_int_iff.mp hcode
        rw [← code_of_ofCode? hkind] at hbegins
        refine .inl ⟨kind, fields, request, hbegins, htold, fun n hm => ?_⟩
        have hrequest := htold.request n hm
        exact ⟨hrequest, fun reqId hid => Notice.head_of_request (hrequest.trans hid)⟩
      · exact absurd hother hunknown
    · cases hrest
      exact absurd ⟨_, _, rfl⟩ hunknown

/-- The first bid of a request: its price, and then its size. -/
theorem calls_of_decode_bid :
    decode 176 (["1", "6", "7", "1", "185", "300", "3"].flatMap fieldOctets) =
        .ok (.tickPrice 7 .bid (.ofInt 185) (some ⟨300, 0, by decide, by decide⟩)
          ⟨true, true, false⟩) ∧
      Dispatched 176 (["1", "6", "7", "1", "185", "300", "3"].flatMap fieldOctets)
        [.tickPrice 7 .bid (.ofInt 185) ⟨true, true, false⟩,
          .tickSize 7 .bidSize (some ⟨300, 0, by decide, by decide⟩)] := by
  have hdecode : decode 176 (["1", "6", "7", "1", "185", "300", "3"].flatMap fieldOctets) =
      .ok (.tickPrice 7 .bid (.ofInt 185) (some ⟨300, 0, by decide, by decide⟩)
        ⟨true, true, false⟩) := by
    decide +kernel
  exact ⟨hdecode, calls_of_decode hdecode⟩

/-- A single tick of the type 7 names the request 5, but the error that it is told as does not. -/
theorem untypedTick_drops_request :
    ¬ ∀ (sv : ServerVersion) (payload fields behindId : Bytes) (reqId : Int32) (event : Event),
      decode sv payload = .ok event → BeginsInt payload 99 fields →
      BeginsInt fields reqId behindId → ∀ n ∈ event.notices, n.request? = some reqId := by
  intro hall
  have hkind := Inbox.beginsInt_int 99 (["5", "7", "1"].flatMap fieldOctets)
  have hid := Inbox.beginsInt_int 5 (["7", "1"].flatMap fieldOctets)
  have hdecode : decode 176 (["99", "5", "7", "1"].flatMap fieldOctets) =
      .ok (.unknown 99 []) := by
    decide +kernel
  have hrequest := hall 176 _ _ _ 5 _ hdecode hkind hid _ List.mem_cons_self
  cases hrequest

end BrokerWire.Event
