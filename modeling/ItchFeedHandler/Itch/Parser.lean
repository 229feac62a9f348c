import ItchFeedHandler.Itch.Messages
import Mathlib.Data.UInt

/-!
# The ITCH 5.0 parser

`itch5/parser.hpp`: `Parser::parse_message` checks the length against the message-type
table, casts the buffer to the packed struct of the type byte, and dispatches: an order-flow
message goes to its `parse_*` function, which counts it and, when the kind's callback is
set, computes the timestamp (and the price and quantity where the callback takes them) and
invokes the callback; an administrative message is counted in `other_messages`.

A callback is a `std::function` slot; the parser records which slots are set
(`Callbacks`) and returns the invocation it makes (`Invocation`), so that the packet handler
can run its own callbacks on it. The eight `parse_*` functions are one function, `parseWith`,
applied to the counter each one bumps, its callback slot and the invocation it makes.

* `parseMessage_fst_snd` and `parseMessage_invocation`: what `parse_message` returns for every
  buffer, and that it makes an invocation exactly for an order-flow message of full length
  whose callback is set.
* `convertPrice_lt`: a converted price stays below `2 ^ 39`, far inside `int64_t`.
* `parseMessages_stats`: over any sequence of calls, `total_messages` counts the calls that
  consumed a message, each of them once in the dispatched counters, and `unknown_messages`
  never moves: the size table and the `switch` agree (`handled_of_getMessageSize`), so a code
  the table does not know returns before the `switch` and its `default` case is never reached.
-/

namespace ItchFeedHandler

namespace Itch

open Endian

/-- `Parser::Stats`. -/
structure Stats where
  totalMessages : UInt64 := 0
  addOrders : UInt64 := 0
  orderExecuted : UInt64 := 0
  orderDeleted : UInt64 := 0
  orderCancelled : UInt64 := 0
  orderReplaced : UInt64 := 0
  trades : UInt64 := 0
  otherMessages : UInt64 := 0
  unknownMessages : UInt64 := 0
  deriving DecidableEq, Repr

/-- The counters of the messages the `switch` dispatched: the order-flow counters and
`other_messages`. -/
def Stats.dispatched (st : Stats) : UInt64 :=
  st.addOrders + st.orderExecuted + st.orderCancelled + st.orderDeleted + st.orderReplaced +
    st.trades + st.otherMessages

/-- The callback slots of a `Parser`, by whether each is set. -/
structure Callbacks where
  addOrderCb : Bool := false
  addOrderMpidCb : Bool := false
  orderExecutedCb : Bool := false
  orderExecutedWithPriceCb : Bool := false
  orderCancelCb : Bool := false
  orderDeleteCb : Bool := false
  orderReplaceCb : Bool := false
  tradeCb : Bool := false
  deriving DecidableEq, Repr

/-- The slot of each order-flow kind. -/
def Callbacks.get (cbs : Callbacks) : OrderKind → Bool
  | .addOrder => cbs.addOrderCb
  | .addOrderMPID => cbs.addOrderMpidCb
  | .orderExecuted => cbs.orderExecutedCb
  | .orderExecutedWithPrice => cbs.orderExecutedWithPriceCb
  | .orderCancel => cbs.orderCancelCb
  | .orderDelete => cbs.orderDeleteCb
  | .orderReplace => cbs.orderReplaceCb
  | .trade => cbs.tradeCb

/-- A callback invocation: the message and the arguments the callback type takes. -/
inductive Invocation
  | addOrder (msg : List UInt8) (ts : Timestamp) (price : Price) (qty : Quantity)
  | addOrderMPID (msg : List UInt8) (ts : Timestamp) (price : Price) (qty : Quantity)
  | orderExecuted (msg : List UInt8) (ts : Timestamp)
  | orderExecutedWithPrice (msg : List UInt8) (ts : Timestamp) (price : Price)
  | orderCancel (msg : List UInt8) (ts : Timestamp)
  | orderDelete (msg : List UInt8) (ts : Timestamp)
  | orderReplace (msg : List UInt8) (ts : Timestamp) (price : Price) (qty : Quantity)
  | trade (msg : List UInt8) (ts : Timestamp) (price : Price) (qty : Quantity)
  deriving DecidableEq, Repr

/-- The kind whose callback an invocation calls. -/
def Invocation.kind : Invocation → OrderKind
  | .addOrder .. => .addOrder
  | .addOrderMPID .. => .addOrderMPID
  | .orderExecuted .. => .orderExecuted
  | .orderExecutedWithPrice .. => .orderExecutedWithPrice
  | .orderCancel .. => .orderCancel
  | .orderDelete .. => .orderDelete
  | .orderReplace .. => .orderReplace
  | .trade .. => .trade

/-- `class Parser`. -/
structure Parser where
  callbacks : Callbacks
  stats : Stats := {}
  deriving DecidableEq, Repr

/-- `Parser::convert_price`: four implied decimals to six, widened to `int64_t`. -/
def convertPrice (itchPrice : UInt32) : Price := (itchPrice.toNat : Int) * 100

/-- A converted price is nonnegative and below `2 ^ 39`, so the `int64_t` product never
overflows. -/
theorem convertPrice_lt (itchPrice : UInt32) :
    0 ≤ convertPrice itchPrice ∧ convertPrice itchPrice < 2 ^ 39 := by
  have : itchPrice.toNat < 2 ^ 32 := itchPrice.toNat_lt_size
  show 0 ≤ (itchPrice.toNat : Int) * 100 ∧ (itchPrice.toNat : Int) * 100 < 2 ^ 39
  omega

/-- `endian::read_be48(msg->timestamp)`. -/
def timestamp (msg : List UInt8) : Timestamp := readBe48 (msg.drop MessageHeader.timestamp)

/-- The shape of every `parse_*` function: bump the kind's counter, then invoke the kind's
callback if it is set. -/
def parseWith (bump : Stats → Stats) (set : Bool) (invocation : Invocation) (p : Parser) :
    Parser × Option Invocation :=
  ({ p with stats := bump p.stats }, if set then some invocation else none)

namespace Parser

/-- `parse_add_order`. -/
def parseAddOrder (p : Parser) (msg : List UInt8) : Parser × Option Invocation :=
  parseWith (fun st => { st with addOrders := st.addOrders + 1 }) p.callbacks.addOrderCb
    (.addOrder msg (timestamp msg) (convertPrice (ntoh32 (u32At msg AddOrder.price)))
      (ntoh32 (u32At msg AddOrder.shares))) p

/-- `parse_add_order_mpid`. -/
def parseAddOrderMpid (p : Parser) (msg : List UInt8) : Parser × Option Invocation :=
  parseWith (fun st => { st with addOrders := st.addOrders + 1 }) p.callbacks.addOrderMpidCb
    (.addOrderMPID msg (timestamp msg) (convertPrice (ntoh32 (u32At msg AddOrderMPID.price)))
      (ntoh32 (u32At msg AddOrderMPID.shares))) p

/-- `parse_order_executed`. -/
def parseOrderExecuted (p : Parser) (msg : List UInt8) : Parser × Option Invocation :=
  parseWith (fun st => { st with orderExecuted := st.orderExecuted + 1 })
    p.callbacks.orderExecutedCb (.orderExecuted msg (timestamp msg)) p

/-- `parse_order_executed_with_price`. -/
def parseOrderExecutedWithPrice (p : Parser) (msg : List UInt8) : Parser × Option Invocation :=
  parseWith (fun st => { st with orderExecuted := st.orderExecuted + 1 })
    p.callbacks.orderExecutedWithPriceCb
    (.orderExecutedWithPrice msg (timestamp msg)
      (convertPrice (ntoh32 (u32At msg OrderExecutedWithPrice.executionPrice)))) p

/-- `parse_order_cancel`. -/
def parseOrderCancel (p : Parser) (msg : List UInt8) : Parser × Option Invocation :=
  parseWith (fun st => { st with orderCancelled := st.orderCancelled + 1 })
    p.callbacks.orderCancelCb (.orderCancel msg (timestamp msg)) p

/-- `parse_order_delete`. -/
def parseOrderDelete (p : Parser) (msg : List UInt8) : Parser × Option Invocation :=
  parseWith (fun st => { st with orderDeleted := st.orderDeleted + 1 })
    p.callbacks.orderDeleteCb (.orderDelete msg (timestamp msg)) p

/-- `parse_order_replace`. -/
def parseOrderReplace (p : Parser) (msg : List UInt8) : Parser × Option Invocation :=
  parseWith (fun st => { st with orderReplaced := st.orderReplaced + 1 })
    p.callbacks.orderReplaceCb
    (.orderReplace msg (timestamp msg) (convertPrice (ntoh32 (u32At msg OrderReplace.price)))
      (ntoh32 (u32At msg OrderReplace.shares))) p

/-- `parse_trade`. -/
def parseTrade (p : Parser) (msg : List UInt8) : Parser × Option Invocation :=
  parseWith (fun st => { st with trades := st.trades + 1 }) p.callbacks.tradeCb
    (.trade msg (timestamp msg) (convertPrice (ntoh32 (u32At msg Trade.price)))
      (ntoh32 (u32At msg Trade.shares))) p

/-- `Parser::normalize_add_order`: the record of an AddOrder message, read from the message
itself. -/
def normalizeAddOrder (msg : List UInt8) : NormalizedMessage :=
  { type := .addOrder, timestamp := readBe48 (msg.drop MessageHeader.timestamp),
    orderRef := ntoh64 (u64At msg AddOrder.orderReferenceNumber),
    stock := memcpy (msg.drop AddOrder.stock) 8,
    side := if Char.ofNat (byteAt msg AddOrder.buySellIndicator).toNat = 'B' then .buy else .sell,
    price := convertPrice (ntoh32 (u32At msg AddOrder.price)),
    quantity := ntoh32 (u32At msg AddOrder.shares) }

/-- The cases of the `switch` of `parse_message` that call a `parse_*` function. -/
def parseOrder (p : Parser) : OrderKind → List UInt8 → Parser × Option Invocation
  | .addOrder => p.parseAddOrder
  | .addOrderMPID => p.parseAddOrderMpid
  | .orderExecuted => p.parseOrderExecuted
  | .orderExecutedWithPrice => p.parseOrderExecutedWithPrice
  | .orderCancel => p.parseOrderCancel
  | .orderDelete => p.parseOrderDelete
  | .orderReplace => p.parseOrderReplace
  | .trade => p.parseTrade

/-- The administrative codes the `switch` counts in `other_messages`. -/
def otherCodes : List Char := ['S', 'R', 'H', 'Y', 'L', 'V', 'W', 'K', 'J', 'h', 'Q', 'B', 'I', 'N']

/-- The `switch` of `parse_message` on the type byte: an order-flow code goes to its
`parse_*` function (`orderKind?` is the table of those cases), an administrative code is
counted in `other_messages`, and the `default` case in `unknown_messages`. -/
def dispatch (p : Parser) (msgType : Char) (msg : List UInt8) : Parser × Option Invocation :=
  match orderKind? msgType with
  | some k => p.parseOrder k msg
  | none =>
    if msgType ∈ otherCodes then
      ({ p with stats := { p.stats with otherMessages := p.stats.otherMessages + 1 } }, none)
    else ({ p with stats := { p.stats with unknownMessages := p.stats.unknownMessages + 1 } }, none)

/-- `Parser::parse_message(data, len)`: the new parser, the bytes consumed (`0` on error),
and the callback invocation made. -/
def parseMessage (p : Parser) (data : List UInt8) (len : Nat) : Parser × Nat × Option Invocation :=
  if len < 1 then (p, 0, none)
  else
    let msgType := Char.ofNat (byteAt data 0).toNat
    let expectedSize := getMessageSize msgType
    if expectedSize = 0 then (p, 0, none)
    else if len < expectedSize then (p, 0, none)
    else
      let (p, invocation) := p.dispatch msgType data
      ({ p with stats := { p.stats with totalMessages := p.stats.totalMessages + 1 } },
        expectedSize, invocation)

/-! ### What `parse_message` returns -/

/-- The type byte of a buffer, as `static_cast<char>(data[0])`. -/
def msgType (data : List UInt8) : Char := Char.ofNat (byteAt data 0).toNat

@[simp] theorem callbacks_dispatch (p : Parser) (c : Char) (msg : List UInt8) :
    (p.dispatch c msg).1.callbacks = p.callbacks := by
  unfold dispatch
  split
  · next k _ => cases k <;> rfl
  · split <;> rfl

/-- The switch invokes a callback exactly for an order-flow code whose slot is set, and the
invocation is of that code's kind. -/
theorem dispatch_invocation (p : Parser) (c : Char) (msg : List UInt8) :
    (p.dispatch c msg).2.map Invocation.kind =
      (orderKind? c).bind fun k => if p.callbacks.get k then some k else none := by
  unfold dispatch
  split
  · next k hk =>
    rw [hk, Option.some_bind]
    cases k <;> simp only [parseOrder, parseWith, parseAddOrder, parseAddOrderMpid,
      parseOrderExecuted, parseOrderExecutedWithPrice, parseOrderCancel, parseOrderDelete,
      parseOrderReplace, parseTrade, Callbacks.get] <;> split <;> rfl
  · next hk => rw [hk]; split <;> rfl

/-- `parse_message` consumes the message's size when the buffer holds a whole message of a
known type, and nothing otherwise. -/
theorem parseMessage_fst_snd (p : Parser) (data : List UInt8) (len : Nat) :
    (p.parseMessage data len).2.1 =
      if 1 ≤ len ∧ 0 < getMessageSize (msgType data) ∧ getMessageSize (msgType data) ≤ len
      then getMessageSize (msgType data) else 0 := by
  unfold parseMessage msgType
  dsimp only
  split_ifs <;> first | rfl | omega

/-- **Dispatch**: `parse_message` makes an invocation exactly when the buffer holds a whole
order-flow message whose callback is set, and the invocation is of the message's kind. -/
theorem parseMessage_invocation (p : Parser) (data : List UInt8) (len : Nat) :
    (p.parseMessage data len).2.2.map Invocation.kind =
      if getMessageSize (msgType data) ≤ len ∧ 1 ≤ len then
        (orderKind? (msgType data)).bind fun k => if p.callbacks.get k then some k else none
      else none := by
  unfold parseMessage msgType
  dsimp only
  by_cases h1 : len < 1
  · rw [if_pos h1, if_neg (by omega)]; rfl
  rw [if_neg h1]
  by_cases h3 : getMessageSize (Char.ofNat (byteAt data 0).toNat) = 0
  · rw [if_pos h3, if_pos (by omega)]
    cases hk : orderKind? (Char.ofNat (byteAt data 0).toNat) with
    | none => rfl
    | some k => exact absurd h3 (getMessageSize_pos_of_orderKind hk).ne'
  rw [if_neg h3]
  by_cases h4 : len < getMessageSize (Char.ofNat (byteAt data 0).toNat)
  · rw [if_pos h4, if_neg (by omega)]; rfl
  rw [if_neg h4, if_pos (by omega)]
  exact dispatch_invocation p _ data

/-- A whole order-flow message goes to its `parse_*` function, and `parse_message` returns the
invocation that function makes. -/
theorem parseMessage_orderKind (p : Parser) {data : List UInt8} {len : Nat} {k : OrderKind}
    (hk : orderKind? (msgType data) = some k) (hlen : getMessageSize (msgType data) ≤ len) :
    (p.parseMessage data len).2.2 = (p.parseOrder k data).2 := by
  have hpos := getMessageSize_pos_of_orderKind hk
  unfold msgType at hk hlen hpos
  unfold parseMessage
  dsimp only
  rw [if_neg (by omega), if_neg hpos.ne', if_neg (by omega)]
  show (p.dispatch _ data).2 = _
  unfold dispatch
  rw [hk]

@[simp] theorem callbacks_parseMessage (p : Parser) (data : List UInt8) (len : Nat) :
    (p.parseMessage data len).1.callbacks = p.callbacks := by
  unfold parseMessage; dsimp only; split_ifs <;> simp

/-! ### Statistics over a sequence of calls -/

/-- **The size table and the switch agree**: every code with a size is handled by the
`switch`, as an order-flow code or as an administrative one. -/
theorem handled_of_getMessageSize {c : Char} (h : getMessageSize c ≠ 0) :
    (orderKind? c).isSome ∨ c ∈ otherCodes := by
  unfold getMessageSize at h
  split at h <;> first | exact absurd rfl h | decide

/-- The `switch` on a code with a size bumps exactly one dispatched counter. -/
theorem stats_dispatch (p : Parser) {c : Char} (msg : List UInt8) (h : getMessageSize c ≠ 0) :
    (p.dispatch c msg).1.stats.dispatched = p.stats.dispatched + 1 ∧
      (p.dispatch c msg).1.stats.totalMessages = p.stats.totalMessages ∧
      (p.dispatch c msg).1.stats.unknownMessages = p.stats.unknownMessages := by
  unfold dispatch
  split
  · next k _ =>
    cases k <;> refine ⟨?_, rfl, rfl⟩ <;> simp only [parseOrder, parseWith, parseAddOrder,
      parseAddOrderMpid, parseOrderExecuted, parseOrderExecutedWithPrice, parseOrderCancel,
      parseOrderDelete, parseOrderReplace, parseTrade, Stats.dispatched] <;> ac_rfl
  · next hk =>
    rw [if_pos ((handled_of_getMessageSize h).resolve_left (by simp [hk]))]
    exact ⟨by simp only [Stats.dispatched]; ac_rfl, rfl, rfl⟩

/-- **Step lemma** for the statistics: a call that consumes nothing leaves the parser as it
was; one that consumes a message counts it once in `total_messages` and once among the
dispatched counters, and never in `unknown_messages`. -/
theorem parseMessage_stats (p : Parser) (data : List UInt8) (len : Nat) :
    ((p.parseMessage data len).2.1 = 0 ∧ (p.parseMessage data len).1 = p) ∨
      (0 < (p.parseMessage data len).2.1 ∧
        (p.parseMessage data len).1.stats.totalMessages = p.stats.totalMessages + 1 ∧
        (p.parseMessage data len).1.stats.dispatched = p.stats.dispatched + 1 ∧
        (p.parseMessage data len).1.stats.unknownMessages = p.stats.unknownMessages) := by
  unfold parseMessage
  dsimp only
  split_ifs with h1 h2 h3
  · exact .inl ⟨rfl, rfl⟩
  · exact .inl ⟨rfl, rfl⟩
  · exact .inl ⟨rfl, rfl⟩
  · obtain ⟨hd, ht, hu⟩ := stats_dispatch p data h2
    generalize p.dispatch _ data = r at hd ht hu ⊢
    obtain ⟨p', _⟩ := r
    exact .inr ⟨Nat.pos_of_ne_zero h2, congrArg (· + 1) ht, hd, hu⟩

/-- `parse_message` called on each buffer of a sequence in turn: the parser after the calls,
and what each call returned. -/
def parseMessages (p : Parser) : List (List UInt8 × Nat) → Parser × List Nat
  | [] => (p, [])
  | call :: calls =>
    let r := p.parseMessage call.1 call.2
    let rest := r.1.parseMessages calls
    (rest.1, r.2.1 :: rest.2)

/-- What each call of a sequence returns depends on its own buffer only. -/
theorem parseMessages_returns (p : Parser) (calls : List (List UInt8 × Nat)) :
    (p.parseMessages calls).2 = calls.map fun c =>
      if 1 ≤ c.2 ∧ 0 < getMessageSize (msgType c.1) ∧ getMessageSize (msgType c.1) ≤ c.2
      then getMessageSize (msgType c.1) else 0 := by
  induction calls generalizing p with
  | nil => rfl
  | cons c calls ih => simp only [parseMessages, List.map_cons, ih, parseMessage_fst_snd]

/-- **Run lemma** for the statistics: `total_messages` and the dispatched counters each grow by
the number of calls that returned nonzero, and `unknown_messages` does not move. -/
theorem parseMessages_stats (p : Parser) (calls : List (List UInt8 × Nat)) :
    (p.parseMessages calls).1.stats.totalMessages =
        p.stats.totalMessages + UInt64.ofNat ((p.parseMessages calls).2.countP (0 < ·)) ∧
      (p.parseMessages calls).1.stats.dispatched =
        p.stats.dispatched + UInt64.ofNat ((p.parseMessages calls).2.countP (0 < ·)) ∧
      (p.parseMessages calls).1.stats.unknownMessages = p.stats.unknownMessages := by
  induction calls generalizing p with
  | nil => exact ⟨(add_zero _).symm, (add_zero _).symm, rfl⟩
  | cons c calls ih =>
    simp only [parseMessages, List.countP_cons]
    rcases parseMessage_stats p c.1 c.2 with ⟨h0, hp⟩ | ⟨hpos, ht, hd, hu⟩
    · simp only [h0, hp, lt_irrefl, decide_False, Bool.false_eq_true, ite_false, Nat.add_zero]
      exact ih p
    · obtain ⟨ht', hd', hu'⟩ := ih (p.parseMessage c.1 c.2).1
      simp only [hpos, decide_True, ite_true, ← ofNat_add_one]
      refine ⟨?_, ?_, hu'.trans hu⟩
      · rw [ht', ht]; ac_rfl
      · rw [hd', hd]; ac_rfl

/-- **Parser statistics account for every call.** From a fresh parser, after any sequence of
calls: each call returns its message's size when the buffer holds a whole message of a known
type, and `0` otherwise; `total_messages` is the number of calls that returned nonzero (modulo
`2 ^ 64`) and the sum of the dispatched counters; and `unknown_messages` is `0`. -/
theorem parser_statistics_account (cbs : Callbacks) (calls : List (List UInt8 × Nat)) :
    (parseMessages ⟨cbs, {}⟩ calls).2 = calls.map (fun c =>
        if 1 ≤ c.2 ∧ 0 < getMessageSize (msgType c.1) ∧ getMessageSize (msgType c.1) ≤ c.2
        then getMessageSize (msgType c.1) else 0) ∧
      (parseMessages ⟨cbs, {}⟩ calls).1.stats.totalMessages =
        UInt64.ofNat ((parseMessages ⟨cbs, {}⟩ calls).2.countP (0 < ·)) ∧
      (parseMessages ⟨cbs, {}⟩ calls).1.stats.totalMessages =
        (parseMessages ⟨cbs, {}⟩ calls).1.stats.dispatched ∧
      (parseMessages ⟨cbs, {}⟩ calls).1.stats.unknownMessages = 0 := by
  obtain ⟨ht, hd, hu⟩ := parseMessages_stats ⟨cbs, {}⟩ calls
  have hfresh : ({} : Stats).dispatched = 0 := rfl
  refine ⟨parseMessages_returns _ _, ht.trans (zero_add _), ?_, hu⟩
  rw [ht, hd, hfresh]

/-- A one-byte buffer holding `'Z'`, a code the table does not know: the call returns `0` and
leaves the parser, `unknown_messages` included, as it was. -/
theorem unknown_code_left_uncounted :
    getMessageSize (msgType [0x5A]) = 0 ∧
      parseMessages ⟨{}, {}⟩ [([0x5A], 1)] = (⟨{}, {}⟩, [0]) := by
  decide

end Parser

end Itch

end ItchFeedHandler
