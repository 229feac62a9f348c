import ItchFeedHandler.Dpdk.PacketHandler

/-!
# Normalized records

What `setup_parser_callbacks` makes of each order-flow message it has a callback for. The
messages are given here from the spec's side: by their field values (`WireMessage`), by the
unpadded big-endian bytes that carry those values (`WireMessage.encode`), and by the record each
kind should yield (`WireBody.record`). The theorems run the handler's parser and callbacks on the
bytes.

* `record_of_wire_exact`: for AddOrder, OrderExecuted, OrderCancel, OrderDelete, OrderReplace and
  Trade, and for every value of their fields, `parse_message` pushes exactly one record, the one
  the fields give; for an AddOrder it is also what `Parser::normalize_add_order` returns for the
  same bytes.
* `ring_receives_wire_record`: on a ring with room, that record is what the ring receives.
  Every field the kind does not set keeps the default constructor's value, which for the side
  is `Side::Buy`, not zero: `unsided_record_side_buy`.
-/

namespace ItchFeedHandler

namespace Dpdk

open Endian Itch

/-- Spec-side input: the fields after the common header of each order-flow kind the
handler emits a record for, in wire order. -/
inductive WireBody
  | addOrder (ref : UInt64) (side : UInt8) (shares : UInt32) (stock : List UInt8) (price : UInt32)
  | orderExecuted (ref : UInt64) (executedShares : UInt32) (matchNumber : UInt64)
  | orderCancel (ref : UInt64) (cancelledShares : UInt32)
  | orderDelete (ref : UInt64)
  | orderReplace (originalRef newRef : UInt64) (shares price : UInt32)
  | trade (ref : UInt64) (side : UInt8) (shares : UInt32) (stock : List UInt8) (price : UInt32)
      (matchNumber : UInt64)
  deriving DecidableEq, Repr

/-- Spec-side input: a message of one of those kinds, by its field values. -/
structure WireMessage where
  stockLocate : UInt16
  trackingNumber : UInt16
  timestamp : Nat
  body : WireBody
  deriving DecidableEq, Repr

namespace WireBody

/-- The type byte of each kind: `'A'`, `'E'`, `'X'`, `'D'`, `'U'`, `'P'`. -/
def code : WireBody → UInt8
  | .addOrder .. => 65
  | .orderExecuted .. => 69
  | .orderCancel .. => 88
  | .orderDelete .. => 68
  | .orderReplace .. => 85
  | .trade .. => 80

/-- The order-flow kind of each. -/
def kind : WireBody → OrderKind
  | .addOrder .. => .addOrder
  | .orderExecuted .. => .orderExecuted
  | .orderCancel .. => .orderCancel
  | .orderDelete .. => .orderDelete
  | .orderReplace .. => .orderReplace
  | .trade .. => .trade

/-- The fields, big-endian and unpadded, in wire order. -/
def encode : WireBody → List UInt8
  | .addOrder ref side shares stock price =>
    beBytes 8 ref.toNat ++ [side] ++ beBytes 4 shares.toNat ++ stock ++ beBytes 4 price.toNat
  | .orderExecuted ref executedShares matchNumber =>
    beBytes 8 ref.toNat ++ beBytes 4 executedShares.toNat ++ beBytes 8 matchNumber.toNat
  | .orderCancel ref cancelledShares => beBytes 8 ref.toNat ++ beBytes 4 cancelledShares.toNat
  | .orderDelete ref => beBytes 8 ref.toNat
  | .orderReplace originalRef newRef shares price =>
    beBytes 8 originalRef.toNat ++ beBytes 8 newRef.toNat ++ beBytes 4 shares.toNat ++
      beBytes 4 price.toNat
  | .trade ref side shares stock price matchNumber =>
    beBytes 8 ref.toNat ++ [side] ++ beBytes 4 shares.toNat ++ stock ++ beBytes 4 price.toNat ++
      beBytes 8 matchNumber.toNat

/-- The stock of the kinds that carry one is eight bytes. -/
def StockFits : WireBody → Prop
  | .addOrder _ _ _ stock _ => stock.length = 8
  | .trade _ _ _ stock _ _ => stock.length = 8
  | _ => True

instance (b : WireBody) : Decidable b.StockFits := by
  cases b <;> unfold StockFits <;> infer_instance

/-- Specification: the record of each kind with timestamp `ts`: the order reference
(the original one for a replace), the new reference, the stock verbatim, the side (`Buy`
exactly when the byte is `'B'`), the price times `100`, and the share counts; every other field
as the default constructor leaves it. -/
def record (ts : Timestamp) : WireBody → NormalizedMessage
  | .addOrder ref side shares stock price =>
    { type := .addOrder, timestamp := ts, orderRef := ref, stock := stock,
      side := if side = 66 then .buy else .sell, price := 100 * (price.toNat : Int),
      quantity := shares }
  | .orderExecuted ref executedShares _ =>
    { type := .orderExecuted, timestamp := ts, orderRef := ref, executedQuantity := executedShares }
  | .orderCancel ref cancelledShares =>
    { type := .orderCancel, timestamp := ts, orderRef := ref, quantity := cancelledShares }
  | .orderDelete ref => { type := .orderDelete, timestamp := ts, orderRef := ref }
  | .orderReplace originalRef newRef shares price =>
    { type := .orderReplace, timestamp := ts, orderRef := originalRef, newOrderRef := newRef,
      price := 100 * (price.toNat : Int), quantity := shares }
  | .trade ref side shares stock price _ =>
    { type := .trade, timestamp := ts, orderRef := ref, stock := stock,
      side := if side = 66 then .buy else .sell, price := 100 * (price.toNat : Int),
      quantity := shares }

end WireBody

namespace WireMessage

/-- Spec-side input: the type byte, the stock locate, the tracking number, the
six-byte timestamp, then the kind's fields, all big-endian and unpadded. -/
def encode (m : WireMessage) : List UInt8 :=
  [m.body.code] ++ beBytes 2 m.stockLocate.toNat ++ beBytes 2 m.trackingNumber.toNat ++
    beBytes 6 m.timestamp ++ m.body.encode

/-- The field values the wire can carry: a 48-bit timestamp and an eight-byte stock. -/
def Fits (m : WireMessage) : Prop := m.timestamp < 2 ^ 48 ∧ m.body.StockFits

instance (m : WireMessage) : Decidable m.Fits := inferInstanceAs (Decidable (_ ∧ _))

end WireMessage

/-! ### Reading the fields back -/

section Reading

variable (m : WireMessage) (rest : List UInt8)


theorem orderKind_msgType_encode :
    orderKind? (Parser.msgType (m.encode ++ rest)) = some m.body.kind := by
  show orderKind? (Char.ofNat m.body.code.toNat) = _
  cases m.body <;> rfl

theorem getMessageSize_encode (hm : m.body.StockFits) :
    getMessageSize (Parser.msgType (m.encode ++ rest)) = m.encode.length := by
  obtain ⟨_, _, _, b⟩ := m
  cases b <;> simp_all [WireMessage.encode, WireBody.encode, WireBody.StockFits, length_beBytes,
    Parser.msgType, WireBody.code] <;> rfl

theorem timestamp_encode (ht : m.timestamp < 2 ^ 48) :
    timestamp (m.encode ++ rest) = UInt64.ofNat m.timestamp := by
  simp only [timestamp, MessageHeader.timestamp, WireMessage.encode, List.append_assoc]
  simp [List.drop_append_eq_append_drop, List.drop_eq_nil_of_le, length_beBytes,
    readBe48_beBytes ht]

/-- The side test of the callbacks reads `'B'` off the byte `66` and off no other. -/
theorem charOfNat_eq_B (b : UInt8) : Char.ofNat b.toNat = 'B' ↔ b = 66 := by
  constructor
  · intro h
    have hb : b.toNat < 256 := b.toNat_lt_size
    have h2 := congrArg Char.toNat h
    unfold Char.ofNat at h2
    rw [dif_pos (Or.inl (by omega))] at h2
    exact UInt8.toNat.inj h2
  · rintro rfl; rfl

/-- **Per kind**: the callback of each kind, run on the invocation its `parse_*` function makes
for the bytes of a message, builds the record the fields give. Each field is read at its
`offsetof`, which lands on the bytes that encode it. -/
theorem callback_parseOrder_encode (p : Parser) (hc : p.callbacks = PacketHandler.handlerCallbacks)
    (hm : m.Fits) :
    (p.parseOrder m.body.kind (m.encode ++ rest)).2.bind PacketHandler.callback =
      some (m.body.record (UInt64.ofNat m.timestamp)) := by
  have hts := timestamp_encode m rest hm.1
  obtain ⟨_, hstock⟩ := hm
  obtain ⟨a, b, t, body⟩ := m
  cases body <;> simp only [WireBody.StockFits] at hstock <;>
    simp only [WireBody.kind, Parser.parseOrder, Parser.parseAddOrder, Parser.parseOrderExecuted,
      Parser.parseOrderCancel, Parser.parseOrderDelete, Parser.parseOrderReplace, Parser.parseTrade,
      parseWith, hc, PacketHandler.handlerCallbacks, if_true, Option.some_bind,
      PacketHandler.callback, hts, PacketHandler.onAddOrder, PacketHandler.onTrade,
      PacketHandler.sidedRecord, PacketHandler.onOrderExecuted, PacketHandler.onOrderCancel,
      PacketHandler.onOrderDelete, PacketHandler.onOrderReplace, PacketHandler.sideAt, WireBody.record,
      ntoh64_u64At, ntoh32_u32At, convertPrice, Option.some.injEq] <;>
    -- each offset passes whole fields, whose lengths the discharger checks, and lands on one
    simp (disch := simp only [length_beBytes, List.length_cons, List.length_singleton,
        Nat.reduceLeDiff, *]) only [WireMessage.encode, WireBody.encode, WireBody.code,
      AddOrder.orderReferenceNumber, AddOrder.stock, AddOrder.shares, AddOrder.price,
      AddOrder.buySellIndicator, OrderExecuted.orderReferenceNumber, OrderExecuted.executedShares,
      OrderCancel.orderReferenceNumber, OrderCancel.cancelledShares,
      OrderDelete.orderReferenceNumber, OrderReplace.originalOrderReferenceNumber,
      OrderReplace.newOrderReferenceNumber, OrderReplace.shares, OrderReplace.price,
      Trade.orderReferenceNumber, Trade.stock, Trade.shares, Trade.price, Trade.buySellIndicator,
      List.append_assoc, List.singleton_append, List.cons_append, List.nil_append,
      drop_append_of_length_le, List.drop_succ_cons, List.drop_zero, length_beBytes, Nat.reduceSub,
      byteAt_append, byteAt_cons_succ, byteAt_cons_zero, Nat.reduceLT, ↓reduceIte,
      readBe64_beBytes, readBe32_beBytes, memcpy_append_of_length, charOfNat_eq_B, Int.mul_comm, *]

/-- An AddOrder's record is what `Parser::normalize_add_order` returns for its bytes. -/
theorem normalizeAddOrder_encode (hm : m.Fits) (ha : m.body.kind = .addOrder) :
    Parser.normalizeAddOrder (m.encode ++ rest) = m.body.record (UInt64.ofNat m.timestamp) := by
  have hadd := callback_parseOrder_encode m rest { callbacks := PacketHandler.handlerCallbacks }
    rfl hm
  simp only [ha, Parser.parseOrder, Parser.parseAddOrder, parseWith,
    PacketHandler.handlerCallbacks, if_true, Option.some_bind, PacketHandler.callback,
    Option.some.injEq] at hadd
  exact hadd

end Reading

/-- The callback of a message's kind builds the record its fields give. -/
theorem callback_parseMessage_encode (p : Parser)
    (hc : p.callbacks = PacketHandler.handlerCallbacks) (m : WireMessage) (hm : m.Fits)
    (rest : List UInt8) {len : Nat} (hlen : m.encode.length ≤ len) :
    (p.parseMessage (m.encode ++ rest) len).2.2.bind PacketHandler.callback =
      some (m.body.record (UInt64.ofNat m.timestamp)) := by
  rw [Parser.parseMessage_orderKind _ (orderKind_msgType_encode m rest)
    ((getMessageSize_encode m rest hm.2).symm ▸ hlen)]
  exact callback_parseOrder_encode m rest p hc hm

/-! ### The record pushed for a message -/

variable {N : Capacity}

/-- **Normalization is exact.** For each kind the handler has a callback for, and every value
of the fields, `parse_message` on the bytes of the message consumes the whole message and
pushes one record, exactly the one the fields give; for an AddOrder that record is also what
`Parser::normalize_add_order` returns for the same bytes. -/
theorem record_of_wire_exact (h : PacketHandler N)
    (hc : h.parser.callbacks = PacketHandler.handlerCallbacks) (m : WireMessage) (hm : m.Fits)
    (rest : List UInt8) (len : Nat) (hlen : m.encode.length ≤ len) :
    ((h.parseMessage (m.encode ++ rest) len).1.offers.drop h.offers.length).map (·.record) =
        [m.body.record (UInt64.ofNat m.timestamp)] ∧
      (h.parseMessage (m.encode ++ rest) len).2 = m.encode.length ∧
      (m.body.kind = .addOrder →
        Parser.normalizeAddOrder (m.encode ++ rest) = m.body.record (UInt64.ofNat m.timestamp)) := by
  refine ⟨?_, ?_, normalizeAddOrder_encode m rest hm⟩
  · rw [PacketHandler.parseMessage_offers, List.drop_left,
      callback_parseMessage_encode h.parser hc m hm rest hlen]
    rfl
  · show (h.parser.parseMessage (m.encode ++ rest) len).2.1 = _
    rw [Parser.parseMessage_fst_snd, getMessageSize_encode m rest hm.2, if_pos]
    have : 0 < m.encode.length := by simp [WireMessage.encode]
    exact ⟨by omega, this, hlen⟩

theorem add_order_wire_record :
    (((PacketHandler.new RingBuffer.new : PacketHandler messageBufferCapacity).parseMessage
        (WireMessage.encode ⟨1, 2, 3, .addOrder 4 66 5 [65, 66, 67, 68, 32, 32, 32, 32] 6⟩ ++ [])
          36).1.offers.drop 0).map (·.record) =
        [WireBody.record (UInt64.ofNat 3) (.addOrder 4 66 5 [65, 66, 67, 68, 32, 32, 32, 32] 6)] ∧
      ((PacketHandler.new RingBuffer.new : PacketHandler messageBufferCapacity).parseMessage
        (WireMessage.encode ⟨1, 2, 3, .addOrder 4 66 5 [65, 66, 67, 68, 32, 32, 32, 32] 6⟩ ++ [])
          36).2 = 36 ∧
      (OrderKind.addOrder = .addOrder →
        Parser.normalizeAddOrder
            (WireMessage.encode ⟨1, 2, 3, .addOrder 4 66 5 [65, 66, 67, 68, 32, 32, 32, 32] 6⟩ ++ []) =
          WireBody.record (UInt64.ofNat 3) (.addOrder 4 66 5 [65, 66, 67, 68, 32, 32, 32, 32] 6)) :=
  record_of_wire_exact (PacketHandler.new RingBuffer.new) rfl
    ⟨1, 2, 3, .addOrder 4 66 5 [65, 66, 67, 68, 32, 32, 32, 32] 6⟩ (by decide) [] 36 (by decide)

/-- **The ring receives the record the fields give.** On a ring with room, `parse_message` on
the bytes of a message of a kind the handler has a callback for appends to the ring exactly the
record its fields give, and counts it as pushed; for an AddOrder that record is what
`Parser::normalize_add_order` returns for the same bytes. -/
theorem ring_receives_wire_record (h : PacketHandler N)
    (hc : h.parser.callbacks = PacketHandler.handlerCallbacks) (m : WireMessage) (hm : m.Fits)
    (rest : List UInt8) (len : Nat) (hlen : m.encode.length ≤ len)
    (hroom : h.outputBuffer.size < N.val - 1) :
    (h.parseMessage (m.encode ++ rest) len).1.outputBuffer.contents =
        h.outputBuffer.contents ++ [m.body.record (UInt64.ofNat m.timestamp)] ∧
      (h.parseMessage (m.encode ++ rest) len).1.messagesPushed = h.messagesPushed + 1 ∧
      (m.body.kind = .addOrder →
        Parser.normalizeAddOrder (m.encode ++ rest) = m.body.record (UInt64.ofNat m.timestamp)) := by
  rw [PacketHandler.parseMessage_of_callback h
    (callback_parseMessage_encode h.parser hc m hm rest hlen)]
  refine ⟨?_, ?_, normalizeAddOrder_encode m rest hm⟩
  · rw [PacketHandler.offerMessage_outputBuffer, RingBuffer.contents_tryPush, if_pos hroom]
  · rw [PacketHandler.offerMessage_messagesPushed, if_pos hroom]

theorem order_executed_reaches_ring :
    ((PacketHandler.new RingBuffer.new : PacketHandler messageBufferCapacity).parseMessage
        (WireMessage.encode ⟨1, 2, 3, .orderExecuted 4 5 6⟩ ++ []) 31).1.outputBuffer.contents =
        (PacketHandler.new RingBuffer.new :
          PacketHandler messageBufferCapacity).outputBuffer.contents ++
            [WireBody.record (UInt64.ofNat 3) (.orderExecuted 4 5 6)] ∧
      ((PacketHandler.new RingBuffer.new : PacketHandler messageBufferCapacity).parseMessage
        (WireMessage.encode ⟨1, 2, 3, .orderExecuted 4 5 6⟩ ++ []) 31).1.messagesPushed =
        (PacketHandler.new RingBuffer.new :
          PacketHandler messageBufferCapacity).messagesPushed + 1 ∧
      (OrderKind.orderExecuted = .addOrder →
        Parser.normalizeAddOrder (WireMessage.encode ⟨1, 2, 3, .orderExecuted 4 5 6⟩ ++ []) =
          WireBody.record (UInt64.ofNat 3) (.orderExecuted 4 5 6)) :=
  ring_receives_wire_record (PacketHandler.new RingBuffer.new) rfl
    ⟨1, 2, 3, .orderExecuted 4 5 6⟩ (by decide) [] 31 (by decide) (by decide)

/-- An OrderExecuted message with every field zero: the record the ring receives has side
`Side::Buy`, whose byte is `'B'`, not zero. -/
theorem unsided_record_side_buy :
    ((PacketHandler.new RingBuffer.new : PacketHandler messageBufferCapacity).parseMessage
        (WireMessage.encode ⟨0, 0, 0, .orderExecuted 0 0 0⟩) 31).1.outputBuffer.contents.map
          (·.side.toChar) = ['B'] := by
  decide

end Dpdk

end ItchFeedHandler
