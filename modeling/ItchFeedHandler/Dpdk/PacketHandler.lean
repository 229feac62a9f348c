import ItchFeedHandler.Dpdk.Config
import ItchFeedHandler.Itch.Parser
import ItchFeedHandler.MoldUdp64.Session
import ItchFeedHandler.Spsc.RingBuffer

/-!
# The packet handler

`dpdk/packet_handler.hpp`: the producer side of the feed handler. A `PacketHandler` owns an ITCH
`Parser` and a MoldUDP64 `Session` and writes into the output ring it was constructed on. Its
constructor installs six parser callbacks, each of which builds a `NormalizedMessage` and hands
it to `push_message`, and makes `parse_itch_message` the session's message callback. A frame
(`process_raw_packet`, `process_mbuf`) is walked through its Ethernet, IPv4 and UDP headers and
the rest goes to `Session::process_packet`; a file of length-prefixed messages
(`process_itch_file_data`) goes to the parser directly.

The session's callbacks are run on the `Event`s `process_packet` returns, in order, and the
parser's on the `Invocation` `parse_message` returns. Each call on the ring is one atomic step;
the consumer's side is `Pipeline.lean`. The handler keeps, as a ghost field that no function of
the source reads, the log of the callbacks' `push_message` calls (`Offer`). It is written at
the call site, where `parse_message`'s callback hands its record on (`offerMessage`), from what
the call is seen to do: the record, whether the ring grew, and the ring's `size()` before it.

* `stripHeaders_slice`: the payload handed to `process_packet` starts at `22 + 4 * IHL`, and
  lies inside the frame exactly when that fits in it; otherwise `payload_len` wraps. The
  62-byte check does not ensure that: `ihl_fifteen_slice_past_frame`.
* `offers_parseMessage_type`: a message offers one record exactly when it is a whole
  AddOrder, OrderExecuted, OrderCancel, OrderDelete, OrderReplace or Trade message; the
  AddOrderMPID and OrderExecutedWithPrice kinds have no callback and never reach the ring
  (`unwired_kinds_never_reach_ring`).
* `itchFileLoop_fuel`: the file loop stops on its own, so its fuel never cuts it short.
-/

namespace ItchFeedHandler

namespace Dpdk

open Endian Itch MoldUdp64

/-- The `rte_mbuf` fields `process_mbuf` reads (the mock `rte_mbuf` of the build without DPDK):
`pkt_len`, and `buf_addr + data_off` as the first byte of the frame. -/
structure Mbuf where
  pktLen : UInt16
  bufAddr : List UInt8
  dataOff : UInt16
  deriving DecidableEq, Repr

/-- A `push_message(msg)` call as its caller sees it: the record, whether the ring took it, and
the ring's `size()` when it was offered. -/
structure Offer where
  record : NormalizedMessage
  pushed : Bool
  occupancy : Nat
  deriving DecidableEq, Repr

/-- The capacity of `PacketHandler::MessageBuffer`, `RingBuffer<NormalizedMessage, 65536>`. -/
def messageBufferCapacity : Capacity := ⟨65536, by decide, by decide⟩

/-- `class PacketHandler` on an output ring of capacity `N`, with the log of the callbacks'
`push_message` calls as a ghost field. -/
structure PacketHandler (N : Capacity) where
  outputBuffer : RingBuffer NormalizedMessage N
  parser : Parser
  session : Session
  packetsProcessed : UInt64
  bytesProcessed : UInt64
  invalidPackets : UInt64
  messagesPushed : UInt64
  bufferFullCount : UInt64
  offers : List Offer

namespace PacketHandler

variable {N : Capacity}

/-- The parser callbacks `setup_parser_callbacks` sets: AddOrder, OrderExecuted, OrderDelete,
OrderCancel, OrderReplace and Trade. AddOrderMPID and OrderExecutedWithPrice get none. -/
def handlerCallbacks : Callbacks :=
  { addOrderCb := true, orderExecutedCb := true, orderDeleteCb := true, orderCancelCb := true,
    orderReplaceCb := true, tradeCb := true }

/-- `PacketHandler(output_buffer)`: zero counters, a parser with the handler's callbacks, and a
default-constructed session (all-zero identifier) whose message callback is set. -/
def new (outputBuffer : RingBuffer NormalizedMessage N) : PacketHandler N :=
  ⟨outputBuffer, { callbacks := handlerCallbacks }, Session.new (List.replicate 10 0) false true,
    0, 0, 0, 0, 0, []⟩

/-! ### The parser callbacks -/

/-- `(msg->buy_sell_indicator == 'B') ? Side::Buy : Side::Sell`, the indicator at byte `off`. -/
def sideAt (msg : List UInt8) (off : Nat) : Side :=
  if Char.ofNat (byteAt msg off).toNat = 'B' then .buy else .sell

/-- The record of the AddOrder and Trade callbacks, which read the same fields: the kind, and
the offsets of `order_reference_number`, `stock` and `buy_sell_indicator` in the message. -/
def sidedRecord (type : MessageType) (orderRef stock side : Nat) (msg : List UInt8)
    (ts : Timestamp) (price : Price) (qty : Quantity) : NormalizedMessage :=
  { type := type, timestamp := ts, orderRef := ntoh64 (u64At msg orderRef),
    stock := memcpy (msg.drop stock) 8, side := sideAt msg side, price := price, quantity := qty }

/-- The AddOrder callback. -/
def onAddOrder : List UInt8 → Timestamp → Price → Quantity → NormalizedMessage :=
  sidedRecord .addOrder AddOrder.orderReferenceNumber AddOrder.stock AddOrder.buySellIndicator

/-- The OrderExecuted callback. -/
def onOrderExecuted (msg : List UInt8) (ts : Timestamp) : NormalizedMessage :=
  { type := .orderExecuted, timestamp := ts,
    orderRef := ntoh64 (u64At msg OrderExecuted.orderReferenceNumber),
    executedQuantity := ntoh32 (u32At msg OrderExecuted.executedShares) }

/-- The OrderDelete callback. -/
def onOrderDelete (msg : List UInt8) (ts : Timestamp) : NormalizedMessage :=
  { type := .orderDelete, timestamp := ts,
    orderRef := ntoh64 (u64At msg OrderDelete.orderReferenceNumber) }

/-- The OrderCancel callback. -/
def onOrderCancel (msg : List UInt8) (ts : Timestamp) : NormalizedMessage :=
  { type := .orderCancel, timestamp := ts,
    orderRef := ntoh64 (u64At msg OrderCancel.orderReferenceNumber),
    quantity := ntoh32 (u32At msg OrderCancel.cancelledShares) }

/-- The OrderReplace callback. -/
def onOrderReplace (msg : List UInt8) (ts : Timestamp) (price : Price) (qty : Quantity) :
    NormalizedMessage :=
  { type := .orderReplace, timestamp := ts,
    orderRef := ntoh64 (u64At msg OrderReplace.originalOrderReferenceNumber),
    newOrderRef := ntoh64 (u64At msg OrderReplace.newOrderReferenceNumber),
    price := price, quantity := qty }

/-- The Trade callback. -/
def onTrade : List UInt8 → Timestamp → Price → Quantity → NormalizedMessage :=
  sidedRecord .trade Trade.orderReferenceNumber Trade.stock Trade.buySellIndicator

/-- The record the installed callback of an invocation's slot builds; `none` for the two slots
`setup_parser_callbacks` leaves empty. -/
def callback : Invocation → Option NormalizedMessage
  | .addOrder msg ts price qty => some (onAddOrder msg ts price qty)
  | .addOrderMPID .. => none
  | .orderExecuted msg ts => some (onOrderExecuted msg ts)
  | .orderExecutedWithPrice .. => none
  | .orderCancel msg ts => some (onOrderCancel msg ts)
  | .orderDelete msg ts => some (onOrderDelete msg ts)
  | .orderReplace msg ts price qty => some (onOrderReplace msg ts price qty)
  | .trade msg ts price qty => some (onTrade msg ts price qty)

/-! ### Pushing and parsing -/

/-- `push_message(msg)`: `try_push`, then count the record as pushed or as dropped. -/
def pushMessage (h : PacketHandler N) (msg : NormalizedMessage) : PacketHandler N :=
  let r := h.outputBuffer.tryPush msg
  let h' := { h with outputBuffer := r.2 }
  if !r.1 then { h' with bufferFullCount := h.bufferFullCount + 1 }
  else { h' with messagesPushed := h.messagesPushed + 1 }

/-- A callback's call `push_message(msg)`, logged in `offers` by its caller: the record,
whether the ring's `size()` grew, and the `size()` before the call. -/
def offerMessage (h : PacketHandler N) (msg : NormalizedMessage) : PacketHandler N :=
  let h' := h.pushMessage msg
  { h' with offers := h.offers ++
      [⟨msg, decide (h.outputBuffer.size < h'.outputBuffer.size), h.outputBuffer.size⟩] }

/-- `parser_.parse_message(data, len)` with the handler's callbacks run on the invocation it
makes: the new handler and the bytes consumed. -/
def parseMessage (h : PacketHandler N) (data : List UInt8) (len : Nat) : PacketHandler N × Nat :=
  let r := h.parser.parseMessage data len
  let h' := { h with parser := r.1 }
  (match r.2.2.bind callback with
    | some msg => h'.offerMessage msg
    | none => h', r.2.1)

/-- `parse_itch_message(data, length)`, the session's message callback. -/
def parseItchMessage (h : PacketHandler N) (data : List UInt8) (length : UInt16) :
    PacketHandler N :=
  (h.parseMessage data length.toNat).1

/-- The session's callbacks made by one `process_packet`, in order: each message goes to
`parse_itch_message`; the handler sets no gap callback. -/
def onSessionEvents (h : PacketHandler N) : List Event → PacketHandler N
  | [] => h
  | .message data length _ :: events => (h.parseItchMessage data length).onSessionEvents events
  | .gap _ :: events => h.onSessionEvents events

/-! ### Frames -/

/-- `++invalid_packets_`. -/
def countInvalid (h : PacketHandler N) : PacketHandler N :=
  { h with invalidPackets := h.invalidPackets + 1 }

/-- The header walk of `process_raw_packet` and `process_mbuf` on a frame of `len` bytes: `none`
when the Ethernet type is not IPv4 or the IP protocol is not UDP, otherwise the offset of the
MoldUDP64 payload, `14 + get_ip_header_length(ip) + 8`, and `payload_len = len - offset` as
`size_t` computes it. -/
def stripHeaders (data : List UInt8) (len : Nat) : Option (Nat × Nat) :=
  if ntoh16 (u16At data EthernetHeader.etherType) ≠ ETHER_TYPE_IPV4 then none
  else
    let ip := data.drop sizeofEthernetHeader
    if byteAt ip IPv4Header.protocol ≠ IP_PROTO_UDP then none
    else
      let offset := sizeofEthernetHeader + (getIpHeaderLength ip).toNat + sizeofUDPHeader
      some (offset, (UInt64.ofNat len - UInt64.ofNat offset).toNat)

/-- The end of `process_raw_packet` and `process_mbuf`: `session_.process_packet(payload,
payload_len)` with its message callbacks, then the counters of the outcome (`len` is the
frame's length). -/
def processPayload (h : PacketHandler N) (payload : List UInt8) (payloadLen len : Nat) :
    PacketHandler N × Bool :=
  let r := h.session.processPacket payload payloadLen
  let h' := { h with session := r.1 }.onSessionEvents r.2.2
  if r.2.1 then
    ({ h' with packetsProcessed := h'.packetsProcessed + 1,
               bytesProcessed := h'.bytesProcessed + UInt64.ofNat len }, true)
  else (h'.countInvalid, false)

/-- The body `process_raw_packet` and `process_mbuf` share, on a frame of `len` bytes. -/
def processFrame (h : PacketHandler N) (data : List UInt8) (len : Nat) : PacketHandler N × Bool :=
  if len < HeaderSizes.TOTAL_MIN then (h.countInvalid, false)
  else
    match stripHeaders data len with
    | none => (h.countInvalid, false)
    | some (offset, payloadLen) => h.processPayload (data.drop offset) payloadLen len

/-- `process_raw_packet(data, len)`. -/
def processRawPacket (h : PacketHandler N) (data : List UInt8) (len : Nat) :
    PacketHandler N × Bool :=
  h.processFrame data len

/-- `process_mbuf(mbuf)`: a null mbuf is invalid; otherwise the frame of `pkt_len` bytes at
`buf_addr + data_off`. -/
def processMbuf (h : PacketHandler N) : Option Mbuf → PacketHandler N × Bool
  | none => (h.countInvalid, false)
  | some mbuf => h.processFrame (mbuf.bufAddr.drop mbuf.dataOff.toNat) mbuf.pktLen.toNat

/-! ### Files of length-prefixed messages -/

/-- The `while (offset + 2 < len)` loop of `process_itch_file_data` at `offset`, with
`messagesProcessed` counted so far and `fuel` iterations left (`itchFileLoop_fuel`: `len` is
always enough). -/
def itchFileLoop (data : List UInt8) (len : Nat) :
    Nat → Nat → Nat → PacketHandler N → PacketHandler N × Nat
  | 0, _, messagesProcessed, h => (h, messagesProcessed)
  | fuel + 1, offset, messagesProcessed, h =>
    if offset + 2 < len then
      let msgLen := (readBe16 (data.drop offset)).toNat
      if offset + 2 + msgLen > len then (h, messagesProcessed)
      else
        let r := h.parseMessage (data.drop (offset + 2)) msgLen
        itchFileLoop data len fuel (offset + 2 + msgLen)
          (if r.2 > 0 then messagesProcessed + 1 else messagesProcessed) r.1
    else (h, messagesProcessed)

/-- `process_itch_file_data(data, len)`: the new handler and the messages parsed. -/
def processItchFileData (h : PacketHandler N) (data : List UInt8) (len : Nat) :
    PacketHandler N × Nat :=
  itchFileLoop data len len 0 0 h

/-- **The loop stops on its own**: an iteration moves `offset` forward by at least two bytes, so
every fuel of at least `len - offset` gives the same result. -/
theorem itchFileLoop_fuel (data : List UInt8) (len : Nat) {fuel fuel' : Nat} (offset mp : Nat)
    (h : PacketHandler N) (hf : len ≤ offset + fuel) (hf' : len ≤ offset + fuel') :
    itchFileLoop data len fuel offset mp h = itchFileLoop data len fuel' offset mp h := by
  induction fuel generalizing fuel' offset mp h with
  | zero =>
    cases fuel' with
    | zero => rfl
    | succ m => simp only [itchFileLoop, if_neg (show ¬ offset + 2 < len by omega)]
  | succ n ih =>
    cases fuel' with
    | zero => simp only [itchFileLoop, if_neg (show ¬ offset + 2 < len by omega)]
    | succ m =>
      simp only [itchFileLoop]
      split_ifs <;> first | rfl | exact ih _ _ _ (by omega) (by omega)

/-! ### What each call does to the handler's fields -/

section Fields

variable (h : PacketHandler N)

@[simp] theorem pushMessage_offers (msg : NormalizedMessage) :
    (h.pushMessage msg).offers = h.offers := by
  unfold pushMessage; dsimp only; split <;> rfl

@[simp] theorem pushMessage_outputBuffer (msg : NormalizedMessage) :
    (h.pushMessage msg).outputBuffer = (h.outputBuffer.tryPush msg).2 := by
  unfold pushMessage; dsimp only; split <;> rfl

/-- The logged call was taken exactly when the ring held fewer than `N - 1` records. -/
theorem offerMessage_offers (msg : NormalizedMessage) :
    (h.offerMessage msg).offers =
      h.offers ++ [⟨msg, decide (h.outputBuffer.size < N.val - 1), h.outputBuffer.size⟩] := by
  show h.offers ++ [⟨msg, decide (h.outputBuffer.size < (h.pushMessage msg).outputBuffer.size),
    _⟩] = _
  rw [pushMessage_outputBuffer, RingBuffer.size_tryPush]
  split <;> simp [*]


/-- `push_message` counts every record once, as pushed or as dropped. -/
theorem pushMessage_counted (msg : NormalizedMessage) :
    (h.pushMessage msg).messagesPushed + (h.pushMessage msg).bufferFullCount =
      h.messagesPushed + h.bufferFullCount + 1 := by
  unfold pushMessage; dsimp only; split
  all_goals
    show _ + _ = h.messagesPushed + h.bufferFullCount + 1
    simp only [u64_ext, toNat_add_u64, toNat_one_u64]; omega

@[simp] theorem pushMessage_packetsProcessed (msg : NormalizedMessage) :
    (h.pushMessage msg).packetsProcessed = h.packetsProcessed := by
  unfold pushMessage; dsimp only; split <;> rfl

@[simp] theorem pushMessage_invalidPackets (msg : NormalizedMessage) :
    (h.pushMessage msg).invalidPackets = h.invalidPackets := by
  unfold pushMessage; dsimp only; split <;> rfl

/-! Logging the call changes nothing but the log. -/

@[simp] theorem offerMessage_outputBuffer (msg : NormalizedMessage) :
    (h.offerMessage msg).outputBuffer = (h.outputBuffer.tryPush msg).2 :=
  pushMessage_outputBuffer h msg

theorem offerMessage_counted (msg : NormalizedMessage) :
    (h.offerMessage msg).messagesPushed + (h.offerMessage msg).bufferFullCount =
      h.messagesPushed + h.bufferFullCount + 1 :=
  pushMessage_counted h msg

theorem offerMessage_messagesPushed (msg : NormalizedMessage) :
    (h.offerMessage msg).messagesPushed =
      if h.outputBuffer.size < N.val - 1 then h.messagesPushed + 1 else h.messagesPushed := by
  show (h.pushMessage msg).messagesPushed = _
  unfold pushMessage; dsimp only
  rw [RingBuffer.tryPush_fst]
  by_cases hs : h.outputBuffer.size < N.val - 1 <;> simp [hs]

theorem offerMessage_bufferFullCount (msg : NormalizedMessage) :
    (h.offerMessage msg).bufferFullCount =
      if h.outputBuffer.size < N.val - 1 then h.bufferFullCount else h.bufferFullCount + 1 := by
  show (h.pushMessage msg).bufferFullCount = _
  unfold pushMessage; dsimp only
  rw [RingBuffer.tryPush_fst]
  by_cases hs : h.outputBuffer.size < N.val - 1 <;> simp [hs]

@[simp] theorem offerMessage_packetsProcessed (msg : NormalizedMessage) :
    (h.offerMessage msg).packetsProcessed = h.packetsProcessed :=
  pushMessage_packetsProcessed h msg

@[simp] theorem offerMessage_invalidPackets (msg : NormalizedMessage) :
    (h.offerMessage msg).invalidPackets = h.invalidPackets :=
  pushMessage_invalidPackets h msg

@[simp] theorem parseMessage_packetsProcessed (data : List UInt8) (len : Nat) :
    (h.parseMessage data len).1.packetsProcessed = h.packetsProcessed := by
  unfold parseMessage; dsimp only; split <;> simp

@[simp] theorem parseMessage_invalidPackets (data : List UInt8) (len : Nat) :
    (h.parseMessage data len).1.invalidPackets = h.invalidPackets := by
  unfold parseMessage; dsimp only; split <;> simp

/-- When the callback builds a record, `parse_message` hands it to a logged `push_message`. -/
theorem parseMessage_of_callback {data : List UInt8} {len : Nat} {msg : NormalizedMessage}
    (hm : (h.parser.parseMessage data len).2.2.bind callback = some msg) :
    (h.parseMessage data len).1 =
      { h with parser := (h.parser.parseMessage data len).1 }.offerMessage msg := by
  unfold parseMessage; dsimp only; rw [hm]

/-- The handler's `parse_message` returns what the parser's does. -/
theorem parseMessage_snd (data : List UInt8) (len : Nat) :
    (h.parseMessage data len).2 = (h.parser.parseMessage data len).2.1 := rfl

/-- `parse_message` with the handler's callbacks logs the one record the callback builds for
the invocation, if any. -/
theorem parseMessage_offers (data : List UInt8) (len : Nat) :
    (h.parseMessage data len).1.offers = h.offers ++
      (((h.parser.parseMessage data len).2.2.bind callback).map fun m =>
        (⟨m, decide (h.outputBuffer.size < N.val - 1), h.outputBuffer.size⟩ : Offer)).toList := by
  unfold parseMessage; dsimp only; split
  · next msg hm => rw [hm, offerMessage_offers]; rfl
  · next hm => rw [hm]; exact (List.append_nil _).symm

end Fields

/-! ### Which messages reach the ring -/

/-- The kind of the record each callback builds is the kind of its slot, and the callbacks
that exist are the slots `handlerCallbacks` sets. -/
theorem callback_type (i : Invocation) :
    (callback i).map NormalizedMessage.type =
      if handlerCallbacks.get i.kind then some i.kind.messageType else none := by
  cases i <;> rfl

/-- **Per message**: with the handler's callbacks, `parse_message` offers one record exactly
for a whole message of a kind `setup_parser_callbacks` wires, of that kind, and none for any
other buffer: none for AddOrderMPID and OrderExecutedWithPrice, none for an administrative,
unknown or short message. -/
theorem offers_parseMessage_type (h : PacketHandler N) (hc : h.parser.callbacks = handlerCallbacks)
    (data : List UInt8) (len : Nat) :
    ((h.parseMessage data len).1.offers.drop h.offers.length).map (·.record.type) =
      (if getMessageSize (Parser.msgType data) ≤ len ∧ 1 ≤ len then
        (orderKind? (Parser.msgType data)).bind fun k =>
          if handlerCallbacks.get k then some k.messageType else none
      else none).toList := by
  have hg (o : Option Invocation) : (o.bind callback).map NormalizedMessage.type =
      (o.map Invocation.kind).bind fun k =>
        if handlerCallbacks.get k then some k.messageType else none := by
    cases o <;> simp [callback_type]
  have hf (o : Option OrderKind) :
      (o.bind fun k => if handlerCallbacks.get k then some k else none).bind
        (fun k => if handlerCallbacks.get k then some k.messageType else none) =
      o.bind fun k => if handlerCallbacks.get k then some k.messageType else none := by
    cases o with
    | none => rfl
    | some k => by_cases hk : handlerCallbacks.get k <;> simp [hk]
  have hmap (o : Option NormalizedMessage) (b : Bool) (n : Nat) :
      ((o.map fun msg => (⟨msg, b, n⟩ : Offer)).toList.map fun x => x.record.type) =
        (o.map NormalizedMessage.type).toList := by
    cases o <;> rfl
  have key := hg (h.parser.parseMessage data len).2.2
  rw [h.parser.parseMessage_invocation, hc] at key
  rw [parseMessage_offers, List.drop_left, hmap, key]
  split
  · rw [hf]
  · rfl

theorem add_order_offers_one :
    (((new RingBuffer.new : PacketHandler messageBufferCapacity).parseMessage
        (65 :: List.replicate 35 0) 36).1.offers.drop 0).map (·.record.type) = [.addOrder] :=
  (offers_parseMessage_type (new RingBuffer.new) rfl _ _).trans (by decide)

/-- A whole AddOrderMPID message (`'F'`, 40 bytes) and a whole OrderExecutedWithPrice message
(`'C'`, 36 bytes) in `process_itch_file_data` are each parsed (one message processed) but put
nothing in the ring and leave `messages_pushed + buffer_full_count` at zero, where a whole
AddOrder message (`'A'`, 36 bytes) puts one AddOrder record in the ring. -/
theorem unwired_kinds_never_reach_ring :
    ((new RingBuffer.new : PacketHandler messageBufferCapacity).processItchFileData
        (0 :: 40 :: 70 :: List.replicate 39 0) 42).2 = 1 ∧
    ((new RingBuffer.new : PacketHandler messageBufferCapacity).processItchFileData
        (0 :: 40 :: 70 :: List.replicate 39 0) 42).1.messagesPushed +
      ((new RingBuffer.new : PacketHandler messageBufferCapacity).processItchFileData
        (0 :: 40 :: 70 :: List.replicate 39 0) 42).1.bufferFullCount = 0 ∧
    ((new RingBuffer.new : PacketHandler messageBufferCapacity).processItchFileData
        (0 :: 40 :: 70 :: List.replicate 39 0) 42).1.outputBuffer.contents = [] ∧
    ((new RingBuffer.new : PacketHandler messageBufferCapacity).processItchFileData
        (0 :: 36 :: 67 :: List.replicate 35 0) 38).2 = 1 ∧
    ((new RingBuffer.new : PacketHandler messageBufferCapacity).processItchFileData
        (0 :: 36 :: 67 :: List.replicate 35 0) 38).1.messagesPushed +
      ((new RingBuffer.new : PacketHandler messageBufferCapacity).processItchFileData
        (0 :: 36 :: 67 :: List.replicate 35 0) 38).1.bufferFullCount = 0 ∧
    ((new RingBuffer.new : PacketHandler messageBufferCapacity).processItchFileData
        (0 :: 36 :: 67 :: List.replicate 35 0) 38).1.outputBuffer.contents = [] ∧
    (((new RingBuffer.new : PacketHandler messageBufferCapacity).processItchFileData
        (0 :: 36 :: 65 :: List.replicate 35 0) 38).1.outputBuffer.contents.map
          NormalizedMessage.type) = [.addOrder] := by
  decide

/-! ### The header walk -/

/-- **Where the payload lies**: the walk puts the payload at `22 + 4 * IHL`, with `IHL` the low
nibble of the frame's byte 14, so at most at byte `82`, and `payload_len = len - offset` is
computed in `size_t`: the payload ends at `len` when `offset ≤ len < 2 ^ 64`, and wraps to
`2 ^ 64 + len - offset` when the IP header length does not fit. -/
theorem stripHeaders_slice {data : List UInt8} {len offset payloadLen : Nat}
    (h : stripHeaders data len = some (offset, payloadLen)) :
    offset = 22 + 4 * ((byteAt data 14).toNat % 16) ∧
      payloadLen = (len + 2 ^ 64 - offset) % 2 ^ 64 := by
  unfold stripHeaders at h
  dsimp only at h
  split_ifs at h
  cases h
  rw [getIpHeaderLength_toNat, byteAt_drop]
  simp only [toNat_sub_u64, toNat_ofNat_u64, sizeofEthernetHeader, sizeofUDPHeader,
    IPv4Header.versionIhl, Nat.add_zero]
  have hb := toNat_lt_256 (byteAt data 14)
  omega

/-- A frame that passed the length check and the header walk goes to `process_packet` at the
offset and with the length the walk computed. -/
theorem processFrame_of_stripHeaders (h : PacketHandler N) {data : List UInt8}
    {len offset payloadLen : Nat} (hlen : ¬ len < HeaderSizes.TOTAL_MIN)
    (hs : stripHeaders data len = some (offset, payloadLen)) :
    h.processFrame data len = h.processPayload (data.drop offset) payloadLen len := by
  rw [processFrame, if_neg hlen, hs]

/-- A 62-byte IPv4/UDP frame whose `version_ihl` byte is `0x4F` passes the 62-byte length check,
but the header walk puts the payload at byte `82`, past the frame, and `payload_len` wraps to
`2 ^ 64 - 20`: `process_raw_packet` calls `process_packet` on the bytes after the frame with
that length. -/
theorem ihl_fifteen_slice_past_frame :
    stripHeaders (List.replicate 12 0 ++ [8, 0, 0x4F] ++ List.replicate 8 0 ++ [17] ++
        List.replicate 38 0) 62 = some (82, 2 ^ 64 - 20) ∧
      ∀ h : PacketHandler N, h.processRawPacket (List.replicate 12 0 ++ [8, 0, 0x4F] ++
        List.replicate 8 0 ++ [17] ++ List.replicate 38 0) 62 =
          h.processPayload [] (2 ^ 64 - 20) 62 := by
  have hs : stripHeaders (List.replicate 12 0 ++ [8, 0, 0x4F] ++ List.replicate 8 0 ++ [17] ++
      List.replicate 38 0) 62 = some (82, 2 ^ 64 - 20) := by decide
  exact ⟨hs, fun h => processFrame_of_stripHeaders h (by decide) hs⟩

end PacketHandler

end Dpdk

end ItchFeedHandler
