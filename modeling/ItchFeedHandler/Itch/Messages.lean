import ItchFeedHandler.Common.Types

/-!
# ITCH 5.0 messages

`itch5/messages.hpp`: the message-type codes, the packed message layouts and
`get_message_size`.

A message is the byte list from its type byte on, which is what the parser's
`reinterpret_cast` to a packed struct reads. A field is read at its `offsetof` in the
struct; the offsets below are those of the fields the parser and the packet handler read,
and the other fields are left out. A multibyte field is read as the host reads a packed
member (`u32At`, `u64At`: `std::memcpy` semantics on the little-endian host), and the reader
applies the `ntoh*` the source applies, so that `ntoh32 (u32At msg off)` is the big-endian
value of the four bytes at `off` (`ntoh32_u32At`).
-/

namespace ItchFeedHandler

namespace Itch

open Endian

/-- `get_message_size`: `sizeof` the packed struct of each message-type code, `0` for a code
ITCH 5.0 does not define. -/
def getMessageSize : Char → Nat
  | 'S' => 12  -- SystemEvent
  | 'R' => 39  -- StockDirectory
  | 'H' => 25  -- StockTradingAction
  | 'Y' => 20  -- RegSHORestriction
  | 'L' => 26  -- MarketParticipantPosition
  | 'V' => 35  -- MWCBDecline
  | 'W' => 12  -- MWCBStatus
  | 'K' => 28  -- IPOQuotingPeriod
  | 'J' => 35  -- LULDAuctionCollar
  | 'h' => 21  -- OperationalHalt
  | 'A' => 36  -- AddOrder
  | 'F' => 40  -- AddOrderMPID
  | 'E' => 31  -- OrderExecuted
  | 'C' => 36  -- OrderExecutedWithPrice
  | 'X' => 23  -- OrderCancel
  | 'D' => 19  -- OrderDelete
  | 'U' => 35  -- OrderReplace
  | 'P' => 44  -- Trade
  | 'Q' => 40  -- CrossTrade
  | 'B' => 19  -- BrokenTrade
  | 'I' => 50  -- NOII
  | 'N' => 20  -- RPII
  | _ => 0

/-- The eight order-flow message kinds, each with a callback slot in the parser. -/
inductive OrderKind
  | addOrder
  | addOrderMPID
  | orderExecuted
  | orderExecutedWithPrice
  | orderCancel
  | orderDelete
  | orderReplace
  | trade
  deriving DecidableEq, Repr

/-- The order-flow kind of a message-type code (`msg_type::AddOrder` is `'A'`, ...). -/
def orderKind? : Char → Option OrderKind
  | 'A' => some .addOrder
  | 'F' => some .addOrderMPID
  | 'E' => some .orderExecuted
  | 'C' => some .orderExecutedWithPrice
  | 'X' => some .orderCancel
  | 'D' => some .orderDelete
  | 'U' => some .orderReplace
  | 'P' => some .trade
  | _ => none

/-- The normalized kind tag of each order-flow kind. -/
def OrderKind.messageType : OrderKind → MessageType
  | .addOrder => .addOrder
  | .addOrderMPID => .addOrderMPID
  | .orderExecuted => .orderExecuted
  | .orderExecutedWithPrice => .orderExecutedWithPrice
  | .orderCancel => .orderCancel
  | .orderDelete => .orderDelete
  | .orderReplace => .orderReplace
  | .trade => .trade

/-- The message-type code of each order-flow kind. -/
def OrderKind.code : OrderKind → Char
  | .addOrder => 'A'
  | .addOrderMPID => 'F'
  | .orderExecuted => 'E'
  | .orderExecutedWithPrice => 'C'
  | .orderCancel => 'X'
  | .orderDelete => 'D'
  | .orderReplace => 'U'
  | .trade => 'P'

theorem eq_code_of_orderKind {c : Char} {k : OrderKind} (h : orderKind? c = some k) :
    c = k.code := by
  unfold orderKind? at h
  split at h <;> (try cases h) <;> rfl

/-- Every order-flow code has a message size. -/
theorem getMessageSize_pos_of_orderKind {c : Char} {k : OrderKind} (h : orderKind? c = some k) :
    0 < getMessageSize c := by
  unfold orderKind? at h
  split at h <;> first | decide | exact absurd h nofun

/-! ### Packed fields -/

/-- A packed `uint32_t` member at byte `off`, as the host reads it. -/
def u32At (msg : List UInt8) (off : Nat) : UInt32 := UInt32.ofNat (loadLE (msg.drop off) 4)

/-- A packed `uint64_t` member at byte `off`, as the host reads it. -/
def u64At (msg : List UInt8) (off : Nat) : UInt64 := UInt64.ofNat (loadLE (msg.drop off) 8)

theorem ntoh32_u32At (msg : List UInt8) (off : Nat) :
    ntoh32 (u32At msg off) = readBe32 (msg.drop off) := rfl

theorem ntoh64_u64At (msg : List UInt8) (off : Nat) :
    ntoh64 (u64At msg off) = readBe64 (msg.drop off) := rfl

/-- `offsetof(MessageHeader, timestamp)`: six big-endian bytes of nanoseconds, at the same
offset in every message. -/
def MessageHeader.timestamp : Nat := 5

namespace AddOrder
/-- `offsetof(AddOrder, order_reference_number)` -/
def orderReferenceNumber : Nat := 11
/-- `offsetof(AddOrder, buy_sell_indicator)` -/
def buySellIndicator : Nat := 19
/-- `offsetof(AddOrder, shares)` -/
def shares : Nat := 20
/-- `offsetof(AddOrder, stock)` -/
def stock : Nat := 24
/-- `offsetof(AddOrder, price)` -/
def price : Nat := 32
end AddOrder

namespace AddOrderMPID
/-- `offsetof(AddOrderMPID, shares)` -/
def shares : Nat := 20
/-- `offsetof(AddOrderMPID, price)` -/
def price : Nat := 32
end AddOrderMPID

namespace OrderExecuted
/-- `offsetof(OrderExecuted, order_reference_number)` -/
def orderReferenceNumber : Nat := 11
/-- `offsetof(OrderExecuted, executed_shares)` -/
def executedShares : Nat := 19
end OrderExecuted

namespace OrderExecutedWithPrice
/-- `offsetof(OrderExecutedWithPrice, execution_price)` -/
def executionPrice : Nat := 32
end OrderExecutedWithPrice

namespace OrderCancel
/-- `offsetof(OrderCancel, order_reference_number)` -/
def orderReferenceNumber : Nat := 11
/-- `offsetof(OrderCancel, cancelled_shares)` -/
def cancelledShares : Nat := 19
end OrderCancel

namespace OrderDelete
/-- `offsetof(OrderDelete, order_reference_number)` -/
def orderReferenceNumber : Nat := 11
end OrderDelete

namespace OrderReplace
/-- `offsetof(OrderReplace, original_order_reference_number)` -/
def originalOrderReferenceNumber : Nat := 11
/-- `offsetof(OrderReplace, new_order_reference_number)` -/
def newOrderReferenceNumber : Nat := 19
/-- `offsetof(OrderReplace, shares)` -/
def shares : Nat := 27
/-- `offsetof(OrderReplace, price)` -/
def price : Nat := 31
end OrderReplace

namespace Trade
/-- `offsetof(Trade, order_reference_number)` -/
def orderReferenceNumber : Nat := 11
/-- `offsetof(Trade, buy_sell_indicator)` -/
def buySellIndicator : Nat := 19
/-- `offsetof(Trade, shares)` -/
def shares : Nat := 20
/-- `offsetof(Trade, stock)` -/
def stock : Nat := 24
/-- `offsetof(Trade, price)` -/
def price : Nat := 32
end Trade

end Itch

end ItchFeedHandler
