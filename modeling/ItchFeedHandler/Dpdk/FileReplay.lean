import ItchFeedHandler.Dpdk.PacketHandler
import ItchFeedHandler.MoldUdp64.Framing

/-!
# Replaying a file of length-prefixed messages

`PacketHandler::process_itch_file_data(data, len)` walks a buffer of frames, each a 2-byte
big-endian length and that many body bytes, and hands each body to `parser_.parse_message`
with the handler's callbacks. What the walk should do is said from the spec's side by
`lengthPrefixed` (the maximal run of complete frames) and `replayFrames` (parse each body in
order and count the nonzero returns).

What a call reads is said by what its result depends on: `parse_message` with the handler's
callbacks gives the same result on a buffer and on its first `len` bytes
(`parseMessage_take`), since it reads the type byte only when `len >= 1` and the fields only
when `len` holds the whole message, and every field lies inside it.

* `file_replay_exact_frames`: `process_itch_file_data` parses the body of every complete frame
  from offset `0`, in order, returns the number of them `parse_message` returned nonzero for,
  and reads no byte at or past `len`. The loop's guard `offset + 2 < len` skips a zero-length
  frame that ends the buffer, which parsing would leave unchanged.
-/

namespace ItchFeedHandler

namespace Dpdk

open Endian Itch MoldUdp64

/-! ### Reads below the length -/

section Reads

variable {d : List UInt8} {L : Nat}

theorem u32At_take {off : Nat} (h : off + 4 ≤ L) : u32At (d.take L) off = u32At d off := by
  rw [u32At, u32At, List.drop_take, loadLE_take _ (by omega)]

theorem u64At_take {off : Nat} (h : off + 8 ≤ L) : u64At (d.take L) off = u64At d off := by
  rw [u64At, u64At, List.drop_take, loadLE_take _ (by omega)]

theorem timestamp_take (h : 11 ≤ L) : timestamp (d.take L) = timestamp d := by
  rw [timestamp, timestamp, MessageHeader.timestamp, List.drop_take, readBe48_take _ (by omega)]

theorem memcpy_drop_take {off n : Nat} (h : off + n ≤ L) :
    memcpy ((d.take L).drop off) n = memcpy (d.drop off) n := by
  rw [List.drop_take, memcpy_take _ (by omega)]

theorem sideAt_take {off : Nat} (h : off < L) :
    PacketHandler.sideAt (d.take L) off = PacketHandler.sideAt d off := by
  rw [PacketHandler.sideAt, PacketHandler.sideAt, byteAt_take_of_lt d h]

end Reads

namespace PacketHandler

variable {N : Capacity}

/-- The `switch` of `parse_message` leaves the same parser whatever the message bytes. -/
theorem dispatch_fst (p : Parser) (c : Char) (msg msg' : List UInt8) :
    (p.dispatch c msg).1 = (p.dispatch c msg').1 := by
  unfold Parser.dispatch
  split
  · next k _ => cases k <;> rfl
  · rfl

/-- The record the handler's callbacks build for a message of a kind depends only on the
message's bytes below its size. -/
theorem dispatch_callback_take (p : Parser) {c : Char} (h : getMessageSize c ≤ L) :
    (p.dispatch c (d.take L)).2.bind callback = (p.dispatch c d).2.bind callback := by
  unfold Parser.dispatch
  split
  · next k hk =>
    obtain rfl := eq_code_of_orderKind hk
    cases k <;>
      simp only [Parser.parseOrder, Parser.parseAddOrder, Parser.parseAddOrderMpid,
        Parser.parseOrderExecuted, Parser.parseOrderExecutedWithPrice, Parser.parseOrderCancel,
        Parser.parseOrderDelete, Parser.parseOrderReplace, Parser.parseTrade, parseWith] <;>
      split <;> simp (disch := first | exact Nat.le_trans (by decide) h | exact Nat.lt_of_lt_of_le (by decide) h) only [Option.some_bind, Option.none_bind, callback, onAddOrder, onTrade,
        sidedRecord, onOrderExecuted, onOrderCancel, onOrderDelete, onOrderReplace, u32At_take,
        u64At_take, timestamp_take, memcpy_drop_take, sideAt_take, AddOrder.orderReferenceNumber,
        AddOrder.stock, AddOrder.shares, AddOrder.price, AddOrder.buySellIndicator,
        AddOrderMPID.shares, AddOrderMPID.price, OrderExecutedWithPrice.executionPrice,
        OrderExecuted.orderReferenceNumber, OrderExecuted.executedShares,
        OrderCancel.orderReferenceNumber, OrderCancel.cancelledShares,
        OrderDelete.orderReferenceNumber, OrderReplace.originalOrderReferenceNumber,
        OrderReplace.newOrderReferenceNumber, OrderReplace.shares, OrderReplace.price,
        Trade.orderReferenceNumber, Trade.stock, Trade.shares, Trade.price, Trade.buySellIndicator]
  · rfl

/-- **`parse_message` reads nothing at or past `len`**: with the handler's callbacks it does the
same on a buffer as on the buffer's first `len` bytes. -/
theorem parseMessage_take (h : PacketHandler N) (d : List UInt8) (L : Nat) :
    h.parseMessage (d.take L) L = h.parseMessage d L := by
  have key : (h.parser.parseMessage (d.take L) L).1 = (h.parser.parseMessage d L).1 ∧
      (h.parser.parseMessage (d.take L) L).2.1 = (h.parser.parseMessage d L).2.1 ∧
      (h.parser.parseMessage (d.take L) L).2.2.bind callback =
        (h.parser.parseMessage d L).2.2.bind callback := by
    unfold Parser.parseMessage
    dsimp only
    by_cases hL : L < 1
    · simp only [if_pos hL, and_self]
    rw [byteAt_take_of_lt d (by omega : 0 < L)]
    split_ifs with h1 h2
    · exact ⟨rfl, rfl, rfl⟩
    · exact ⟨rfl, rfl, rfl⟩
    have e1 := dispatch_fst h.parser (Char.ofNat (byteAt d 0).toNat) (d.take L) d
    have e2 := dispatch_callback_take (d := d) (L := L) (c := Char.ofNat (byteAt d 0).toNat) h.parser
      (by omega)
    generalize h.parser.dispatch _ (d.take L) = r1 at e1 e2 ⊢
    generalize h.parser.dispatch _ d = r2 at e1 e2 ⊢
    obtain ⟨p1, i1⟩ := r1
    obtain ⟨p2, i2⟩ := r2
    cases e1
    exact ⟨rfl, rfl, e2⟩
  unfold parseMessage
  dsimp only
  rw [key.1, key.2.1, key.2.2]

/-! ### The frames the loop parses -/

/-- Specification: `parse_message` on the body of each frame in order, and the number
of frames it returned nonzero for. -/
def replayFrames (data : List UInt8) (h : PacketHandler N) :
    List (Nat × Nat) → PacketHandler N × Nat
  | [] => (h, 0)
  | frame :: frames =>
    let r := h.parseMessage (data.drop frame.1) frame.2
    let rest := replayFrames data r.1 frames
    (rest.1, (if r.2 > 0 then 1 else 0) + rest.2)

/-- An empty body is no message: parsing it changes nothing. -/
theorem parseMessage_zero (h : PacketHandler N) (d : List UInt8) : h.parseMessage d 0 = (h, 0) :=
  rfl

/-- **The loop parses the complete frames**: with enough fuel, the loop from `offset` does what
parsing the bodies of the complete frames from `offset` in order does, counting on from `mp`. -/
theorem itchFileLoop_eq_replayFrames (data : List UInt8) (len fuel : Nat) :
    ∀ offset mp (h : PacketHandler N), len ≤ offset + fuel →
      itchFileLoop data len fuel offset mp h =
        ((replayFrames data h (lengthPrefixed data len offset)).1,
          mp + (replayFrames data h (lengthPrefixed data len offset)).2) := by
  induction fuel with
  | zero =>
    intro offset mp h hf
    rw [lengthPrefixed, dif_neg (by omega)]
    rfl
  | succ fuel ih =>
    intro offset mp h hf
    rw [itchFileLoop, lengthPrefixed]
    simp only [readBe16_toNat, gt_iff_lt]
    by_cases h1 : offset + 2 < len
    · rw [if_pos h1]
      by_cases h2 : offset + 2 + loadBE (data.drop offset) 2 ≤ len
      · rw [if_neg (by omega), dif_pos ⟨by omega, h2⟩, ih _ _ _ (by omega)]
        simp only [replayFrames, Prod.mk.injEq, true_and]
        split_ifs <;> omega
      · rw [if_pos (by omega), dif_neg (by omega)]
        rfl
    · rw [if_neg h1]
      by_cases h2 : offset + 2 ≤ len ∧ offset + 2 + loadBE (data.drop offset) 2 ≤ len
      · -- a zero-length frame ends the buffer: the loop skips it, and parsing it changes nothing
        have hL : loadBE (data.drop offset) 2 = 0 := by omega
        rw [dif_pos h2, hL, lengthPrefixed, dif_neg (by omega)]
        rfl
      · rw [dif_neg h2]
        rfl

/-- **The loop reads nothing at or past `len`**: it does the same on the buffer's first `len`
bytes. -/
theorem itchFileLoop_take (data : List UInt8) (len fuel : Nat) :
    ∀ offset mp (h : PacketHandler N),
      itchFileLoop (data.take len) len fuel offset mp h = itchFileLoop data len fuel offset mp h := by
  induction fuel with
  | zero => intro offset mp h; rfl
  | succ fuel ih =>
    intro offset mp h
    simp only [itchFileLoop]
    by_cases h1 : offset + 2 < len
    · have hread : readBe16 ((data.take len).drop offset) = readBe16 (data.drop offset) := by
        rw [List.drop_take, readBe16_take _ (by omega)]
      have hbody : ∀ x : List UInt8, ∀ m L, L ≤ m →
          h.parseMessage (x.take m) L = h.parseMessage x L := fun x m L hLm => by
        rw [← parseMessage_take h (x.take m), List.take_take, Nat.min_eq_left hLm,
          parseMessage_take]
      rw [if_pos h1, if_pos h1, hread]
      by_cases h2 : offset + 2 + (readBe16 (data.drop offset)).toNat > len
      · rw [if_pos h2, if_pos h2]
      · rw [if_neg h2, if_neg h2, List.drop_take, hbody _ _ _ (by omega), ih]
    · rw [if_neg h1, if_neg h1]

/-- **The file replay processes exactly the complete frames.** `process_itch_file_data(data,
len)` parses, in order, the body of every frame of the maximal run of complete frames from
offset `0`, and returns the number of them `parse_message` returned nonzero for; and it reads no
byte at or past `len`: on the buffer's first `len` bytes it does the same. -/
theorem file_replay_exact_frames (h : PacketHandler N) (data : List UInt8) (len : Nat) :
    h.processItchFileData data len = replayFrames data h (lengthPrefixed data len 0) ∧
      h.processItchFileData (data.take len) len = h.processItchFileData data len := by
  refine ⟨?_, itchFileLoop_take data len len 0 0 h⟩
  rw [processItchFileData, itchFileLoop_eq_replayFrames data len len 0 0 h (by omega),
    Nat.zero_add]

end PacketHandler

end Dpdk

end ItchFeedHandler
