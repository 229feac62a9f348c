import ItchFeedHandler.MoldUdp64.Framing
import ItchFeedHandler.MoldUdp64.Recovery

/-!
# The MoldUDP64 packet format

A packet as the tests' `create_moldudp_packet` lays it out (`buildPacket`: the 10-byte session,
the sequence number and the message count in network order, then each message behind its 2-byte
big-endian length) against what `HeaderParser::parse` and the message loop of `process_packet`
read from a buffer.

* Completeness: the parser reads a built packet's header back (`parse_buildPacket`), and the
  loop, run for the header's `message_count`, dispatches exactly its messages, numbered on from
  the sequence number (`dispatchLoop_blocks`).
* Soundness: the header a buffer parses to, written back in network order, is the buffer's first
  20 bytes (`take_headerSize_of_parse`), and the messages the loop dispatches, each put back
  behind its length, are the bytes it walked (`dispatchLoop_prefix`). So a buffer in which the
  loop finds all `message_count` blocks begins with the packet built from what was read.

`packet_format_round_trip` states both directions.
-/

namespace ItchFeedHandler

namespace MoldUdp64

open Endian HeaderParser

/-- What `HeaderParser::parse` accepts: at least `headerSize` bytes, read as the header. -/
theorem parse_eq_some {data : List UInt8} {len : Nat} {header : Header}
    (h : parse data len = some header) :
    headerSize ≤ len ∧
      header = ⟨memcpy data 10, readBe64 (data.drop 10), readBe16 (data.drop 18)⟩ := by
  unfold parse at h
  split_ifs at h with hl
  exact ⟨Nat.le_of_not_lt hl, (Option.some.inj h).symm⟩

/-- The header a buffer parses to, written back in network order, is the buffer's first
`headerSize` bytes. -/
theorem take_headerSize_of_parse {data : List UInt8} {len : Nat} {header : Header}
    (h : parse data len = some header) (hlen : len ≤ data.length) :
    data.take headerSize =
      header.session ++ beBytes 8 header.sequenceNumber.toNat ++
        beBytes 2 header.messageCount.toNat := by
  obtain ⟨hl, rfl⟩ := parse_eq_some h
  simp only [headerSize] at hl
  have h10 : (data.drop 10).take 10 = (data.drop 10).take 8 ++ (data.drop 18).take 2 := by
    rw [show (10 : Nat) = 8 + 2 from rfl, List.take_add, List.drop_drop]
  rw [readBe64_toNat, readBe16_toNat, memcpy_eq_take _ (by omega),
    beBytes_loadBE _ (by simp; omega), beBytes_loadBE _ (by simp; omega), headerSize,
    show (20 : Nat) = 10 + 10 from rfl, List.take_add, h10, List.append_assoc]

namespace Session

/-- **Soundness of the message loop**: on a buffer of at least `len` bytes, the messages
`process_packet`'s loop dispatches, each put back behind its 2-byte length, are the bytes the
loop walked from `offset`. -/
theorem dispatchLoop_prefix {data : List UInt8} {len : Nat} (hlen : len ≤ data.length) :
    ∀ n offset seq, ((((dispatchLoop data len n offset seq).filterMap Event.payload?).map
      Prod.fst).map encodeBlock).flatten <+: data.drop offset
  | 0, _, _ => List.nil_prefix
  | n + 1, offset, seq => by
    rw [dispatchLoop]
    dsimp only
    split_ifs with h1 h2
    · exact List.nil_prefix
    · exact List.nil_prefix
    simp only [messageBlockSize, gt_iff_lt, not_lt, toNat_readMessageLength] at h1 h2
    set L := loadBE (data.drop offset) 2
    have hblock :
        encodeBlock ((data.drop (offset + 2)).take L) = (data.drop offset).take (2 + L) := by
      rw [encodeBlock, List.length_take_of_le (by simp; omega), beBytes_loadBE _ (by simp; omega),
        List.take_add, List.drop_drop]
    rw [List.filterMap_cons, Event.payload?, toNat_readMessageLength, List.map_cons, List.map_cons,
      List.flatten_cons, messageBlockSize, hblock]
    conv_rhs => rw [← List.take_append_drop (2 + L) (data.drop offset)]
    rw [List.prefix_append_right_inj, List.drop_drop, ← Nat.add_assoc]
    exact dispatchLoop_prefix hlen n _ _

end Session

open Session in
/-- **The packet format round trips.** Completeness: for a 10-byte session, a sequence number
and fewer than `2 ^ 16` messages of fewer than `2 ^ 16` bytes each, `HeaderParser::parse` reads
the built packet's header back, and `process_packet`'s loop, run for its `message_count`
iterations, dispatches exactly the messages, numbered on from the sequence number. Soundness:
on a buffer of at least `len` bytes, when the parser accepts and the loop finds all
`message_count` blocks, the buffer begins with the packet built from the header read and the
messages dispatched. -/
theorem packet_format_round_trip :
    (∀ (session : List UInt8) (seq : SequenceNumber) (msgs : List (List UInt8)),
      session.length = 10 → msgs.length < 2 ^ 16 → (∀ m ∈ msgs, m.length < 2 ^ 16) →
        parse (buildPacket session seq msgs) (buildPacket session seq msgs).length =
            some ⟨session, seq, UInt16.ofNat msgs.length⟩ ∧
          (dispatchLoop (buildPacket session seq msgs) (buildPacket session seq msgs).length
              msgs.length getMessagesOffset seq).filterMap Event.payload? =
            (msgs.enumFrom seq.toNat).map fun p => (p.2, UInt64.ofNat p.1)) ∧
    (∀ (data : List UInt8) (len : Nat) (header : Header), len ≤ data.length →
      parse data len = some header →
      ((dispatchLoop data len header.messageCount.toNat getMessagesOffset
          header.sequenceNumber).filterMap Event.payload?).length = header.messageCount.toNat →
        buildPacket header.session header.sequenceNumber
            (((dispatchLoop data len header.messageCount.toNat getMessagesOffset
              header.sequenceNumber).filterMap Event.payload?).map Prod.fst) <+: data) := by
  refine ⟨fun session seq msgs hs hn hm => ⟨parse_buildPacket hs seq hn, ?_⟩,
    fun data len header hlen hp hcount => ?_⟩
  · have hseq : UInt64.ofNat seq.toNat = seq :=
      u64_ext.mpr (by rw [toNat_ofNat_u64, Nat.mod_eq_of_lt (toNat_lt_u64 seq)])
    have hoff : getMessagesOffset =
        (session ++ beBytes 8 seq.toNat ++ beBytes 2 msgs.length).length := by
      simp [getMessagesOffset, headerSize, hs, length_beBytes]
    have h := dispatchLoop_blocks (session ++ beBytes 8 seq.toNat ++ beBytes 2 msgs.length) msgs
      hm seq.toNat
    rw [hseq, ← hoff] at h
    exact filterMap_payload h
  · rw [buildPacket, List.length_map, hcount, ← take_headerSize_of_parse hp hlen]
    conv_rhs => rw [← List.take_append_drop headerSize data]
    rw [List.prefix_append_right_inj]
    exact dispatchLoop_prefix hlen _ _ _

/-- Two messages read back from their packet, and a packet followed by a byte past `len`. -/
theorem two_message_packet_round_trip :
    (Session.dispatchLoop (buildPacket (List.replicate 10 65) 1 [[7], [8]]) 26 2 getMessagesOffset
        1).filterMap Event.payload? = [([7], 1), ([8], 2)] ∧
      buildPacket (List.replicate 10 65) 1 [[7], [8]] <+:
        buildPacket (List.replicate 10 65) 1 [[7], [8]] ++ [9] := by
  have h1 := (packet_format_round_trip.1 (List.replicate 10 65) 1 [[7], [8]] rfl (by decide)
    (by decide)).2
  have h2 : buildPacket (List.replicate 10 65) 1
      (((Session.dispatchLoop (buildPacket (List.replicate 10 65) 1 [[7], [8]] ++ [9]) 26 2
        getMessagesOffset 1).filterMap Event.payload?).map Prod.fst) <+:
      buildPacket (List.replicate 10 65) 1 [[7], [8]] ++ [9] :=
    packet_format_round_trip.2 (buildPacket (List.replicate 10 65) 1 [[7], [8]] ++ [9]) 26
      ⟨List.replicate 10 65, 1, 2⟩ (by decide) (by decide) (by decide)
  have e : (buildPacket (List.replicate 10 65) 1 [[7], [8]]).length = 26 := by decide
  have d : ((Session.dispatchLoop (buildPacket (List.replicate 10 65) 1 [[7], [8]] ++ [9]) 26 2
      getMessagesOffset 1).filterMap Event.payload?).map Prod.fst = [[7], [8]] := by decide
  rw [e] at h1
  rw [d] at h2
  exact ⟨h1.trans (by decide), h2⟩

end MoldUdp64

end ItchFeedHandler
