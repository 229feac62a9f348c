import ItchFeedHandler.Common.Types

/-!
# The MoldUDP64 header

`moldudp64/header.hpp`: the 20-byte packed header (10-byte session, 8-byte big-endian
sequence number, 2-byte big-endian message count), the special sequence numbers, and
`HeaderParser`.

`buildPacket` lays a packet out as the tests' `create_moldudp_packet` does: header fields in
network order, then each message behind its 2-byte big-endian length. `parse_buildPacket`
and `readMessageLength_block` say the parser reads those fields back.
-/

namespace ItchFeedHandler

namespace MoldUdp64

open Endian

/-- `struct Header` (packed, 20 bytes). -/
structure Header where
  session : List UInt8
  sequenceNumber : SequenceNumber
  messageCount : UInt16
  deriving DecidableEq, Repr

/-- `sizeof(Header)`. -/
def headerSize : Nat := 20

/-- `sizeof(MessageBlock)`: the length prefix of each message. -/
def messageBlockSize : Nat := 2

/-- `HEARTBEAT_SEQUENCE`. -/
def HEARTBEAT_SEQUENCE : UInt64 := 0

/-- `END_OF_SESSION`. -/
def END_OF_SESSION : UInt64 := 0xFFFFFFFFFFFFFFFF

namespace HeaderParser

/-- `HeaderParser::parse`: fails on fewer than 20 bytes; otherwise copies the session and reads
the two big-endian fields. -/
def parse (data : List UInt8) (len : Nat) : Option Header :=
  if len < headerSize then none
  else some { session := memcpy data 10, sequenceNumber := readBe64 (data.drop 10),
              messageCount := readBe16 (data.drop 18) }

/-- `HeaderParser::is_heartbeat`. -/
def isHeartbeat (header : Header) : Bool :=
  header.sequenceNumber = HEARTBEAT_SEQUENCE && header.messageCount = 0

/-- `HeaderParser::is_end_of_session`. -/
def isEndOfSession (header : Header) : Bool := header.sequenceNumber = END_OF_SESSION

/-- `HeaderParser::get_messages_offset`. -/
def getMessagesOffset : Nat := headerSize

/-- `HeaderParser::read_message_length`. -/
def readMessageLength (data : List UInt8) : UInt16 := readBe16 data

end HeaderParser

/-! ### Building packets -/

/-- One message behind its 2-byte big-endian length. -/
def encodeBlock (msg : List UInt8) : List UInt8 := beBytes 2 msg.length ++ msg

/-- A session packet: the 10-byte session, the sequence number and the message count in
network order, then the length-prefixed messages. -/
def buildPacket (session : List UInt8) (seq : SequenceNumber) (msgs : List (List UInt8)) :
    List UInt8 :=
  session ++ beBytes 8 seq.toNat ++ beBytes 2 msgs.length ++ (msgs.map encodeBlock).flatten

theorem length_encodeBlock (msg : List UInt8) : (encodeBlock msg).length = msg.length + 2 := by
  simp [encodeBlock, length_beBytes, Nat.add_comm]

/-- The parser reads back the header fields of a built packet. -/
theorem parse_buildPacket {session : List UInt8} (hs : session.length = 10) (seq : SequenceNumber)
    {msgs : List (List UInt8)} (hn : msgs.length < 2 ^ 16) :
    HeaderParser.parse (buildPacket session seq msgs) (buildPacket session seq msgs).length =
      some ⟨session, seq, UInt16.ofNat msgs.length⟩ := by
  have hlen : headerSize ≤ (buildPacket session seq msgs).length := by
    simp only [buildPacket, List.length_append, length_beBytes, hs, headerSize]; omega
  rw [HeaderParser.parse, if_neg (by omega), Option.some.injEq, Header.mk.injEq]
  refine ⟨?_, ?_, ?_⟩
  · refine List.ext_getElem (by simp [memcpy, hs]) fun i h1 h2 => ?_
    simp only [memcpy, List.getElem_map, List.getElem_range, buildPacket, List.append_assoc]
    rw [byteAt_append_of_lt _ (by simp [memcpy] at h1; omega), byteAt,
      List.getD_eq_getElem?_getD, List.getElem?_eq_getElem h2, Option.getD_some]
  · apply UInt64.toNat.inj
    rw [readBe64_toNat, buildPacket, List.append_assoc, List.append_assoc, List.drop_left' hs,
      loadBE_beBytes]
    exact Nat.mod_eq_of_lt (by have := toNat_lt_u64 seq; omega)
  · apply UInt16.toNat.inj
    rw [readBe16_toNat, buildPacket, List.append_assoc, List.append_assoc,
      show (18 : Nat) = session.length + 8 by omega, ← List.drop_drop, List.drop_left,
      List.drop_left' (length_beBytes 8 _), loadBE_beBytes, UInt16.toNat_ofNat_of_lt hn]
    exact Nat.mod_eq_of_lt (by omega)

/-- The length prefix of a built block reads back as the message length. -/
theorem readMessageLength_block {msg : List UInt8} (hm : msg.length < 2 ^ 16) (rest : List UInt8) :
    (HeaderParser.readMessageLength (encodeBlock msg ++ rest)).toNat = msg.length := by
  rw [HeaderParser.readMessageLength, readBe16_toNat, encodeBlock, List.append_assoc,
    loadBE_beBytes]
  exact Nat.mod_eq_of_lt (by omega)

end MoldUdp64

end ItchFeedHandler
