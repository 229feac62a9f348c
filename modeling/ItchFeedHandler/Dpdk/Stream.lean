import ItchFeedHandler.Dpdk.Normalization
import ItchFeedHandler.Dpdk.FileReplay
import ItchFeedHandler.Dpdk.Pipeline
import ItchFeedHandler.MoldUdp64.Delivery

/-!
# A market-data stream through the producer

The whole producer path on one session's stream: Ethernet frames, each carrying a MoldUDP64
packet, handed to `process_raw_packet` one after another, as the DPDK receive loop and
`process_pcap_file` hand them. `process_raw_packet` strips the link headers, the session checks
the packet's sequence number and hands each message to `parse_itch_message`, the parser's
callbacks build a `NormalizedMessage`, and `push_message` offers it to the ring.

The frames are given from the spec's side: any Ethernet, IPv4 and UDP headers that name IPv4
and UDP (`UdpHeaders`), in front of the packets `streamPackets` builds for consecutive batches of
order-flow messages (`WireMessage`), numbered from `1` (`streamFrames`).

* `processFrame_stream`: one frame is accepted, moves the session on by its batch and hands
  `push_message` the batch's records; `run_streamFrames` chains the frames.
* `stream_reaches_ring`: from construction on an empty ring, every frame is accepted, the records
  handed to `push_message` are exactly those of the messages, in stream order, and the ring
  holds the first `N - 1` of them.
* `repeated_frames_pushed_again`: frames that repeat numbers, duplicates or frames that overlap
  the numbers already seen (`Unskipping`), are accepted like the rest, and every copy of a
  message is pushed: nothing on the path drops a repeated number. `processFrame_overlap` is its
  step lemma, of which `processFrame_stream` is the in-order case.
-/

namespace ItchFeedHandler

namespace Dpdk

open Endian Itch MoldUdp64 HeaderParser PacketHandler

/-- Spec-side input: the Ethernet, IPv4 and UDP headers in front of a MoldUDP64 packet.
The ether type at bytes `12` and `13` is IPv4 (`0x0800`, big-endian); the IPv4 header that
starts at byte `14` is as long as its IHL nibble says, and at least the `20` bytes of a header
without options; its protocol byte is UDP; the `8`-byte UDP header follows it. -/
structure UdpHeaders (hdr : List UInt8) : Prop where
  etherType : byteAt hdr 12 = 0x08 ∧ byteAt hdr 13 = 0x00
  ihl : 5 ≤ (byteAt hdr 14).toNat % 16
  protocol : byteAt hdr 23 = 17
  length : hdr.length = 14 + 4 * ((byteAt hdr 14).toNat % 16) + 8

instance (hdr : List UInt8) : Decidable (UdpHeaders hdr) :=
  decidable_of_iff ((byteAt hdr 12 = 0x08 ∧ byteAt hdr 13 = 0x00) ∧
      5 ≤ (byteAt hdr 14).toNat % 16 ∧ byteAt hdr 23 = 17 ∧
      hdr.length = 14 + 4 * ((byteAt hdr 14).toNat % 16) + 8)
    ⟨fun ⟨a, b, c, d⟩ => ⟨a, b, c, d⟩, fun ⟨a, b, c, d⟩ => ⟨a, b, c, d⟩⟩

/-- Specification: the record a message should yield. -/
def WireMessage.toRecord (m : WireMessage) : NormalizedMessage :=
  m.body.record (UInt64.ofNat m.timestamp)

/-- Spec-side input: the producer's calls for a stream of batches numbered from `seq`,
each batch one MoldUDP64 packet in a frame with the headers `hdr`. -/
def streamFrames (hdr session : List UInt8) (seq : Nat) (batches : List (List WireMessage)) :
    List Action :=
  (Session.streamPackets session seq (batches.map (List.map WireMessage.encode))).map fun pkt =>
    .processRawPacket (hdr ++ pkt) (hdr ++ pkt).length

/-! ### Sizes -/

theorem length_encode_le {m : WireMessage} (hm : m.Fits) : m.encode.length ≤ 50 := by
  obtain ⟨_, _, _, b⟩ := m
  obtain ⟨-, hb⟩ := hm
  cases b <;> simp_all [WireMessage.encode, WireBody.encode, WireBody.StockFits, length_beBytes]

theorem length_buildPacket {session : List UInt8} (hs : session.length = 10) (seq : SequenceNumber)
    (msgs : List (List UInt8)) :
    (buildPacket session seq msgs).length = 20 + (msgs.map fun m => m.length + 2).sum := by
  simp only [buildPacket, List.length_append, hs, length_beBytes, List.length_flatten, List.map_map]
  rfl

/-- A packet of messages of at most `50` bytes each holds at most `52` bytes per message. -/
theorem length_buildPacket_le {session : List UInt8} (hs : session.length = 10)
    (seq : SequenceNumber) {msgs : List WireMessage} (hm : ∀ m ∈ msgs, m.Fits) :
    (buildPacket session seq (msgs.map WireMessage.encode)).length ≤ 20 + 52 * msgs.length := by
  rw [length_buildPacket hs]
  induction msgs with
  | nil => simp
  | cons m msgs ih =>
    obtain ⟨hm1, hms⟩ := List.forall_mem_cons.1 hm
    have := length_encode_le hm1
    have := ih hms
    simp only [List.map_cons, List.sum_cons, List.length_cons] at *
    omega

/-! ### One frame -/

/-- The link headers of the spec are stripped to the packet after them. -/
theorem stripHeaders_udpHeaders {hdr : List UInt8} (hh : UdpHeaders hdr) (pkt : List UInt8)
    (hlen : (hdr ++ pkt).length < 2 ^ 64) :
    stripHeaders (hdr ++ pkt) (hdr ++ pkt).length = some (hdr.length, pkt.length) := by
  have hL := hh.length
  have hi := hh.ihl
  have hb : ∀ i, i < hdr.length → byteAt (hdr ++ pkt) i = byteAt hdr i :=
    fun _ h => byteAt_append_of_lt pkt h
  have hether : ntoh16 (u16At (hdr ++ pkt) EthernetHeader.etherType) = ETHER_TYPE_IPV4 := by
    simp only [u16At, EthernetHeader.etherType, loadLE, byteAt_drop, List.drop_drop,
      hb 12 (by omega), hb 13 (by omega), hh.etherType.1, hh.etherType.2]
    decide
  have hproto : byteAt ((hdr ++ pkt).drop sizeofEthernetHeader) IPv4Header.protocol =
      IP_PROTO_UDP := by
    rw [byteAt_drop, hb _ (by simp only [sizeofEthernetHeader, IPv4Header.protocol]; omega)]
    exact hh.protocol
  have hihl : (getIpHeaderLength ((hdr ++ pkt).drop sizeofEthernetHeader)).toNat =
      4 * ((byteAt hdr 14).toNat % 16) := by
    have h14 : sizeofEthernetHeader + IPv4Header.versionIhl < hdr.length := by
      simp only [sizeofEthernetHeader, IPv4Header.versionIhl]; omega
    rw [getIpHeaderLength_toNat, byteAt_drop, hb _ h14]
    rfl
  rw [stripHeaders, if_neg (not_not.2 hether)]
  dsimp only
  rw [if_neg (not_not.2 hproto), hihl, List.length_append] at *
  simp only [Option.some.injEq, Prod.mk.injEq, sizeofEthernetHeader, sizeofUDPHeader,
    toNat_sub_u64, toNat_ofNat_u64]
  omega

section Fields

variable {h : PacketHandler N}

theorem parseMessage_session (data : List UInt8) (len : Nat) :
    (h.parseMessage data len).1.session = h.session ∧
      (h.parseMessage data len).1.parser.callbacks = h.parser.callbacks := by
  unfold PacketHandler.parseMessage offerMessage pushMessage
  dsimp only
  split
  · split <;> exact ⟨rfl, Parser.callbacks_parseMessage ..⟩
  · exact ⟨rfl, Parser.callbacks_parseMessage ..⟩

/-- The callbacks push the record of a whole order-flow message. -/
theorem records_parseMessage_encode (hc : h.parser.callbacks = handlerCallbacks) {m : WireMessage}
    (hm : m.Fits) (rest : List UInt8) {len : Nat} (hlen : m.encode.length ≤ len) :
    (h.parseMessage (m.encode ++ rest) len).1.offers.map Offer.record =
      h.offers.map Offer.record ++ [m.toRecord] := by
  rw [parseMessage_offers, Parser.parseMessage_orderKind _ (orderKind_msgType_encode m rest)
    ((getMessageSize_encode m rest hm.2) ▸ hlen), callback_parseOrder_encode m rest h.parser hc hm]
  simp [WireMessage.toRecord]

/-- The messages of a packet, as the session delivers them, each push its record. -/
theorem onSessionEvents_stream (hc : h.parser.callbacks = handlerCallbacks)
    (msgs : List WireMessage) (hm : ∀ m ∈ msgs, m.Fits) (seq : Nat) (events : List Event)
    (he : events.map Event.payload? =
      ((msgs.map WireMessage.encode).enumFrom seq).map fun p => some (p.2, UInt64.ofNat p.1)) :
    (h.onSessionEvents events).offers.map Offer.record =
        h.offers.map Offer.record ++ msgs.map WireMessage.toRecord ∧
      (h.onSessionEvents events).session = h.session ∧
      (h.onSessionEvents events).parser.callbacks = handlerCallbacks := by
  induction msgs generalizing h seq events with
  | nil =>
    rw [List.map_nil, List.enumFrom_nil, List.map_nil, List.map_eq_nil_iff] at he
    subst he
    exact ⟨(List.append_nil _).symm, rfl, hc⟩
  | cons m msgs ih =>
    obtain ⟨hm1, hms⟩ := List.forall_mem_cons.1 hm
    cases events with
    | nil => simp at he
    | cons e events =>
      rw [List.map_cons, List.map_cons, List.enumFrom_cons, List.map_cons, List.cons.injEq] at he
      obtain ⟨he1, he2⟩ := he
      cases e with
      | gap g => simp [Event.payload?] at he1
      | message data length s =>
        simp only [Event.payload?, Option.some.injEq, Prod.mk.injEq] at he1
        have hlen : m.encode.length ≤ length.toNat := by
          rw [← he1.1, List.length_take]; exact Nat.min_le_left ..
        have hparse : h.parseItchMessage data length = (h.parseMessage (m.encode ++ []) length.toNat).1 := by
          rw [parseItchMessage, ← parseMessage_take, he1.1, List.append_nil]
        obtain ⟨hsess, hcb⟩ := parseMessage_session (h := h) (m.encode ++ []) length.toNat
        obtain ⟨ih1, ih2, ih3⟩ := ih (hcb.trans hc) hms (seq + 1) events he2
        simp only [onSessionEvents]
        rw [hparse, ih1, ih2, records_parseMessage_encode hc hm1 [] hlen, hsess, List.map_cons,
          List.append_assoc, List.singleton_append]
        exact ⟨rfl, rfl, ih3⟩

end Fields

/-- A handler ready for the packet numbered `seq` of `session`'s stream, with the callbacks
`setup_parser_callbacks` installs. -/
structure Receiving (session : List UInt8) (seq : Nat) (h : PacketHandler N) : Prop where
  ready : Session.Ready session seq h.session
  callbacks : h.parser.callbacks = handlerCallbacks

/-- `h'` is `h` after `k` packets of `session`'s stream that carried `msgs` and left the session
ready for the packet numbered `seq`. -/
structure Received (session : List UInt8) (seq : Nat) (h h' : PacketHandler N)
    (msgs : List WireMessage) (k : Nat) : Prop where
  receiving : Receiving session seq h'
  records : h'.offers.map Offer.record = h.offers.map Offer.record ++ msgs.map WireMessage.toRecord
  processed : h'.packetsProcessed = h.packetsProcessed + UInt64.ofNat k
  invalid : h'.invalidPackets = h.invalidPackets

theorem Receiving.new (session : List UInt8) :
    Receiving session 1 (PacketHandler.new (RingBuffer.new : RingBuffer NormalizedMessage N)) :=
  ⟨⟨.inl rfl, rfl, rfl, rfl⟩, rfl⟩

theorem Received.refl {session : List UInt8} {seq : Nat} {h : PacketHandler N}
    (hr : Receiving session seq h) : Received session seq h h [] 0 :=
  ⟨hr, (List.append_nil _).symm, (add_zero_u64 _).symm, rfl⟩

theorem Received.trans {session : List UInt8} {seq seq' : Nat} {h h' h'' : PacketHandler N}
    {msgs msgs' : List WireMessage} {k k' : Nat} (h₁ : Received session seq h h' msgs k)
    (h₂ : Received session seq' h' h'' msgs' k') :
    Received session seq' h h'' (msgs ++ msgs') (k + k') where
  receiving := h₂.receiving
  records := by rw [h₂.records, h₁.records, List.map_append, List.append_assoc]
  processed := by
    rw [h₂.processed, h₁.processed, u64_ext]
    simp only [toNat_add_u64, toNat_ofNat_u64]
    omega
  invalid := h₂.invalid.trans h₁.invalid

/-- Order-flow messages that fit the wire fit a message block. -/
theorem encode_fits {msgs : List WireMessage} (hm : ∀ m ∈ msgs, m.Fits) :
    ∀ m ∈ msgs.map WireMessage.encode, m.length < 2 ^ 16 := by
  simp only [List.mem_map]
  rintro _ ⟨m, hm', rfl⟩
  have := length_encode_le (hm m hm')
  omega

/-- A packet the session accepts, delivering order-flow messages in order: `processPayload`
pushes their records, counts the packet as processed and keeps the session's new state. -/
theorem processPayload_accepted {h : PacketHandler N} (hc : h.parser.callbacks = handlerCallbacks)
    {pkt : List UInt8} {len : Nat} (frameLen : Nat) {msgs : List WireMessage}
    (hm : ∀ m ∈ msgs, m.Fits) {seq : Nat} (hret : (h.session.processPacket pkt len).2.1 = true)
    (hev : (h.session.processPacket pkt len).2.2.map Event.payload? =
      ((msgs.map WireMessage.encode).enumFrom seq).map fun p => some (p.2, UInt64.ofNat p.1)) :
    ∃ h', h.processPayload pkt len frameLen = (h', true) ∧
      h'.session = (h.session.processPacket pkt len).1 ∧ h'.parser.callbacks = handlerCallbacks ∧
      h'.offers.map Offer.record = h.offers.map Offer.record ++ msgs.map WireMessage.toRecord ∧
      h'.packetsProcessed = h.packetsProcessed + 1 ∧ h'.invalidPackets = h.invalidPackets := by
  set r := h.session.processPacket pkt len with hr_def
  obtain ⟨hrec, hsess, hcb⟩ := onSessionEvents_stream (h := { h with session := r.1 }) hc
    msgs hm seq r.2.2 hev
  obtain ⟨hpp, hinv⟩ := packets_onSessionEvents { h with session := r.1 } r.2.2
  rw [processPayload, ← hr_def, if_pos hret]
  exact ⟨_, rfl, hsess, hcb, hrec, by rw [hpp], hinv⟩

/-- A frame behind the link headers of the spec, carrying a built packet of order-flow messages,
is long enough, and its headers strip to the packet. -/
theorem stripHeaders_built {hdr : List UInt8} (hh : UdpHeaders hdr) {session : List UInt8}
    (hs : session.length = 10) (seq : Nat) {msgs : List WireMessage} (hm : ∀ m ∈ msgs, m.Fits)
    (hcount : msgs.length < 2 ^ 16) :
    ¬ (hdr ++ buildPacket session (UInt64.ofNat seq) (msgs.map WireMessage.encode)).length <
        HeaderSizes.TOTAL_MIN ∧
      stripHeaders (hdr ++ buildPacket session (UInt64.ofNat seq) (msgs.map WireMessage.encode))
        (hdr ++ buildPacket session (UInt64.ofNat seq) (msgs.map WireMessage.encode)).length =
        some (hdr.length,
          (buildPacket session (UInt64.ofNat seq) (msgs.map WireMessage.encode)).length) := by
  have hle' := length_buildPacket_le hs (UInt64.ofNat seq) hm
  have h20 := length_buildPacket hs (UInt64.ofNat seq) (msgs.map WireMessage.encode)
  have hL := hh.length
  have hi := hh.ihl
  refine ⟨?_, stripHeaders_udpHeaders hh _ (by simp only [List.length_append]; omega)⟩
  simp only [List.length_append, HeaderSizes.TOTAL_MIN, HeaderSizes.ETHERNET, HeaderSizes.IPV4,
    HeaderSizes.UDP, HeaderSizes.MOLDUDP64]
  omega

/-- A frame behind the link headers of the spec whose packet of order-flow messages the session
accepts, delivering them in order: the frame is accepted and pushes their records. -/
theorem processFrame_built {h : PacketHandler N} (hc : h.parser.callbacks = handlerCallbacks)
    {hdr : List UInt8} (hh : UdpHeaders hdr) {session : List UInt8} (hs : session.length = 10)
    (seq : Nat) {msgs : List WireMessage} (hm : ∀ m ∈ msgs, m.Fits)
    (hcount : msgs.length < 2 ^ 16)
    (hret : (h.session.processPacket (buildPacket session (UInt64.ofNat seq)
      (msgs.map WireMessage.encode)) (buildPacket session (UInt64.ofNat seq)
        (msgs.map WireMessage.encode)).length).2.1 = true)
    (hev : (h.session.processPacket (buildPacket session (UInt64.ofNat seq)
      (msgs.map WireMessage.encode)) (buildPacket session (UInt64.ofNat seq)
        (msgs.map WireMessage.encode)).length).2.2.map Event.payload? =
      ((msgs.map WireMessage.encode).enumFrom seq).map fun p => some (p.2, UInt64.ofNat p.1)) :
    ∃ h', h.processFrame (hdr ++ buildPacket session (UInt64.ofNat seq) (msgs.map WireMessage.encode))
        (hdr ++ buildPacket session (UInt64.ofNat seq) (msgs.map WireMessage.encode)).length =
        (h', true) ∧
      h'.session = (h.session.processPacket (buildPacket session (UInt64.ofNat seq)
        (msgs.map WireMessage.encode)) (buildPacket session (UInt64.ofNat seq)
          (msgs.map WireMessage.encode)).length).1 ∧
      h'.parser.callbacks = handlerCallbacks ∧
      h'.offers.map Offer.record = h.offers.map Offer.record ++ msgs.map WireMessage.toRecord ∧
      h'.packetsProcessed = h.packetsProcessed + 1 ∧ h'.invalidPackets = h.invalidPackets := by
  obtain ⟨hmin, hstrip⟩ := stripHeaders_built hh hs seq hm hcount
  obtain ⟨h', hpay, hrest⟩ := processPayload_accepted hc
    (hdr ++ buildPacket session (UInt64.ofNat seq) (msgs.map WireMessage.encode)).length hm hret hev
  rw [processFrame_of_stripHeaders h hmin hstrip, List.drop_left, hpay]
  exact ⟨h', rfl, hrest⟩

/-- **Step lemma**: one frame whose packet starts at or before the number the session expects is
accepted, moves the session on to the larger of that number and the number after the packet,
and hands `push_message` the records of all its messages, in order, repeated numbers included. -/
theorem processFrame_overlap {h : PacketHandler N} {session : List UInt8} {e seq : Nat}
    (hr : Receiving session e h) {hdr : List UInt8} (hh : UdpHeaders hdr)
    (hs : session.length = 10) (h1 : 1 ≤ seq) (hle : seq ≤ e) {msgs : List WireMessage}
    (hne : msgs ≠ []) (hcount : msgs.length < 2 ^ 16) (hm : ∀ m ∈ msgs, m.Fits)
    (hlim : seq + msgs.length ≤ 2 ^ 64 - 1) :
    ∃ h', h.processFrame (hdr ++ buildPacket session (UInt64.ofNat seq) (msgs.map WireMessage.encode))
        (hdr ++ buildPacket session (UInt64.ofNat seq) (msgs.map WireMessage.encode)).length =
        (h', true) ∧ Received session (max e (seq + msgs.length)) h h' msgs 1 := by
  obtain ⟨hret, -, hready, hev⟩ := Session.processPacket_overlap hr.ready.tracking hle
    (fun _ => rfl) (show msgs.map WireMessage.encode ≠ [] by simpa using hne)
    (by rwa [List.length_map]) (encode_fits hm) hs h1 (by rwa [List.length_map])
  rw [List.length_map] at hready
  obtain ⟨h', hf, hsess, hcb, hrec, hpp, hinv⟩ :=
    processFrame_built hr.callbacks hh hs seq hm hcount hret hev
  exact ⟨h', hf, ⟨hsess ▸ hready.ready, hcb⟩, hrec, by rw [hpp]; rfl, hinv⟩

/-- One frame of a contiguous stream: accepted, and the session moves on by its batch. -/
theorem processFrame_stream {h : PacketHandler N} {session : List UInt8} {seq : Nat}
    (hr : Receiving session seq h) {hdr : List UInt8} (hh : UdpHeaders hdr)
    (hs : session.length = 10) (h1 : 1 ≤ seq) {msgs : List WireMessage} (hne : msgs ≠ [])
    (hcount : msgs.length < 2 ^ 16) (hm : ∀ m ∈ msgs, m.Fits)
    (hlim : seq + msgs.length ≤ 2 ^ 64 - 1) :
    ∃ h', h.processFrame (hdr ++ buildPacket session (UInt64.ofNat seq) (msgs.map WireMessage.encode))
        (hdr ++ buildPacket session (UInt64.ofNat seq) (msgs.map WireMessage.encode)).length =
        (h', true) ∧ Received session (seq + msgs.length) h h' msgs 1 := by
  have := processFrame_overlap hr hh hs h1 le_rfl hne hcount hm hlim
  rwa [Nat.max_eq_right (Nat.le_add_right _ _)] at this

/-- **Run lemma**: the frames of a stream of batches, each accepted in turn. -/
theorem run_streamFrames {hdr : List UInt8} (hh : UdpHeaders hdr) {session : List UInt8}
    (hs : session.length = 10) (batches : List (List WireMessage))
    (hb : ∀ b ∈ batches, b ≠ [] ∧ b.length < 2 ^ 16 ∧ ∀ m ∈ b, m.Fits) {seq : Nat} (h1 : 1 ≤ seq)
    (hlim : seq + (batches.map List.length).sum ≤ 2 ^ 64 - 1) {s : System N}
    (hr : Receiving session seq s.handler) :
    Received session (seq + (batches.map List.length).sum) s.handler
      (s.run (streamFrames hdr session seq batches)).handler batches.flatten batches.length := by
  induction batches generalizing seq s with
  | nil => exact Received.refl hr
  | cons b bs ih =>
    obtain ⟨⟨hne, hcount, hm⟩, hbs⟩ := List.forall_mem_cons.1 hb
    simp only [List.map_cons, List.sum_cons] at hlim
    obtain ⟨h', hstep, hrecv⟩ := processFrame_stream hr hh hs h1 hne hcount hm (by omega)
    have hrun := ih hbs (by omega) (by omega) (s := ⟨h', s.dequeued⟩) hrecv.receiving
    simp only [streamFrames, List.map_cons, Session.streamPackets, List.length_map] at hrun ⊢
    show Received _ _ _ ((System.step s (.processRawPacket _ _)).run _).handler _ _
    simp only [System.step, processRawPacket, hstep]
    simpa only [List.flatten_cons, List.length_cons, List.map_cons, List.sum_cons, Nat.add_assoc,
      Nat.add_comm 1] using hrecv.trans hrun

/-- **A stream reaches the ring.** For a handler built on an empty ring of capacity `N`, and
the frames of a contiguous MoldUDP64 stream of one session, numbered from `1`: batches of one
to `65535` order-flow messages (AddOrder, OrderExecuted, OrderCancel, OrderDelete, OrderReplace,
Trade) whose fields fit the wire, each behind Ethernet, IPv4 and UDP headers, handed to
`process_raw_packet` in order. Every frame is accepted (`packets_processed` counts them all,
`invalid_packets` stays `0`); the records handed to `push_message` are exactly the records of
the messages, in stream order; the ring holds the first `N - 1` of them, `messages_pushed`
counts those and `buffer_full_count` the rest; and the session expects the number after the
last message, with no gap. -/
theorem stream_reaches_ring (hdr : List UInt8) (hh : UdpHeaders hdr) (session : List UInt8)
    (hs : session.length = 10) (batches : List (List WireMessage))
    (hb : ∀ b ∈ batches, b ≠ [] ∧ b.length < 2 ^ 16 ∧ ∀ m ∈ b, m.Fits)
    (hlim : 1 + (batches.map List.length).sum ≤ 2 ^ 64 - 1) :
    (System.run (⟨PacketHandler.new RingBuffer.new, []⟩ : System N)
        (streamFrames hdr session 1 batches)).handler.packetsProcessed =
        UInt64.ofNat batches.length ∧
      (System.run (⟨PacketHandler.new RingBuffer.new, []⟩ : System N)
        (streamFrames hdr session 1 batches)).handler.invalidPackets = 0 ∧
      (System.run (⟨PacketHandler.new RingBuffer.new, []⟩ : System N)
        (streamFrames hdr session 1 batches)).handler.offers.map Offer.record =
        batches.flatten.map WireMessage.toRecord ∧
      (System.run (⟨PacketHandler.new RingBuffer.new, []⟩ : System N)
        (streamFrames hdr session 1 batches)).handler.outputBuffer.contents =
        (batches.flatten.map WireMessage.toRecord).take (N.val - 1) ∧
      (System.run (⟨PacketHandler.new RingBuffer.new, []⟩ : System N)
        (streamFrames hdr session 1 batches)).handler.messagesPushed =
        UInt64.ofNat (min batches.flatten.length (N.val - 1)) ∧
      (System.run (⟨PacketHandler.new RingBuffer.new, []⟩ : System N)
        (streamFrames hdr session 1 batches)).handler.bufferFullCount =
        UInt64.ofNat (batches.flatten.length - (N.val - 1)) ∧
      Session.Ready session (1 + (batches.map List.length).sum)
        (System.run (⟨PacketHandler.new RingBuffer.new, []⟩ : System N)
          (streamFrames hdr session 1 batches)).handler.session := by
  set s₀ : System N := ⟨PacketHandler.new RingBuffer.new, []⟩
  have hrecv := run_streamFrames hh hs batches hb le_rfl hlim (s := s₀) (Receiving.new session)
  have hfill := (Filling.ledgerInvariant.run (s := s₀) Filling.new
    (streamFrames hdr session 1 batches) (by simp [streamFrames])).1
  have hrec : (s₀.run (streamFrames hdr session 1 batches)).handler.offers.map Offer.record =
      batches.flatten.map WireMessage.toRecord := hrecv.records
  have hlen : (s₀.run (streamFrames hdr session 1 batches)).handler.offers.length =
      batches.flatten.length := by
    rw [← List.length_map _ Offer.record, hrec, List.length_map]
  refine ⟨hrecv.processed.trans (zero_add_u64 _), hrecv.invalid, hrec, ?_, ?_, ?_,
    hrecv.receiving.ready⟩
  · rw [hfill.contents, hrec]
  · rw [hfill.messagesPushed, hlen]
  · rw [hfill.bufferFullCount, hlen]

/-- One frame with a 20-byte IPv4 header, carrying one OrderDelete: its record is in the ring. -/
theorem one_delete_reaches_ring :
    (System.run (⟨PacketHandler.new RingBuffer.new, []⟩ : System messageBufferCapacity)
      (streamFrames
        (List.replicate 12 0 ++ [8, 0, 0x45] ++ List.replicate 8 0 ++ [17] ++ List.replicate 18 0)
        (List.replicate 10 65) 1 [[⟨1, 2, 3, .orderDelete 7⟩]])).handler.outputBuffer.contents =
      [WireMessage.toRecord ⟨1, 2, 3, .orderDelete 7⟩] :=
  (stream_reaches_ring _ (by decide) (List.replicate 10 65) rfl _ (by decide) (by decide)).2.2.2.1

/-! ### Frames that repeat numbers -/

/-- Spec-side input: the producer's calls for frames of `session` in arrival order, the
frame of `(seq, msgs)` carrying the packet of `msgs` numbered from `seq`. -/
def sessionFrames (hdr session : List UInt8) (frames : List (Nat × List WireMessage)) :
    List Action :=
  frames.map fun f =>
    .processRawPacket (hdr ++ buildPacket session (UInt64.ofNat f.1) (f.2.map WireMessage.encode))
      (hdr ++ buildPacket session (UInt64.ofNat f.1) (f.2.map WireMessage.encode)).length

/-- Specification: the number expected after `frames`, from `e`: each frame moves it on
to the number after the frame's range when that is larger. -/
def expectedAfter (e : Nat) (frames : List (Nat × List WireMessage)) : Nat :=
  frames.foldl (fun e f => max e (f.1 + f.2.length)) e

/-- Spec-side input: frames that never skip a number. Each starts at or before the number
`e` expected when it arrives, so one that starts before `e` repeats numbers already seen; each
carries one to `65535` messages that fit the wire, numbered from `1` on and below `2 ^ 64 - 1`. -/
def Unskipping : Nat → List (Nat × List WireMessage) → Prop
  | _, [] => True
  | e, f :: frames => 1 ≤ f.1 ∧ f.1 ≤ e ∧ f.2 ≠ [] ∧ f.2.length < 2 ^ 16 ∧ (∀ m ∈ f.2, m.Fits) ∧
      f.1 + f.2.length ≤ 2 ^ 64 - 1 ∧ Unskipping (max e (f.1 + f.2.length)) frames

instance Unskipping.decidable : (e : Nat) → (frames : List (Nat × List WireMessage)) →
    Decidable (Unskipping e frames)
  | _, [] => isTrue trivial
  | e, f :: frames =>
    haveI := Unskipping.decidable (max e (f.1 + f.2.length)) frames
    decidable_of_iff (1 ≤ f.1 ∧ f.1 ≤ e ∧ f.2 ≠ [] ∧ f.2.length < 2 ^ 16 ∧ (∀ m ∈ f.2, m.Fits) ∧
      f.1 + f.2.length ≤ 2 ^ 64 - 1 ∧ Unskipping (max e (f.1 + f.2.length)) frames) Iff.rfl

/-- **Run lemma**: frames that never skip a number, each accepted in turn. -/
theorem run_sessionFrames {hdr : List UInt8} (hh : UdpHeaders hdr) {session : List UInt8}
    (hs : session.length = 10) (frames : List (Nat × List WireMessage)) {e : Nat}
    (hu : Unskipping e frames) {s : System N} (hr : Receiving session e s.handler) :
    Received session (expectedAfter e frames) s.handler
      (s.run (sessionFrames hdr session frames)).handler (frames.flatMap Prod.snd)
      frames.length := by
  induction frames generalizing e s with
  | nil => exact Received.refl hr
  | cons f frames ih =>
    obtain ⟨h1, hle, hne, hcount, hm, hlim, hu⟩ := hu
    obtain ⟨h', hstep, hrecv⟩ := processFrame_overlap hr hh hs h1 hle hne hcount hm hlim
    have hrun := ih hu (s := ⟨h', s.dequeued⟩) hrecv.receiving
    show Received _ _ _ ((System.step s (.processRawPacket _ _)).run _).handler _ _
    simp only [System.step, processRawPacket, hstep]
    simpa only [List.flatMap_cons, List.length_cons, Nat.add_comm 1] using hrecv.trans hrun

/-- **Repeated frames are pushed again.** For a handler built on an empty ring of capacity `N`,
and frames of one session that never skip a number, each behind Ethernet, IPv4 and UDP
headers, handed to `process_raw_packet` in arrival order: a duplicate, or a frame that overlaps
the numbers already seen, is accepted like the rest (`packets_processed` counts every frame,
`invalid_packets` stays `0`); `push_message` is handed the record of every message of every
frame, in arrival order, so a message that arrives twice is pushed twice; the ring holds the
first `N - 1` of those records; and the session expects the number after the highest one seen,
with no gap. Nothing on the path drops a repeated number. -/
theorem repeated_frames_pushed_again (hdr : List UInt8) (hh : UdpHeaders hdr)
    (session : List UInt8) (hs : session.length = 10) (frames : List (Nat × List WireMessage))
    (hu : Unskipping 1 frames) :
    (System.run (⟨PacketHandler.new RingBuffer.new, []⟩ : System N)
        (sessionFrames hdr session frames)).handler.packetsProcessed =
        UInt64.ofNat frames.length ∧
      (System.run (⟨PacketHandler.new RingBuffer.new, []⟩ : System N)
        (sessionFrames hdr session frames)).handler.invalidPackets = 0 ∧
      (System.run (⟨PacketHandler.new RingBuffer.new, []⟩ : System N)
        (sessionFrames hdr session frames)).handler.offers.map Offer.record =
        (frames.flatMap Prod.snd).map WireMessage.toRecord ∧
      (System.run (⟨PacketHandler.new RingBuffer.new, []⟩ : System N)
        (sessionFrames hdr session frames)).handler.outputBuffer.contents =
        ((frames.flatMap Prod.snd).map WireMessage.toRecord).take (N.val - 1) ∧
      Session.Ready session (expectedAfter 1 frames)
        (System.run (⟨PacketHandler.new RingBuffer.new, []⟩ : System N)
          (sessionFrames hdr session frames)).handler.session := by
  set s₀ : System N := ⟨PacketHandler.new RingBuffer.new, []⟩
  have hrecv := run_sessionFrames hh hs frames hu (s := s₀) (Receiving.new session)
  have hfill := (Filling.ledgerInvariant.run (s := s₀) Filling.new
    (sessionFrames hdr session frames) (by simp [sessionFrames])).1
  have hrec : (s₀.run (sessionFrames hdr session frames)).handler.offers.map Offer.record =
      (frames.flatMap Prod.snd).map WireMessage.toRecord := hrecv.records
  refine ⟨hrecv.processed.trans (zero_add_u64 _), hrecv.invalid, hrec, ?_,
    hrecv.receiving.ready⟩
  rw [hfill.contents, hrec]

/-- The same one-message frame received twice: its record is in the ring twice. -/
theorem duplicate_delete_pushed_twice :
    (System.run (⟨PacketHandler.new RingBuffer.new, []⟩ : System messageBufferCapacity)
      (sessionFrames
        (List.replicate 12 0 ++ [8, 0, 0x45] ++ List.replicate 8 0 ++ [17] ++ List.replicate 18 0)
        (List.replicate 10 65)
        [(1, [⟨1, 2, 3, .orderDelete 7⟩]), (1, [⟨1, 2, 3, .orderDelete 7⟩])])).handler.outputBuffer.contents =
      [WireMessage.toRecord ⟨1, 2, 3, .orderDelete 7⟩, WireMessage.toRecord ⟨1, 2, 3, .orderDelete 7⟩] :=
  (repeated_frames_pushed_again _ (by decide) (List.replicate 10 65) rfl _ (by decide)).2.2.2.1

end Dpdk

end ItchFeedHandler
