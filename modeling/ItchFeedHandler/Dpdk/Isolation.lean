import ItchFeedHandler.Dpdk.Bounds
import ItchFeedHandler.Dpdk.Stream
import ItchFeedHandler.MoldUdp64.Isolation

/-!
# Other traffic on the packet path

A multicast group, or a capture, carries more than one session's frames, and frames that are not
MoldUDP64 at all. `process_raw_packet` counts a frame invalid when it is too short, when its link
headers do not name IPv4 and UDP, when the session refuses its packet (a MoldUDP64 header that
does not parse, or one that names a session other than the adopted one), and pushes nothing for
it. So the session's stream goes on untouched. The one trace such a frame leaves is in the
session's state (`MoldUdp64/Isolation.lean`): a frame of another session puts the session in
`Error`. Each frame comes with the bytes that follow it in memory, which are arbitrary; a frame
whose headers lie inside it (`HeadersInside`) is handled without reading them
(`processFrame_append`).

`frameSession?` says, from the spec's side, which session a frame names. `Listening` is the
handler-level form of `Session.Following`, and its two step lemmas are:

* `Listening.processFrame_next`: the stream's next frame.
* `Listening.processFrame_other`: any frame that does not name the session.

The run lemma `Listening.run` covers any interleaving of the two.
`stream_isolated_on_packet_path` starts this from a fresh handler, as `stream_reaches_ring` does
for the stream alone.
-/

namespace ItchFeedHandler

namespace Dpdk

open Endian Itch MoldUdp64 HeaderParser PacketHandler

/-- Specification: the session that the MoldUDP64 header of a frame names, for a frame
`process_raw_packet` hands to the session: long enough, with link headers that name IPv4 and UDP,
and a header that parses. -/
def frameSession? (frame : List UInt8) : Option (List UInt8) :=
  if frame.length < HeaderSizes.TOTAL_MIN then none
  else (stripHeaders frame frame.length).bind fun p =>
    (parse (frame.drop p.1) p.2).map Header.session

/-- Spec-side input: each frame handed to `process_raw_packet`, in arrival order, with the
bytes that follow it in memory; the call is given the frame's length. -/
def rawFrames (frames : List (List UInt8 × List UInt8)) : List Action :=
  frames.map fun f => .processRawPacket (f.1 ++ f.2) f.1.length

/-- Spec-side input: the frames of a stream of batches numbered from `seq`, each batch
one MoldUDP64 packet behind the headers `hdr`. -/
def streamFrameBytes (hdr session : List UInt8) (seq : Nat) (batches : List (List WireMessage)) :
    List (List UInt8) :=
  (Session.streamPackets session seq (batches.map (List.map WireMessage.encode))).map (hdr ++ ·)

theorem length_streamFrameBytes (hdr session : List UInt8) (seq : Nat)
    (batches : List (List WireMessage)) :
    (streamFrameBytes hdr session seq batches).length = batches.length := by
  induction batches generalizing seq with
  | nil => rfl
  | cons b bs ih =>
    simp only [streamFrameBytes, List.map_cons, Session.streamPackets, List.length_cons] at ih ⊢
    rw [ih]

/-- The frames that do not name `session` are all but the stream's. -/
theorem countP_other {session hdr : List UInt8} {seq : Nat} {frames : List (List UInt8)}
    {batches : List (List WireMessage)}
    (hown : frames.filter (fun f => frameSession? f = some session) =
      streamFrameBytes hdr session seq batches) :
    frames.countP (fun f => frameSession? f ≠ some session) = frames.length - batches.length := by
  have hsplit := List.length_eq_countP_add_countP (fun f => frameSession? f = some session) frames
  have hpred : (fun f => decide ¬decide (frameSession? f = some session) = true) =
      fun f => decide (frameSession? f ≠ some session) := by
    funext f; simp
  rw [List.countP_eq_length_filter, hown, length_streamFrameBytes, hpred] at hsplit
  omega

theorem frameSession?_built {hdr : List UInt8} (hh : UdpHeaders hdr) {session : List UInt8}
    (hs : session.length = 10) (seq : Nat) {msgs : List WireMessage} (hm : ∀ m ∈ msgs, m.Fits)
    (hcount : msgs.length < 2 ^ 16) :
    frameSession? (hdr ++ buildPacket session (UInt64.ofNat seq) (msgs.map WireMessage.encode)) =
      some session := by
  obtain ⟨hmin, hstrip⟩ := stripHeaders_built hh hs seq hm hcount
  rw [frameSession?, if_neg hmin, hstrip, Option.some_bind, List.drop_left,
    parse_buildPacket hs _ (by rwa [List.length_map])]
  rfl

/-- A handler whose session follows `session`'s stream (`Session.Following`), with the callbacks
`setup_parser_callbacks` installs. -/
structure Listening (session : List UInt8) (e : Nat) (erred : Bool) (h : PacketHandler N) :
    Prop where
  following : Session.Following session e erred h.session
  callbacks : h.parser.callbacks = handlerCallbacks

section Listening

variable {session : List UInt8} {e : Nat} {erred : Bool} {h : PacketHandler N}

/-- **Step lemma**: the frame of the stream's next packet is accepted and pushes the records of
its messages, in `Error` as in `Active`. -/
theorem Listening.processFrame_next (hl : Listening session e erred h) {hdr : List UInt8}
    (hh : UdpHeaders hdr) (hs : session.length = 10) (h1 : 1 ≤ e) {msgs : List WireMessage}
    (hne : msgs ≠ []) (hcount : msgs.length < 2 ^ 16) (hm : ∀ m ∈ msgs, m.Fits)
    (hlim : e + msgs.length ≤ 2 ^ 64 - 1) :
    ∃ h', h.processFrame (hdr ++ buildPacket session (UInt64.ofNat e) (msgs.map WireMessage.encode))
        (hdr ++ buildPacket session (UInt64.ofNat e) (msgs.map WireMessage.encode)).length =
        (h', true) ∧ Listening session (e + msgs.length) erred h' ∧
      h'.offers.map Offer.record = h.offers.map Offer.record ++ msgs.map WireMessage.toRecord ∧
      h'.packetsProcessed = h.packetsProcessed + 1 ∧ h'.invalidPackets = h.invalidPackets := by
  obtain ⟨hf, hret, hev⟩ := hl.following.processPacket_next
    (show msgs.map WireMessage.encode ≠ [] by simpa using hne) (by rwa [List.length_map])
    (encode_fits hm) hs h1 (by rwa [List.length_map])
  rw [List.length_map] at hf
  obtain ⟨h', hframe, hsess, hcb, hrest⟩ :=
    processFrame_built hl.callbacks hh hs e hm hcount hret hev
  exact ⟨h', hframe, ⟨hsess ▸ hf, hcb⟩, hrest⟩

/-- **Step lemma**: a frame that does not name `session` is counted invalid and pushes nothing;
the session follows the stream as before, in `Error` if the frame named another session. -/
theorem Listening.processFrame_other (hl : Listening session e erred h) {f : List UInt8}
    (hf : frameSession? f ≠ some session) :
    Listening session e (erred || (frameSession? f).any fun x => x ≠ session)
        (h.processFrame f f.length).1 ∧
      (h.processFrame f f.length).1.offers = h.offers ∧
      (h.processFrame f f.length).1.packetsProcessed = h.packetsProcessed ∧
      (h.processFrame f f.length).1.invalidPackets = h.invalidPackets + 1 := by
  have hkeep : Listening session e erred h.countInvalid := ⟨hl.following, hl.callbacks⟩
  unfold frameSession? at hf ⊢
  unfold processFrame
  split_ifs with hmin
  · exact ⟨by simpa using hkeep, rfl, rfl, rfl⟩
  rcases hstrip : stripHeaders f f.length with _ | ⟨offset, payloadLen⟩
  · exact ⟨by simpa using hkeep, rfl, rfl, rfl⟩
  rw [if_neg hmin, hstrip, Option.some_bind] at hf
  obtain ⟨hF, hret, hev⟩ := hl.following.processPacket_other hf
  simp only [Option.some_bind, processPayload, hret, hev, onSessionEvents, Bool.false_eq_true,
    if_false]
  exact ⟨⟨hF, hl.callbacks⟩, rfl, rfl, rfl⟩

theorem run_rawFrames_cons (s : System N) (f rest : List UInt8)
    (frames : List (List UInt8 × List UInt8)) :
    s.run (rawFrames ((f, rest) :: frames)) =
      (⟨(s.handler.processFrame (f ++ rest) f.length).1, s.dequeued⟩ : System N).run
        (rawFrames frames) :=
  rfl

/-- **Run lemma**: frames, each with its headers inside it and followed by any bytes, in which
those naming `session` are the frames of a contiguous stream from `e` on. The stream's frames
are accepted and push the records of their messages, in order; every other frame is counted
invalid and pushes nothing; and the session follows the stream, in `Error` once a frame has
named another session. -/
theorem Listening.run {hdr : List UInt8} (hh : UdpHeaders hdr) (hs : session.length = 10)
    (frames : List (List UInt8 × List UInt8)) (batches : List (List WireMessage))
    (hin : ∀ f ∈ frames, HeadersInside f.1 f.1.length)
    (hown : (frames.map Prod.fst).filter (fun f => frameSession? f = some session) =
      streamFrameBytes hdr session e batches)
    (hb : ∀ b ∈ batches, b ≠ [] ∧ b.length < 2 ^ 16 ∧ ∀ m ∈ b, m.Fits) (h1 : 1 ≤ e)
    (hlim : e + (batches.map List.length).sum ≤ 2 ^ 64 - 1) {s : System N}
    (hl : Listening session e erred s.handler) :
    Listening session (e + (batches.map List.length).sum)
        (erred || (frames.map Prod.fst).any fun f => (frameSession? f).any fun x => x ≠ session)
        (s.run (rawFrames frames)).handler ∧
      (s.run (rawFrames frames)).handler.offers.map Offer.record =
        s.handler.offers.map Offer.record ++ batches.flatten.map WireMessage.toRecord ∧
      (s.run (rawFrames frames)).handler.packetsProcessed =
        s.handler.packetsProcessed + UInt64.ofNat batches.length ∧
      (s.run (rawFrames frames)).handler.invalidPackets = s.handler.invalidPackets +
        UInt64.ofNat ((frames.map Prod.fst).countP fun f => frameSession? f ≠ some session) := by
  induction frames generalizing e erred s batches with
  | nil =>
    cases batches with
    | nil => exact ⟨by simpa using hl, (List.append_nil _).symm, (add_ofNat_zero _).symm,
        (add_ofNat_zero _).symm⟩
    | cons b bs => cases hown
  | cons f frames ih =>
    obtain ⟨f, rest⟩ := f
    have hin' : ∀ f ∈ frames, HeadersInside f.1 f.1.length :=
      fun f' hf' => hin f' (List.mem_cons_of_mem _ hf')
    rw [run_rawFrames_cons, processFrame_append _ (hin _ (List.mem_cons_self _ _))]
    rw [List.map_cons] at hown ⊢
    by_cases hf : frameSession? f = some session
    · rw [List.filter_cons_of_pos (by simpa using hf)] at hown
      obtain ⟨b, bs, rfl, rfl, hrest⟩ : ∃ b bs, batches = b :: bs ∧
          f = hdr ++ buildPacket session (UInt64.ofNat e) (b.map WireMessage.encode) ∧
          (frames.map Prod.fst).filter (fun f => frameSession? f = some session) =
            streamFrameBytes hdr session (e + b.length) bs := by
        cases batches with
        | nil => cases hown
        | cons b bs =>
          simp only [streamFrameBytes, List.map_cons, Session.streamPackets, List.cons.injEq,
            List.length_map] at hown
          exact ⟨b, bs, rfl, hown.1, hown.2⟩
      obtain ⟨hne, hcount, hm⟩ := hb b (List.mem_cons_self _ _)
      simp only [List.map_cons, List.sum_cons] at hlim
      obtain ⟨h', hframe, hl', hrec, hpp, hinv⟩ :=
        hl.processFrame_next hh hs h1 hne hcount hm (by omega)
      obtain ⟨ih1, ih2, ih3, ih4⟩ := ih (s := ⟨h', s.dequeued⟩) bs hin' hrest
        (fun b' hb' => hb b' (List.mem_cons_of_mem _ hb')) (by omega) (by omega) hl'
      rw [hframe]
      refine ⟨?_, ?_, ?_, ?_⟩
      · simpa only [List.any_cons, hf, Option.any_some, ne_eq, not_true_eq_false, decide_False,
          Bool.false_or, List.map_cons, List.sum_cons, Nat.add_assoc] using ih1
      · rw [ih2, hrec, List.flatten_cons, List.map_append, List.append_assoc]
      · rw [ih3, hpp, List.length_cons, Session.add_one_add_ofNat]
      · rw [ih4, hinv, List.countP_cons, if_neg (by simpa using hf), Nat.add_zero]
    · rw [List.filter_cons_of_neg (by simpa using hf)] at hown
      obtain ⟨hl', hoff, hpp, hinv⟩ := hl.processFrame_other hf
      obtain ⟨ih1, ih2, ih3, ih4⟩ := ih (s := ⟨_, s.dequeued⟩) batches hin' hown hb h1 hlim hl'
      refine ⟨by simpa only [List.any_cons, Bool.or_assoc] using ih1, ?_, ?_, ?_⟩
      · rw [ih2, hoff]
      · rw [ih3, hpp]
      · rw [ih4, hinv, List.countP_cons, if_pos (by simpa using hf), Session.add_one_add_ofNat]

end Listening

/-- **Frames of other sessions do not reach the ring.** For a handler built on an empty ring of
capacity `N`, hand `process_raw_packet` any interleaving of two kinds of frame, the stream's
first frame first, each frame followed in memory by any bytes and with its headers inside it.
The first kind is the frames of a contiguous MoldUDP64 stream of one 10-byte session, as in
`stream_reaches_ring`: batches of one to `65535` order-flow messages that fit the wire, behind
Ethernet, IPv4 and UDP headers, numbered from `1`. The second kind is any other frames: too
short, not IPv4 or UDP, with a MoldUDP64 header that does not parse, or one that names another
session. Then `packets_processed` counts the stream's frames and
`invalid_packets` all the others. The records handed to `push_message` are exactly the
stream's, in order, and the ring holds the first `N - 1` of them. The session ends `Error` if a
frame named another session, and `Active` otherwise. -/
theorem stream_isolated_on_packet_path (hdr : List UInt8) (hh : UdpHeaders hdr)
    (session : List UInt8) (hs : session.length = 10) (batches : List (List WireMessage))
    (hne : batches ≠ [])
    (hb : ∀ b ∈ batches, b ≠ [] ∧ b.length < 2 ^ 16 ∧ ∀ m ∈ b, m.Fits)
    (hlim : 1 + (batches.map List.length).sum ≤ 2 ^ 64 - 1)
    (frames : List (List UInt8 × List UInt8)) (hin : ∀ f ∈ frames, HeadersInside f.1 f.1.length)
    (hown : (frames.map Prod.fst).filter (fun f => frameSession? f = some session) =
      streamFrameBytes hdr session 1 batches)
    (hfirst : (frames.map Prod.fst).head? = (streamFrameBytes hdr session 1 batches).head?) :
    (System.run (⟨PacketHandler.new RingBuffer.new, []⟩ : System N)
        (rawFrames frames)).handler.packetsProcessed = UInt64.ofNat batches.length ∧
      (System.run (⟨PacketHandler.new RingBuffer.new, []⟩ : System N)
        (rawFrames frames)).handler.invalidPackets =
        UInt64.ofNat (frames.length - batches.length) ∧
      (System.run (⟨PacketHandler.new RingBuffer.new, []⟩ : System N)
        (rawFrames frames)).handler.offers.map Offer.record =
        batches.flatten.map WireMessage.toRecord ∧
      (System.run (⟨PacketHandler.new RingBuffer.new, []⟩ : System N)
        (rawFrames frames)).handler.outputBuffer.contents =
        (batches.flatten.map WireMessage.toRecord).take (N.val - 1) ∧
      (System.run (⟨PacketHandler.new RingBuffer.new, []⟩ : System N)
        (rawFrames frames)).handler.session.state =
        if (frames.map Prod.fst).any (fun f => (frameSession? f).any fun x => x ≠ session) then
          .error
        else .active := by
  set s₀ : System N := ⟨PacketHandler.new RingBuffer.new, []⟩
  have hfill := (Filling.ledgerInvariant.run (s := s₀) Filling.new (rawFrames frames)
    (by simp [rawFrames])).1
  obtain ⟨b, bs, rfl⟩ := List.exists_cons_of_ne_nil hne
  obtain ⟨hne₀, hcount, hm⟩ := hb b (List.mem_cons_self _ _)
  simp only [List.map_cons, List.sum_cons] at hlim
  obtain ⟨⟨f, j⟩, rest, rfl⟩ : ∃ f rest, frames = f :: rest :=
    List.exists_cons_of_ne_nil (by rintro rfl; cases hfirst)
  obtain rfl : f = hdr ++ buildPacket session (UInt64.ofNat 1) (b.map WireMessage.encode) :=
    Option.some.inj hfirst
  rw [List.map_cons] at hown ⊢
  have hfs := frameSession?_built hh hs 1 hm hcount
  rw [List.filter_cons_of_pos (by simpa using hfs)] at hown
  simp only [streamFrameBytes, List.map_cons, Session.streamPackets, List.cons.injEq,
    List.length_map] at hown
  obtain ⟨hret, hst, hready, hev⟩ :=
    Session.processPacket_stream (Receiving.new (N := N) session).ready
    (show b.map WireMessage.encode ≠ [] by simpa using hne₀) (by rwa [List.length_map])
    (encode_fits hm) hs le_rfl (by rw [List.length_map]; omega)
  rw [List.length_map] at hready
  obtain ⟨h₁, hframe, hsess, hcb, hrec, hpp, hinv⟩ :=
    processFrame_built (Receiving.new (N := N) session).callbacks hh hs 1 hm hcount hret hev
  have hl₁ : Listening session (1 + b.length) false h₁ := by
    rw [← hsess] at hst hready
    exact ⟨⟨(hready.adopted.resolve_left (by rw [hst]; nofun)).2, hst, hready.expected,
      hready.gaps, hready.callback⟩, hcb⟩
  have hrun : s₀.run (rawFrames ((hdr ++ buildPacket session (UInt64.ofNat 1)
      (b.map WireMessage.encode), j) :: rest)) = (⟨h₁, []⟩ : System N).run (rawFrames rest) := by
    rw [run_rawFrames_cons, processFrame_append _ (hin _ (List.mem_cons_self _ _)), hframe]
  obtain ⟨ih1, ih2, ih3, ih4⟩ := hl₁.run hh hs rest bs
    (fun f hf => hin f (List.mem_cons_of_mem _ hf)) hown.2
    (fun b' hb' => hb b' (List.mem_cons_of_mem _ hb')) (by omega) (by omega) (s := ⟨h₁, []⟩)
  have hoffers : ((⟨h₁, []⟩ : System N).run (rawFrames rest)).handler.offers.map Offer.record =
      (b :: bs).flatten.map WireMessage.toRecord := by
    rw [ih2, hrec, List.flatten_cons, List.map_append]; rfl
  rw [hrun] at hfill ⊢
  refine ⟨?_, ?_, hoffers, by rw [hfill.contents, hoffers], ?_⟩
  · rw [ih3, hpp, List.length_cons, Session.add_one_add_ofNat]
    exact zero_add_u64 _
  · rw [ih4, hinv, countP_other hown.2, List.length_map, List.length_cons, List.length_cons,
      Nat.add_sub_add_right]
    exact zero_add_u64 _
  · rw [ih1.following.state, List.any_cons, hfs]
    simp only [Option.any_some, ne_eq, not_true_eq_false, decide_False]

/-- A frame of the stream followed by three bytes, then a frame of another session and a
one-byte frame: the ring holds the stream's one record, the other two frames are invalid, and
the session is in `Error`. -/
theorem other_session_frame_dropped :
    (System.run (⟨PacketHandler.new RingBuffer.new, []⟩ : System messageBufferCapacity)
        (rawFrames [(List.replicate 12 0 ++ [8, 0, 0x45] ++ List.replicate 8 0 ++ [17] ++
            List.replicate 18 0 ++ buildPacket (List.replicate 10 65) 1
              [WireMessage.encode ⟨1, 2, 3, .orderDelete 7⟩], [1, 2, 3]),
          (List.replicate 12 0 ++ [8, 0, 0x45] ++ List.replicate 8 0 ++ [17] ++
            List.replicate 18 0 ++ buildPacket (List.replicate 10 66) 1
              [WireMessage.encode ⟨1, 2, 3, .orderDelete 9⟩], []),
          ([0], [5])])).handler.outputBuffer.contents =
        [WireMessage.toRecord ⟨1, 2, 3, .orderDelete 7⟩] ∧
      (System.run (⟨PacketHandler.new RingBuffer.new, []⟩ : System messageBufferCapacity)
        (rawFrames [(List.replicate 12 0 ++ [8, 0, 0x45] ++ List.replicate 8 0 ++ [17] ++
            List.replicate 18 0 ++ buildPacket (List.replicate 10 65) 1
              [WireMessage.encode ⟨1, 2, 3, .orderDelete 7⟩], [1, 2, 3]),
          (List.replicate 12 0 ++ [8, 0, 0x45] ++ List.replicate 8 0 ++ [17] ++
            List.replicate 18 0 ++ buildPacket (List.replicate 10 66) 1
              [WireMessage.encode ⟨1, 2, 3, .orderDelete 9⟩], []),
          ([0], [5])])).handler.session.state =
        .error := by
  have h := stream_isolated_on_packet_path (N := messageBufferCapacity)
    (List.replicate 12 0 ++ [8, 0, 0x45] ++ List.replicate 8 0 ++ [17] ++ List.replicate 18 0)
    (by decide) (List.replicate 10 65) rfl [[⟨1, 2, 3, .orderDelete 7⟩]] (by decide) (by decide)
    (by decide) [(List.replicate 12 0 ++ [8, 0, 0x45] ++ List.replicate 8 0 ++ [17] ++
        List.replicate 18 0 ++ buildPacket (List.replicate 10 65) 1
          [WireMessage.encode ⟨1, 2, 3, .orderDelete 7⟩], [1, 2, 3]),
      (List.replicate 12 0 ++ [8, 0, 0x45] ++ List.replicate 8 0 ++ [17] ++
        List.replicate 18 0 ++ buildPacket (List.replicate 10 66) 1
          [WireMessage.encode ⟨1, 2, 3, .orderDelete 9⟩], []), ([0], [5])] (by decide) (by decide)
    (by decide)
  exact ⟨h.2.2.2.1.trans (by decide), h.2.2.2.2.trans (by decide)⟩

end Dpdk

end ItchFeedHandler
