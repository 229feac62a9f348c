import ItchFeedHandler.MoldUdp64.Delivery

/-!
# Recovery of a lost range

MoldUDP64 recovers lost packets by retransmission. The session notices a loss when a packet
numbered past the expected number arrives: `process_packet` records the gap from the expected
number to the one before the packet, makes the session `Stale`, and takes the packet. Packets
that follow in order are taken while the gap stays pending. A `process_retransmission` call that
carries exactly the missing messages removes the gap in its `check_gap_fill`, delivers them, and
makes the session `Active` again.

* **A packet past the expected number** (`processPacket_ahead`): the gap is recorded and the
  packet is delivered; the session expects the number after it.
* **In-order packets** (`runOps_streamOps`): a contiguous run of packets leaves the pending gaps
  alone and delivers every message, from any tracked state.
* **The retransmission** (`processRetransmission_fills`): on a session whose one pending gap it
  covers exactly, it clears the gap and delivers each message with its number.
* `lost_range_recovered`: over a whole run. After a contiguous stream from `1` in which one
  range of messages never arrives, the session holds exactly that range as its gap and is
  `Stale`; after the retransmission of the range it is healthy, expects the number after the
  last message, and every message of the stream has been delivered once, with its number: the
  ones that arrived live in order, then the recovered ones.
-/

namespace ItchFeedHandler

namespace MoldUdp64

open Endian HeaderParser

namespace Session

/-- Message callbacks that hand over the payloads `xs` in order, with no gap callback among
them or with some: `filterMap` keeps the payloads of the message callbacks. -/
theorem filterMap_payload {events : List Event} {msgs : List (List UInt8)} {seq : Nat}
    (h : events.map Event.payload? = (msgs.enumFrom seq).map fun p => some (p.2, UInt64.ofNat p.1)) :
    events.filterMap Event.payload? = (msgs.enumFrom seq).map fun p => (p.2, UInt64.ofNat p.1) := by
  have := congrArg (List.filterMap id) h
  rwa [List.filterMap_map, List.filterMap_map, Function.id_comp, Function.id_comp,
    show (fun p : Nat × List UInt8 => some (p.2, UInt64.ofNat p.1)) =
      some ∘ fun p => (p.2, UInt64.ofNat p.1) from rfl, List.filterMap_eq_map] at this

theorem runOps_append (s : Session) (ops ops' : List Op) :
    s.runOps (ops ++ ops') =
      (((s.runOps ops).1.runOps ops').1, (s.runOps ops).2 ++ ((s.runOps ops).1.runOps ops').2) := by
  induction ops generalizing s with
  | nil => rfl
  | cons o ops ih =>
    rw [List.cons_append]
    simp only [runOps, ih, List.append_assoc]

theorem streamOps_cons (session : List UInt8) (seq : Nat) (b : List (List UInt8))
    (rest : List (List (List UInt8))) :
    streamOps session seq (b :: rest) =
      .processPacket (buildPacket session (UInt64.ofNat seq) b)
        (buildPacket session (UInt64.ofNat seq) b).length ::
      streamOps session (seq + b.length) rest := rfl

/-- A tracked session with a gap pending is `Stale`. -/
theorem Tracking.stale {session : List UInt8} {e : Nat} {gaps : List Gap} {s : Session}
    (h : Tracking session e gaps s) (hg : gaps ≠ []) : s.state = .stale := by
  rcases h.adopted with ⟨-, rfl⟩ | ⟨-, hst⟩
  · exact absurd rfl hg
  · rwa [if_neg hg] at hst

/-! ### A packet past the expected number -/

/-- `detect_gap` on a packet past the expected number: the gap `[expected, seq - 1]` is appended,
counted, reported when the gap callback is set, and the session is `Stale`. -/
theorem detectGap_of_gt {s : Session} {header : Header}
    (h : header.sequenceNumber > s.expectedSequence) :
    s.detectGap header =
      ({ s with pendingGaps := s.pendingGaps ++ [⟨s.expectedSequence, header.sequenceNumber - 1, 0⟩]
                gapsDetected := s.gapsDetected + 1, state := .stale },
        if s.gapCallback then [.gap ⟨s.expectedSequence, header.sequenceNumber - 1, 0⟩] else []) := by
  rw [detectGap, if_pos h]

/-- **A packet past the expected number** opens the gap from the expected number to the one
before the packet and makes the session `Stale`; the packet is accepted, each of its blocks is
delivered in order with its payload and number, and the session expects the number after it. -/
theorem processData_ahead {s : Session} {session : List UInt8} {seq : Nat}
    {msgs : List (List UInt8)} (hlt : s.expectedSequence.toNat < seq)
    (hcb : s.messageCallback = true) (hne : msgs ≠ []) (hcount : msgs.length < 2 ^ 16)
    (hlen : ∀ m ∈ msgs, m.length < 2 ^ 16) (hs : session.length = 10)
    (hlim : seq + msgs.length ≤ 2 ^ 64 - 1) :
    let pkt := buildPacket session (UInt64.ofNat seq) msgs
    let r := s.processData pkt pkt.length ⟨session, UInt64.ofNat seq, UInt16.ofNat msgs.length⟩
    r.2.1 = true ∧ r.1.state = .stale ∧ r.1.sessionId = s.sessionId ∧
      r.1.expectedSequence.toNat = seq + msgs.length ∧
      r.1.pendingGaps = s.pendingGaps ++ [⟨s.expectedSequence, UInt64.ofNat seq - 1, 0⟩] ∧
      r.1.messageCallback = true ∧
      r.2.2.filterMap Event.payload? = (msgs.enumFrom seq).map fun p => (p.2, UInt64.ofNat p.1) := by
  obtain ⟨hb, he⟩ := built_data_header session seq hne hcount (by omega) hlim
  have hseq : (UInt64.ofNat seq).toNat = seq := by simp only [toNat_ofNat_u64]; omega
  have hnext := toNat_next_built seq hcount hlim
  have hgt : (⟨session, UInt64.ofNat seq, UInt16.ofNat msgs.length⟩ : Header).sequenceNumber >
      s.expectedSequence := by
    rw [gt_iff_lt, u64_lt]; exact hseq.symm ▸ hlt
  have hd := detectGap_of_gt hgt
  have hmsg := dispatchMessages_built session seq
    (s.detectGap ⟨session, UInt64.ofNat seq, UInt16.ofNat msgs.length⟩).1
    ((detectGap_messageCallback s _).trans hcb) hcount hlen hs
  dsimp only
  rw [processData_data hb he]
  refine ⟨rfl, ?_, ?_, ?_, ?_, ?_, ?_⟩
  all_goals rw [hd]
  · simp [updateExpected_state]
  · simp
  · rw [updateExpected_expectedSequence, dispatchMessages_expectedSequence, if_pos, hnext]
    rw [gt_iff_lt, u64_lt, hnext]; dsimp only; omega
  · simp
  · simp [hcb]
  · rw [hd] at hmsg
    rw [List.filterMap_append, filterMap_payload hmsg]
    cases s.gapCallback <;> rfl

/-- A packet of the tracked session past the expected number `e`: accepted, delivered in order,
and the session tracks one more gap, `[e, seq - 1]`, expecting the number after the packet. -/
theorem processPacket_ahead {s : Session} {session : List UInt8} {e seq : Nat}
    {gaps : List Gap} {msgs : List (List UInt8)} (h : Tracking session e gaps s) (hlt : e < seq)
    (hne : msgs ≠ []) (hcount : msgs.length < 2 ^ 16) (hlen : ∀ m ∈ msgs, m.length < 2 ^ 16)
    (hs : session.length = 10) (hlim : seq + msgs.length ≤ 2 ^ 64 - 1) :
    let pkt := buildPacket session (UInt64.ofNat seq) msgs
    let r := s.processPacket pkt pkt.length
    r.2.1 = true ∧
      Tracking session (seq + msgs.length) (gaps ++ [⟨UInt64.ofNat e, UInt64.ofNat seq - 1, 0⟩]) r.1 ∧
      r.2.2.filterMap Event.payload? = (msgs.enumFrom seq).map fun p => (p.2, UInt64.ofNat p.1) := by
  obtain ⟨s', hr, hid, -, hE, hgs, hcb⟩ := h.processPacket_built seq hcount hs
  obtain ⟨hret, hst', hid', hE', hg', hcb', hev⟩ :=
    processData_ahead (hE ▸ hlt) hcb hne hcount hlen hs hlim
  have hEq : s'.expectedSequence = UInt64.ofNat e := by
    rw [u64_ext, hE, toNat_ofNat_u64]; omega
  dsimp only
  rw [hr]
  exact ⟨hret, ⟨.inr ⟨hid'.trans hid, by rw [hst', if_neg (by simp)]⟩, hE',
    by rw [hg', hgs, hEq], hcb'⟩, hev⟩

/-! ### In-order packets while a gap is pending -/

/-- **Run lemma**: the packets of a contiguous stream from the expected number `e` on leave the
pending gaps alone and deliver every message in order, each with its payload and number. -/
theorem runOps_streamOps {session : List UInt8} (hs : session.length = 10)
    (batches : List (List (List UInt8))) {gaps : List Gap} {s : Session} {e : Nat}
    (h : Tracking session e gaps s) (h1 : 1 ≤ e)
    (hb : ∀ b ∈ batches, b ≠ [] ∧ b.length < 2 ^ 16 ∧ ∀ m ∈ b, m.length < 2 ^ 16)
    (hlim : e + (batches.map List.length).sum ≤ 2 ^ 64 - 1) :
    Tracking session (e + (batches.map List.length).sum) gaps
        (s.runOps (streamOps session e batches)).1 ∧
      (s.runOps (streamOps session e batches)).2.filterMap Event.payload? =
        (batches.flatten.enumFrom e).map fun p => (p.2, UInt64.ofNat p.1) := by
  induction batches generalizing s e with
  | nil => exact ⟨h, rfl⟩
  | cons b rest ih =>
    obtain ⟨hne, hcount, hlen⟩ := hb b (List.mem_cons_self _ _)
    simp only [List.map_cons, List.sum_cons] at hlim ⊢
    obtain ⟨-, -, ht, hev⟩ := processPacket_overlap h le_rfl (fun hl => absurd hl (Nat.lt_irrefl _))
      hne hcount hlen hs h1 (by omega)
    rw [Nat.max_eq_right (Nat.le_add_right _ _)] at ht
    obtain ⟨ih1, ih2⟩ := ih ht (by omega) (fun b' hb' => hb b' (List.mem_cons_of_mem _ hb'))
      (by omega)
    rw [streamOps_cons]
    simp only [runOps, apply, ← Nat.add_assoc]
    refine ⟨ih1, ?_⟩
    rw [List.filterMap_append, filterMap_payload hev, ih2, List.flatten_cons, List.enumFrom_append,
      List.map_append]

/-! ### The retransmission -/

/-- `process_retransmission`'s loop over complete blocks that end the buffer: one message per
block, in order, each with exactly its payload bytes, numbered from `i` on. -/
theorem retransmissionLoop_blocks (pre : List UInt8) (msgs : List (List UInt8))
    (hm : ∀ m ∈ msgs, m.length < 2 ^ 16) (i : Nat) :
    (retransmissionLoop (pre ++ (msgs.map encodeBlock).flatten)
      (pre ++ (msgs.map encodeBlock).flatten).length msgs.length pre.length
      (UInt64.ofNat i)).map Event.payload? =
      (msgs.enumFrom i).map fun p => some (p.2, UInt64.ofNat p.1) := by
  induction msgs generalizing pre i with
  | nil => rfl
  | cons m ms ih =>
    have hm0 := hm m (List.mem_cons_self _ _)
    rw [List.map_cons, List.flatten_cons, ← List.append_assoc, List.length_cons]
    have hread : (readMessageLength (((pre ++ encodeBlock m) ++
        (ms.map encodeBlock).flatten).drop pre.length)).toNat = m.length := by
      rw [List.append_assoc, List.drop_left]; exact readMessageLength_block hm0 _
    have hlen : ((pre ++ encodeBlock m) ++ (ms.map encodeBlock).flatten).length =
        pre.length + messageBlockSize + m.length + (ms.map encodeBlock).flatten.length := by
      simp only [List.length_append, length_encodeBlock, messageBlockSize]; omega
    have hoff : pre.length + messageBlockSize + m.length = (pre ++ encodeBlock m).length := by
      simp only [List.length_append, length_encodeBlock, messageBlockSize]; omega
    rw [retransmissionLoop]
    dsimp only
    split_ifs with h1 h2
    · rw [hread] at h2; omega
    · rw [hread, hoff, List.map_cons, List.enumFrom_cons, List.map_cons, ofNat_add_one,
        ih _ (fun m hm' => hm m (List.mem_cons_of_mem _ hm'))]
      refine congrArg (· :: _) ?_
      have hsplit : pre ++ encodeBlock m ++ (ms.map encodeBlock).flatten =
          (pre ++ beBytes 2 m.length) ++ (m ++ (ms.map encodeBlock).flatten) := by
        simp [encodeBlock]
      rw [Event.payload?, hread, hsplit,
        List.drop_left' (by simp [length_beBytes, messageBlockSize]), List.take_left' rfl]
    · simp only [messageBlockSize] at hlen; omega

/-- **A retransmission of exactly the pending gap** `[a, a + count - 1]`: its `check_gap_fill`
removes the gap, the session becomes `Active`, still expecting `e`, and each retransmitted
message is delivered in order with its payload and its number from `a` on. -/
theorem processRetransmission_fills {s : Session} {session : List UInt8} {e a : Nat}
    {msgs : List (List UInt8)}
    (h : Tracking session e [⟨UInt64.ofNat a, UInt64.ofNat (a + msgs.length) - 1, 0⟩] s)
    (hne : msgs ≠ []) (hcount : msgs.length < 2 ^ 16) (hlen : ∀ m ∈ msgs, m.length < 2 ^ 16) :
    let data := (msgs.map encodeBlock).flatten
    let r := s.processRetransmission (UInt64.ofNat a) data data.length (UInt16.ofNat msgs.length)
    r.1.state = .active ∧ Tracking session e [] r.1 ∧
      r.2.filterMap Event.payload? = (msgs.enumFrom a).map fun p => (p.2, UInt64.ofNat p.1) := by
  have hpos : 0 < msgs.length := List.length_pos.mpr hne
  have hend : UInt64.ofNat a + (UInt16.ofNat msgs.length).toUInt64 - 1 =
      UInt64.ofNat (a + msgs.length) - 1 := by
    rw [u64_ext]
    simp only [toNat_sub_u64, toNat_add_u64, toNat_toUInt64, UInt16.toNat_ofNat_of_lt hcount,
      toNat_ofNat_u64, toNat_one_u64]
    omega
  have hfill : checkGapFill (UInt64.ofNat a) (UInt64.ofNat a + (UInt16.ofNat msgs.length).toUInt64 - 1)
      s.pendingGaps = [] := by
    rw [h.pendingGaps, hend]
    simp [checkGapFill, fillGap]
  have hsid : s.sessionId = session := by
    rcases h.adopted with ⟨-, hg⟩ | ⟨hid, -⟩
    · exact absurd hg (List.cons_ne_nil _ _)
    · exact hid
  dsimp only
  simp only [processRetransmission, hfill, if_true, h.callback]
  refine ⟨trivial, ⟨.inr ⟨hsid, rfl⟩, h.expected, rfl, rfl⟩, filterMap_payload ?_⟩
  simpa [UInt16.toNat_ofNat_of_lt hcount] using retransmissionLoop_blocks [] msgs hlen a

/-! ### A lost range, recovered -/

/-- Spec-side input: the packets of a stream of `session` from `1` that arrive when the
messages `lost`, numbered after those of the batches `pre`, never do: `pre`'s packets, then
`post`'s, numbered on from the end of `lost`. -/
def lossyStreamOps (session : List UInt8) (pre : List (List (List UInt8)))
    (lost : List (List UInt8)) (post : List (List (List UInt8))) : List Op :=
  streamOps session 1 pre ++
    streamOps session (1 + (pre.map List.length).sum + lost.length) post

/-- Spec-side input: the retransmission of the messages `msgs` numbered from `a`, as
`process_retransmission(a, blocks, their length, count)`. -/
def retransmissionOp (a : Nat) (msgs : List (List UInt8)) : Op :=
  .processRetransmission (UInt64.ofNat a) (msgs.map encodeBlock).flatten
    (msgs.map encodeBlock).flatten.length (UInt16.ofNat msgs.length)

/-- **A lost range is recovered by its retransmission.** Feed a session constructed with its
message callback set the packets of one session, each with `count ≥ 1` complete blocks: the
batches `pre` with consecutive ranges from `1`, then the batches `post` with consecutive ranges
from `a + |lost|`, where `a = 1 + Σ pre`, so that the messages `lost` numbered `a` on never
arrive; then call `process_retransmission(a, blocks of lost, count = |lost|)`. Before the
retransmission the session is `Stale` with exactly the gap `[a, a + |lost| - 1]` pending; after
it `is_healthy()` holds, the session expects the number after the last message, and the message
callbacks have delivered every message of the stream once, with its payload and number: `pre`'s
and `post`'s as they arrived, then `lost`'s. -/
theorem lost_range_recovered (sessionId session : List UInt8) (hs : session.length = 10)
    (gapCallback : Bool) (pre : List (List (List UInt8))) (lost : List (List UInt8))
    (post : List (List (List UInt8)))
    (hpre : ∀ b ∈ pre, b ≠ [] ∧ b.length < 2 ^ 16 ∧ ∀ m ∈ b, m.length < 2 ^ 16)
    (hlost : lost ≠ [] ∧ lost.length < 2 ^ 16 ∧ ∀ m ∈ lost, m.length < 2 ^ 16)
    (hpost : post ≠ [] ∧ ∀ b ∈ post, b ≠ [] ∧ b.length < 2 ^ 16 ∧ ∀ m ∈ b, m.length < 2 ^ 16)
    (hlim : 1 + (pre.map List.length).sum + lost.length + (post.map List.length).sum ≤ 2 ^ 64 - 1) :
    ((new sessionId gapCallback true).runOps (lossyStreamOps session pre lost post)).1.state =
        .stale ∧
      ((new sessionId gapCallback true).runOps (lossyStreamOps session pre lost post)).1.pendingGaps =
        [⟨UInt64.ofNat (1 + (pre.map List.length).sum),
          UInt64.ofNat (1 + (pre.map List.length).sum + lost.length) - 1, 0⟩] ∧
      ((new sessionId gapCallback true).runOps (lossyStreamOps session pre lost post ++
        [retransmissionOp (1 + (pre.map List.length).sum) lost])).1.isHealthy = true ∧
      ((new sessionId gapCallback true).runOps (lossyStreamOps session pre lost post ++
        [retransmissionOp (1 + (pre.map List.length).sum) lost])).1.expectedSequence.toNat =
        1 + (pre.map List.length).sum + lost.length + (post.map List.length).sum ∧
      ((new sessionId gapCallback true).runOps (lossyStreamOps session pre lost post ++
        [retransmissionOp (1 + (pre.map List.length).sum) lost])).2.filterMap Event.payload? =
        (pre.flatten.enumFrom 1 ++ post.flatten.enumFrom (1 + (pre.map List.length).sum + lost.length) ++
          lost.enumFrom (1 + (pre.map List.length).sum)).map fun p => (p.2, UInt64.ofNat p.1) := by
  obtain ⟨hlne, hlc, hll⟩ := hlost
  have hpos := List.length_pos.mpr hlne
  obtain ⟨hpne, hpb⟩ := hpost
  obtain ⟨b, rest, rfl⟩ := List.exists_cons_of_ne_nil hpne
  obtain ⟨hbne, hbc, hbl⟩ := hpb b (List.mem_cons_self _ _)
  simp only [List.map_cons, List.sum_cons] at hlim ⊢
  -- `pre` arrives in order, then the first packet of `post` reveals the gap
  obtain ⟨t₁, ev₁⟩ := runOps_streamOps hs pre (s := new sessionId gapCallback true)
    (Ready.tracking (e := 1) ⟨.inl rfl, rfl, rfl, rfl⟩) le_rfl hpre (by omega)
  obtain ⟨-, t₂, ev₂⟩ := processPacket_ahead t₁ (Nat.lt_add_of_pos_right hpos) hbne hbc hbl hs
    (by omega)
  rw [List.nil_append] at t₂
  -- the rest of `post` arrives in order with the gap pending
  obtain ⟨t₃, ev₃⟩ := runOps_streamOps hs rest t₂ (by omega)
    (fun b' hb' => hpb b' (List.mem_cons_of_mem _ hb')) (by omega)
  -- the retransmission fills it
  obtain ⟨hst₄, t₄, ev₄⟩ := processRetransmission_fills t₃ hlne hlc hll
  simp only [lossyStreamOps, retransmissionOp, runOps_append, streamOps_cons, runOps, apply,
    List.append_nil]
  refine ⟨t₃.stale (List.cons_ne_nil _ _), t₃.pendingGaps, ?_, ?_, ?_⟩
  · simp only [isHealthy, hst₄, t₄.pendingGaps]; rfl
  · rw [t₄.expected]; omega
  · simp only [List.filterMap_append, ev₁, ev₂, ev₃, ev₄, List.flatten_cons, List.enumFrom_append,
      List.map_append, List.append_assoc]

/-- Messages `[1]` as number `1`, then `[3]` as number `3`: number `2` never arrives and the gap
`[2, 2]` opens; the retransmission of `[2]` from `2` fills it, and all three messages have been
delivered. -/
theorem lost_message_two_recovered :
    ((new [] false true).runOps
        (lossyStreamOps (List.replicate 10 65) [[[1]]] [[2]] [[[3]]])).1.pendingGaps = [⟨2, 2, 0⟩] ∧
      ((new [] false true).runOps (lossyStreamOps (List.replicate 10 65) [[[1]]] [[2]] [[[3]]] ++
        [retransmissionOp 2 [[2]]])).2.filterMap Event.payload? = [([1], 1), ([3], 3), ([2], 2)] :=
  have h := lost_range_recovered [] (List.replicate 10 65) rfl false [[[1]]] [[2]] [[[3]]]
    (by decide) (by decide) (by decide) (by decide)
  ⟨h.2.1, h.2.2.2.2⟩

end Session

end MoldUdp64

end ItchFeedHandler
