import ItchFeedHandler.MoldUdp64.Invariants

/-!
# Delivery of messages by the session

What the message callback receives over a run of a session whose message callback is set.

* **The loops** (`dispatchLoop_seqs`, `retransmissionLoop_seqs`): the callbacks of one call
  are all messages and carry consecutive sequence numbers from the call's first one.
* **Where a number can be lost** (`loss_only_in_short_spans`): every sequence number below the
  expected one was delivered, or lies in a pending gap, or lies in the `Span` of a call that
  delivered fewer messages than its span holds. The span of a call is the range
  `[seq, seq + count - 1]` its header or arguments name, in `uint64_t` as `check_gap_fill`
  receives it. A short span comes from a packet or a retransmission whose blocks stop before
  its count, and from the retransmission with `start = 0` and `count = 0`, whose range
  `[0, 0 + 0 - 1]` wraps to every number and so empties the gap list while delivering
  nothing.
* **Contiguous streams** (`contiguous_stream_delivered`): packets of one session with
  consecutive ranges from `1`, each holding exactly its count of blocks, are delivered
  exactly and in order, and the session stays `Active` with no gap.
* **Repeated numbers** (`processPacket_overlap`): a packet that starts at or before the number
  the session expects, a duplicate or one that overlaps the numbers already seen, is accepted
  and every one of its messages is delivered again; the expected number only moves forward.
-/

namespace ItchFeedHandler

namespace MoldUdp64

open Endian HeaderParser

/-- The sequence number a message callback receives; `none` for a gap callback. -/
def Event.seq? : Event → Option SequenceNumber
  | .message _ _ seq => some seq
  | .gap _ => none

/-- The payload bytes and the sequence number a message callback receives. -/
def Event.payload? : Event → Option (List UInt8 × SequenceNumber)
  | .message data length seq => some (data.take length.toNat, seq)
  | .gap _ => none

namespace Session

/-! ### The message loops -/

theorem add_one_add_ofNat (seq : SequenceNumber) (i : Nat) :
    seq + 1 + UInt64.ofNat i = seq + UInt64.ofNat (i + 1) := by
  rw [u64_ext]; simp only [toNat_add_u64, toNat_one_u64, toNat_ofNat_u64]; omega

/-- Numbering from `seq` on, as the loops number their messages. -/
theorem range_succ_map_add (seq : SequenceNumber) (k : Nat) :
    (List.range (k + 1)).map (seq + UInt64.ofNat ·) =
      seq :: (List.range k).map (seq + 1 + UInt64.ofNat ·) := by
  simp only [List.range_succ_eq_map, List.map_cons, List.map_map]
  refine congrArg₂ _ ?_ (List.map_congr_left fun i _ => (add_one_add_ofNat seq i).symm)
  have := toNat_lt_u64 seq
  rw [u64_ext]; simp only [toNat_add_u64, toNat_ofNat_u64]; omega

/-- `process_packet`'s loop makes only message callbacks, numbered `seq, seq + 1, ...`. -/
theorem dispatchLoop_seqs (data : List UInt8) (len n offset : Nat) (seq : SequenceNumber) :
    (dispatchLoop data len n offset seq).filterMap Event.seq? =
      (List.range (dispatchLoop data len n offset seq).length).map (seq + UInt64.ofNat ·) := by
  induction n generalizing offset seq with
  | zero => rfl
  | succ n ih =>
    unfold dispatchLoop
    dsimp only
    split_ifs
    · rfl
    · rfl
    · rw [List.filterMap_cons, Event.seq?, ih, List.length_cons, range_succ_map_add]

/-- `process_retransmission`'s loop makes only message callbacks, numbered
`start, start + 1, ...`. -/
theorem retransmissionLoop_seqs (data : List UInt8) (len n offset : Nat) (seq : SequenceNumber) :
    (retransmissionLoop data len n offset seq).filterMap Event.seq? =
      (List.range (retransmissionLoop data len n offset seq).length).map
        (seq + UInt64.ofNat ·) := by
  induction n generalizing offset seq with
  | zero => rfl
  | succ n ih =>
    unfold retransmissionLoop
    dsimp only
    split_ifs
    · rfl
    · rw [List.filterMap_cons, Event.seq?, ih, List.length_cons, range_succ_map_add]
    · rfl

theorem detectGap_seqs (s : Session) (h : Header) :
    (s.detectGap h).2.filterMap Event.seq? = [] := by
  unfold detectGap; split_ifs <;> simp [Event.seq?]

/-! ### Spans -/

/-- The range of sequence numbers a call answers for, `[start, start + count - 1]` in
`uint64_t` as `check_gap_fill` receives it, and the number of messages the call delivered. -/
structure Span where
  start : SequenceNumber
  «end» : SequenceNumber
  delivered : Nat
  deriving DecidableEq, Repr

/-- `n` lies in the span's range. -/
def Span.Covers (sp : Span) (n : Nat) : Prop := sp.start.toNat ≤ n ∧ n ≤ sp.«end».toNat

/-- The call delivered fewer messages than its range holds. -/
def Span.Short (sp : Span) : Prop := sp.delivered < sp.«end».toNat + 1 - sp.start.toNat

/-- The span of a call: a data packet's `[seq, seq + count - 1]` and a retransmission's
`[start, start + count - 1]`; other packets answer for no range. -/
def span (s : Session) (o : Op) : Option Span :=
  let delivered := ((s.apply o).2.2.filterMap Event.seq?).length
  match o with
  | .processPacket .. => (s.dataHeader o).map fun header =>
    ⟨header.sequenceNumber, header.sequenceNumber + header.messageCount.toUInt64 - 1, delivered⟩
  | .processRetransmission startSeq _ _ count =>
    some ⟨startSeq, startSeq + count.toUInt64 - 1, delivered⟩

/-- The spans of a run, in order. -/
def spans (s : Session) : List Op → List Span
  | [] => []
  | o :: os => (s.span o).toList ++ spans (s.apply o).1 os

/-- A number in a span that is not short was delivered: the call's messages are numbered
`start, start + 1, ...`, and there are at least as many as the span holds. -/
theorem delivered_of_covers {seq e : SequenceNumber} {k n : Nat} (hs : ¬ Span.Short ⟨seq, e, k⟩)
    (hc : Span.Covers ⟨seq, e, k⟩ n) : ∃ x ∈ (List.range k).map (seq + UInt64.ofNat ·), x.toNat = n := by
  simp only [Span.Short, Span.Covers, not_lt] at hs hc
  refine ⟨seq + UInt64.ofNat (n - seq.toNat),
    List.mem_map.mpr ⟨_, List.mem_range.mpr (by omega), rfl⟩, ?_⟩
  have := toNat_lt_u64 e
  simp only [toNat_add_u64, toNat_ofNat_u64]; omega

/-! ### No number is lost outside a short span -/

/-- Every number in `[1, expected)` was delivered, lies in a pending gap, or lies in a short
span. -/
def Accounted (s : Session) (delivered : List SequenceNumber) (spans : List Span) : Prop :=
  ∀ n, 1 ≤ n → n < s.expectedSequence.toNat →
    (∃ seq ∈ delivered, seq.toNat = n) ∨ (∃ g ∈ s.pendingGaps, g.Covers n) ∨
      ∃ sp ∈ spans, sp.Short ∧ sp.Covers n

variable {s : Session} {D : List SequenceNumber} {S : List Span}

/-- A number in the span of a call, whose messages are numbered from the span's start, is
delivered by the call or lies in its span, which is then short. -/
theorem accounted_of_covers {Q : Prop} {seq e : SequenceNumber} {k n : Nat}
    (hc : Span.Covers ⟨seq, e, ((List.range k).map (seq + UInt64.ofNat ·)).length⟩ n) :
    (∃ x ∈ D ++ (List.range k).map (seq + UInt64.ofNat ·), x.toNat = n) ∨ Q ∨
      ∃ sp ∈ S ++ [⟨seq, e, ((List.range k).map (seq + UInt64.ofNat ·)).length⟩],
        sp.Short ∧ sp.Covers n := by
  by_cases hs : Span.Short ⟨seq, e, ((List.range k).map (seq + UInt64.ofNat ·)).length⟩
  · exact .inr (.inr ⟨_, List.mem_append_right _ (List.mem_singleton_self _), hs, hc⟩)
  · rw [List.length_map, List.length_range] at hs hc
    obtain ⟨x, hx, hxn⟩ := delivered_of_covers hs hc
    exact .inl ⟨x, List.mem_append_right _ hx, hxn⟩

/-- A call that adds no number below the expected one, changes no gap and delivers nothing
keeps every number accounted for. -/
theorem Accounted.of_eq {s' : Session} (h : Accounted s D S)
    (he : s'.expectedSequence = s.expectedSequence) (hg : s'.pendingGaps = s.pendingGaps) :
    Accounted s' (D ++ []) (S ++ []) := by
  intro n h1 h2
  rw [he] at h2
  simpa only [List.append_nil, hg] using h n h1 h2

/-- **A retransmission** keeps every number accounted for: a number it takes out of the gaps
lies in its span. -/
theorem accounted_processRetransmission (hm : s.messageCallback = true) (h : Accounted s D S)
    (a : SequenceNumber) (data : List UInt8) (len : Nat) (c : UInt16) :
    Accounted (s.processRetransmission a data len c).1
      (D ++ (s.processRetransmission a data len c).2.filterMap Event.seq?)
      (S ++ [⟨a, a + c.toUInt64 - 1,
        ((s.processRetransmission a data len c).2.filterMap Event.seq?).length⟩]) := by
  obtain ⟨hexp, hgaps, -⟩ := processRetransmission_fields s a data len c
  rw [processRetransmission_snd, hm, if_pos rfl, retransmissionLoop_seqs]
  intro n hn1 hn2
  rw [hexp] at hn2
  rw [hgaps]
  rcases h n hn1 hn2 with ⟨x, hx, hxn⟩ | hg | ⟨sp, hsp, hs, hc⟩
  · exact .inl ⟨x, List.mem_append_left _ hx, hxn⟩
  · rcases covers_checkGapFill (a := a) (e := a + c.toUInt64 - 1) hg with hg' | hin
    · exact .inr (.inl hg')
    · exact accounted_of_covers hin
  · exact .inr (.inr ⟨sp, List.mem_append_left _ hsp, hs, hc⟩)

/-- **A data packet** keeps every number accounted for: an old number by what accounted for it
before or by the packet's span; a number below the new expected one by the gap the packet
opens or by its span. -/
theorem accounted_processData (hm : s.messageCallback = true) (h : Accounted s D S)
    (data : List UInt8) (len : Nat) {header : Header} (h1 : ¬ isHeartbeat header)
    (h2 : ¬ isEndOfSession header) :
    Accounted (s.processData data len header).1
      (D ++ (s.processData data len header).2.2.filterMap Event.seq?)
      (S ++ [⟨header.sequenceNumber, header.sequenceNumber + header.messageCount.toUInt64 - 1,
        ((s.processData data len header).2.2.filterMap Event.seq?).length⟩]) := by
  obtain ⟨hexp, -, hgaps⟩ := detectGap_fields s header
  have hE : (s.processData data len header).1.expectedSequence =
      if header.sequenceNumber + header.messageCount.toUInt64 > s.expectedSequence
      then header.sequenceNumber + header.messageCount.toUInt64 else s.expectedSequence := by
    rw [processData_data h1 h2, updateExpected_expectedSequence,
      dispatchMessages_expectedSequence, hexp]
  rw [processData_data h1 h2, List.filterMap_append, detectGap_seqs, dispatchMessages_snd,
    detectGap_messageCallback, hm, if_pos rfl, dispatchLoop_seqs, List.nil_append]
  rw [processData_data h1 h2] at hE
  intro n hn1 hn2
  rw [hE] at hn2
  rw [updateExpected_pendingGaps, dispatchMessages_pendingGaps, hgaps]
  have := toNat_lt_u64 header.sequenceNumber
  have := toNat_lt_u64 s.expectedSequence
  by_cases hold : n < s.expectedSequence.toNat
  · rcases h n hn1 hold with ⟨x, hx, hxn⟩ | ⟨g, hg, hgn⟩ | ⟨sp, hsp, hs, hc⟩
    · exact .inl ⟨x, List.mem_append_left _ hx, hxn⟩
    · split_ifs
      · exact .inr (.inl ⟨g, List.mem_append_left _ hg, hgn⟩)
      · rcases covers_checkGapFill (a := header.sequenceNumber)
          (e := header.sequenceNumber + header.messageCount.toUInt64 - 1) ⟨g, hg, hgn⟩ with
          hg' | hin
        · exact .inr (.inl hg')
        · exact accounted_of_covers hin
      · exact .inr (.inl ⟨g, hg, hgn⟩)
    · exact .inr (.inr ⟨sp, List.mem_append_left _ hsp, hs, hc⟩)
  · split_ifs at hn2 with hnext
    · simp only [gt_iff_lt, u64_lt, toNat_add_u64, toNat_toUInt64] at hnext hn2
      by_cases hgap : s.expectedSequence.toNat < header.sequenceNumber.toNat ∧
          n < header.sequenceNumber.toNat
      · rw [if_pos (u64_lt.mpr hgap.1)]
        refine .inr (.inl ⟨_, List.mem_append_right _ (List.mem_singleton_self _), ?_⟩)
        simp only [Gap.Covers, toNat_sub_u64, toNat_one_u64]; omega
      · refine accounted_of_covers ?_
        simp only [Span.Covers, toNat_sub_u64, toNat_add_u64, toNat_toUInt64, toNat_one_u64]
        omega
    · omega

/-- **Step lemma**: one call keeps every number accounted for, with the call's messages
added to the delivered numbers and its span to the spans. -/
theorem accounted_apply (hm : s.messageCallback = true) (h : Accounted s D S) (o : Op) :
    Accounted (s.apply o).1 (D ++ (s.apply o).2.2.filterMap Event.seq?)
      (S ++ (s.span o).toList) := by
  cases o with
  | processRetransmission a data len c =>
    exact accounted_processRetransmission hm h a data len c
  | processPacket data len =>
    rcases processPacket_cases s data len with ⟨hp, he⟩ | ⟨header, hp, -, he⟩ |
      ⟨header, s', hp, hc, he⟩
    · have hs : s.span (.processPacket data len) = none := by simp [span, dataHeader, hp]
      simp only [apply, hs, he]; exact h.of_eq rfl rfl
    · have hs : s.span (.processPacket data len) = none := by simp [span, dataHeader, hp, he]
      simp only [apply, hs, he]; exact h.of_eq rfl rfl
    · obtain ⟨-, hgaps, hexp, -, hcb⟩ := checkSessionId_some hc
      have h' : Accounted s' D S := fun n h1 h2 => by
        simpa only [hgaps] using h n h1 (hexp ▸ h2)
      by_cases h1 : isHeartbeat header
      · have hs : s.span (.processPacket data len) = none := by simp [span, dataHeader, hp, h1]
        simp only [apply, hs, he, processData_heartbeat h1]; exact h'.of_eq rfl rfl
      by_cases h2 : isEndOfSession header
      · have hs : s.span (.processPacket data len) = none := by simp [span, dataHeader, hp, h2]
        simp only [apply, hs, he, processData_endOfSession h1 h2]; exact h'.of_eq rfl rfl
      have hs : s.span (.processPacket data len) = some ⟨header.sequenceNumber,
          header.sequenceNumber + header.messageCount.toUInt64 - 1,
          ((s'.processData data len header).2.2.filterMap Event.seq?).length⟩ := by
        simp [span, dataHeader, hp, he, processData_data h1 h2, h1, h2, apply]
      simp only [apply, hs, he, Option.toList_some]
      exact accounted_processData (hcb.trans hm) h' data len h1 h2

/-- **Run lemma**: a run keeps every number accounted for. -/
theorem accounted_runOps (hm : s.messageCallback = true) (h : Accounted s D S) (ops : List Op) :
    Accounted (s.runOps ops).1 (D ++ (s.runOps ops).2.filterMap Event.seq?)
      (S ++ s.spans ops) := by
  induction ops generalizing s D S with
  | nil => simpa [runOps, spans] using h
  | cons o os ih =>
    have := ih ((apply_messageCallback s o).trans hm) (accounted_apply hm h o)
    simpa only [runOps, spans, List.filterMap_append, List.append_assoc] using this

/-- In a run of a session with the message callback set, every sequence number `n` with
`1 ≤ n < expected` was passed to the message callback, lies in a pending gap, or lies in the
span of a call that delivered fewer messages than its span holds. -/
theorem loss_only_in_short_spans (sessionId : List UInt8) (gapCallback : Bool) (ops : List Op) :
    ∀ n, 1 ≤ n → n < ((new sessionId gapCallback true).runOps ops).1.expectedSequence.toNat →
      (∃ seq ∈ ((new sessionId gapCallback true).runOps ops).2.filterMap Event.seq?,
          seq.toNat = n) ∨
        (∃ g ∈ ((new sessionId gapCallback true).runOps ops).1.pendingGaps, g.Covers n) ∨
        ∃ sp ∈ (new sessionId gapCallback true).spans ops, sp.Short ∧ sp.Covers n := by
  have h0 : Accounted (new sessionId gapCallback true) [] [] := fun n h1 h2 => by
    simp [new] at h2; omega
  have h := accounted_runOps rfl h0 ops
  rw [List.nil_append, List.nil_append] at h
  exact h

/-- The packet declaring two messages with its second block cut off: `2` is below the
expected `3`, and it lies in the packet's span `[1, 2]`, which delivered one message. -/
theorem loss_in_truncated_span :
    1 ≤ 2 ∧ 2 < ((new (List.replicate 10 65) false true).runOps
        [.processPacket ((buildPacket (List.replicate 10 65) 1 [[7], [8]]).take 23) 23]).1.expectedSequence.toNat ∧
      ((∃ seq ∈ ((new (List.replicate 10 65) false true).runOps
          [.processPacket ((buildPacket (List.replicate 10 65) 1 [[7], [8]]).take 23) 23]).2.filterMap
          Event.seq?, seq.toNat = 2) ∨
        (∃ g ∈ ((new (List.replicate 10 65) false true).runOps
          [.processPacket ((buildPacket (List.replicate 10 65) 1 [[7], [8]]).take 23) 23]).1.pendingGaps,
          g.Covers 2) ∨
        ∃ sp ∈ (new (List.replicate 10 65) false true).spans
          [.processPacket ((buildPacket (List.replicate 10 65) 1 [[7], [8]]).take 23) 23],
          sp.Short ∧ sp.Covers 2) :=
  ⟨by decide, by decide, loss_only_in_short_spans _ _ _ 2 (by decide) (by decide)⟩

/-- Two runs that lose numbers. A packet declaring two messages whose second block is cut off:
`1` is delivered and the expected number becomes `3` with no gap, so `2` is lost. Packets `1`
and `4` open the gap `[2, 3]`; a retransmission with `start = 0` and `count = 0` then empties
the gap list and delivers nothing, so `2` and `3` are lost. -/
theorem truncated_and_empty_retransmission_lose :
    (((new (List.replicate 10 65) false true).runOps
        [.processPacket ((buildPacket (List.replicate 10 65) 1 [[7], [8]]).take 23) 23]).2.filterMap
        Event.seq? = [1] ∧
      ((new (List.replicate 10 65) false true).runOps
        [.processPacket ((buildPacket (List.replicate 10 65) 1 [[7], [8]]).take 23) 23]).1.expectedSequence = 3 ∧
      ((new (List.replicate 10 65) false true).runOps
        [.processPacket ((buildPacket (List.replicate 10 65) 1 [[7], [8]]).take 23) 23]).1.pendingGaps = []) ∧
    (((new (List.replicate 10 65) false true).runOps
        [.processPacket (buildPacket (List.replicate 10 65) 1 [[7]]) 23,
          .processPacket (buildPacket (List.replicate 10 65) 4 [[8]]) 23]).1.pendingGaps =
        [⟨2, 3, 0⟩] ∧
      ((new (List.replicate 10 65) false true).runOps
        [.processPacket (buildPacket (List.replicate 10 65) 1 [[7]]) 23,
          .processPacket (buildPacket (List.replicate 10 65) 4 [[8]]) 23,
          .processRetransmission 0 [] 0 0]).2.filterMap Event.seq? = [1, 4] ∧
      ((new (List.replicate 10 65) false true).runOps
        [.processPacket (buildPacket (List.replicate 10 65) 1 [[7]]) 23,
          .processPacket (buildPacket (List.replicate 10 65) 4 [[8]]) 23,
          .processRetransmission 0 [] 0 0]).1.expectedSequence = 5 ∧
      ((new (List.replicate 10 65) false true).runOps
        [.processPacket (buildPacket (List.replicate 10 65) 1 [[7]]) 23,
          .processPacket (buildPacket (List.replicate 10 65) 4 [[8]]) 23,
          .processRetransmission 0 [] 0 0]).1.pendingGaps = []) := by
  decide

/-! ### Contiguous streams -/

/-- `process_packet`'s loop over complete blocks that end the buffer: one message per block, in
order, each with exactly its payload bytes, numbered from `i` on. -/
theorem dispatchLoop_blocks (pre : List UInt8) (msgs : List (List UInt8))
    (hm : ∀ m ∈ msgs, m.length < 2 ^ 16) (i : Nat) :
    (dispatchLoop (pre ++ (msgs.map encodeBlock).flatten)
      (pre ++ (msgs.map encodeBlock).flatten).length msgs.length pre.length
      (UInt64.ofNat i)).map Event.payload? =
      (msgs.enumFrom i).map fun p => some (p.2, UInt64.ofNat p.1) := by
  induction msgs generalizing pre i with
  | nil => rfl
  | cons m ms ih =>
    have hm0 := hm m (List.mem_cons_self _ _)
    rw [List.map_cons, List.flatten_cons, ← List.append_assoc, List.length_cons]
    have hread : (readMessageLength (((pre ++ encodeBlock m) ++
        (ms.map encodeBlock).flatten).drop pre.length)).toNat = m.length := by
      rw [List.append_assoc, List.drop_left]; exact readMessageLength_block hm0 _
    have hlen : ((pre ++ encodeBlock m) ++ (ms.map encodeBlock).flatten).length =
        pre.length + messageBlockSize + m.length + (ms.map encodeBlock).flatten.length := by
      simp only [List.length_append, length_encodeBlock, messageBlockSize]; omega
    have hoff : pre.length + messageBlockSize + m.length = (pre ++ encodeBlock m).length := by
      simp only [List.length_append, length_encodeBlock, messageBlockSize]; omega
    rw [dispatchLoop]
    dsimp only
    split_ifs with h1 h2
    · simp only [messageBlockSize] at h1 hlen; omega
    · rw [hread] at h2; omega
    rw [hread, hoff, List.map_cons, List.enumFrom_cons, List.map_cons, ofNat_add_one,
      ih _ (fun m hm' => hm m (List.mem_cons_of_mem _ hm'))]
    refine congrArg (· :: _) ?_
    have hsplit : pre ++ encodeBlock m ++ (ms.map encodeBlock).flatten =
        (pre ++ beBytes 2 m.length) ++ (m ++ (ms.map encodeBlock).flatten) := by
      simp [encodeBlock]
    rw [Event.payload?, hread, hsplit,
      List.drop_left' (by simp [length_beBytes, messageBlockSize]), List.take_left' rfl]

/-- Packets of session `session` carrying `batches` with consecutive ranges from `seq` on: each
packet's count is its number of messages, and its body is exactly its blocks. -/
def streamPackets (session : List UInt8) (seq : Nat) :
    List (List (List UInt8)) → List (List UInt8)
  | [] => []
  | msgs :: rest =>
    buildPacket session (UInt64.ofNat seq) msgs :: streamPackets session (seq + msgs.length) rest

/-- Each packet of a stream handed whole to `process_packet`. -/
def streamOps (session : List UInt8) (seq : Nat) (batches : List (List (List UInt8))) :
    List Op :=
  (streamPackets session seq batches).map fun p => .processPacket p p.length

/-- A session ready for the packets of `session` from `seq` on: it has adopted `session` or no
identifier yet, expects `seq`, has no pending gap, and its message callback is set. -/
structure Ready (session : List UInt8) (seq : Nat) (s : Session) : Prop where
  adopted : s.state = .unknown ∨ s.state = .active ∧ s.sessionId = session
  expected : s.expectedSequence.toNat = seq
  gaps : s.pendingGaps = []
  callback : s.messageCallback = true

/-- A session of `session` that expects `e` with the gaps `gaps` pending: it has adopted
`session` (or no identifier yet, with no gap pending), it is `Stale` while a gap is pending and
`Active` otherwise, and its message callback is set. `Ready` is the case of no gap. -/
structure Tracking (session : List UInt8) (e : Nat) (gaps : List Gap) (s : Session) : Prop where
  adopted : s.state = .unknown ∧ gaps = [] ∨
    s.sessionId = session ∧ s.state = if gaps = [] then .active else .stale
  expected : s.expectedSequence.toNat = e
  pendingGaps : s.pendingGaps = gaps
  callback : s.messageCallback = true

theorem Ready.tracking {session : List UInt8} {e : Nat} {s : Session} (h : Ready session e s) :
    Tracking session e [] s :=
  ⟨h.adopted.imp (fun hu => ⟨hu, rfl⟩) fun ⟨ha, hid⟩ => ⟨hid, ha⟩, h.expected, h.gaps, h.callback⟩

theorem Tracking.ready {session : List UInt8} {e : Nat} {s : Session}
    (h : Tracking session e [] s) : Ready session e s :=
  ⟨h.adopted.imp And.left fun ⟨hid, ha⟩ => ⟨ha, hid⟩, h.expected, h.pendingGaps, h.callback⟩

/-- A packet of the tracked session passes the session check, which adopts the identifier on a
session that has none and changes nothing else the tracking reads; the call is then the data
part of `process_packet` on the checked session. -/
theorem Tracking.processPacket_built {session : List UInt8} {e : Nat} {gaps : List Gap}
    {s : Session} {msgs : List (List UInt8)} (h : Tracking session e gaps s) (seq : Nat)
    (hcount : msgs.length < 2 ^ 16) (hs : session.length = 10) :
    ∃ s' : Session, s.processPacket (buildPacket session (UInt64.ofNat seq) msgs)
        (buildPacket session (UInt64.ofNat seq) msgs).length =
        s'.processData (buildPacket session (UInt64.ofNat seq) msgs)
          (buildPacket session (UInt64.ofNat seq) msgs).length
          ⟨session, UInt64.ofNat seq, UInt16.ofNat msgs.length⟩ ∧
      s'.sessionId = session ∧ s'.state = (if gaps = [] then .active else .stale) ∧
      s'.expectedSequence.toNat = e ∧ s'.pendingGaps = gaps ∧ s'.messageCallback = true := by
  have hp := parse_buildPacket hs (UInt64.ofNat seq) hcount
  rcases h.adopted with ⟨hu, rfl⟩ | ⟨hsid, hst⟩
  · exact ⟨{ s with packetsReceived := s.packetsReceived + 1, sessionId := session
                    state := .active },
      by simp [processPacket, hp, Session.checkSessionId, hu], rfl, rfl, h.expected,
      h.pendingGaps, h.callback⟩
  · have hk : s.state ≠ .unknown := by rw [hst]; split <;> simp
    exact ⟨{ s with packetsReceived := s.packetsReceived + 1 },
      by simp [processPacket, hp, Session.checkSessionId, hk, hsid], hsid, hst, h.expected,
      h.pendingGaps, h.callback⟩

section Built

variable (session : List UInt8) (seq : Nat) {msgs : List (List UInt8)}

/-- The header of a built packet numbered from `1` on, with at least one message and its range
below `END_OF_SESSION`, is neither a heartbeat nor an end of session. -/
theorem built_data_header (hne : msgs ≠ []) (hcount : msgs.length < 2 ^ 16) (h1 : 1 ≤ seq)
    (hlim : seq + msgs.length ≤ 2 ^ 64 - 1) :
    ¬ isHeartbeat ⟨session, UInt64.ofNat seq, UInt16.ofNat msgs.length⟩ ∧
      ¬ isEndOfSession ⟨session, UInt64.ofNat seq, UInt16.ofNat msgs.length⟩ := by
  have hpos : 0 < msgs.length := List.length_pos.mpr hne
  have hseq : (UInt64.ofNat seq).toNat = seq := by simp only [toNat_ofNat_u64]; omega
  constructor
  · simp only [isHeartbeat, HEARTBEAT_SEQUENCE, Bool.and_eq_true, decide_eq_true_eq, u64_ext,
      hseq, not_and]
    intro h; simp at h; omega
  · simp only [isEndOfSession, END_OF_SESSION, decide_eq_true_eq, u64_ext, hseq]; simp; omega

/-- `seq + count` of a built packet, in `uint64_t`, does not wrap. -/
theorem toNat_next_built (hcount : msgs.length < 2 ^ 16) (hlim : seq + msgs.length ≤ 2 ^ 64 - 1) :
    (UInt64.ofNat seq + (UInt16.ofNat msgs.length).toUInt64).toNat = seq + msgs.length := by
  simp only [toNat_add_u64, toNat_toUInt64, UInt16.toNat_ofNat_of_lt hcount, toNat_ofNat_u64]
  omega

/-- With the message callback set, the message loop of a built packet delivers each of its
blocks in order, with its payload and number. -/
theorem dispatchMessages_built (s : Session) (hcb : s.messageCallback = true)
    (hcount : msgs.length < 2 ^ 16) (hlen : ∀ m ∈ msgs, m.length < 2 ^ 16)
    (hs : session.length = 10) :
    (s.dispatchMessages (buildPacket session (UInt64.ofNat seq) msgs)
      (buildPacket session (UInt64.ofNat seq) msgs).length
      ⟨session, UInt64.ofNat seq, UInt16.ofNat msgs.length⟩).2.map Event.payload? =
      (msgs.enumFrom seq).map fun p => some (p.2, UInt64.ofNat p.1) := by
  rw [dispatchMessages_snd, hcb, if_pos rfl, UInt16.toNat_ofNat_of_lt hcount, show getMessagesOffset =
    (session ++ beBytes 8 (UInt64.ofNat seq).toNat ++ beBytes 2 msgs.length).length by
      simp [getMessagesOffset, headerSize, hs, length_beBytes]]
  exact dispatchLoop_blocks _ msgs hlen seq

end Built

/-- A packet that starts at or before the expected number opens no gap, and one that starts
before it, with no gap pending, changes nothing in its `check_gap_fill`. -/
theorem detectGap_of_le {s : Session} {header : Header}
    (hle : header.sequenceNumber.toNat ≤ s.expectedSequence.toNat)
    (hg : header.sequenceNumber.toNat < s.expectedSequence.toNat → s.pendingGaps = []) :
    s.detectGap header = (s, []) := by
  unfold detectGap
  rw [if_neg (by rw [gt_iff_lt, u64_lt]; omega)]
  split_ifs with hlt
  · rw [hg (u64_lt.1 hlt), checkGapFill_nil, ← hg (u64_lt.1 hlt)]
  · rfl

/-- **One packet that starts at or before the expected number**, taken by a session that is
`Stale` only with gaps pending, and with no gap pending unless the packet starts exactly at the
expected number: the packet is accepted, each of its blocks is delivered in order with its
payload and number, numbers already delivered included, the state and the gaps are left as they
were, and the session expects the larger of the number it expected and the number after the
packet. -/
theorem processData_overlap {s : Session} {session : List UInt8} {seq : Nat}
    {msgs : List (List UInt8)} (hst : s.state = .stale → s.pendingGaps ≠ [])
    (hle : seq ≤ s.expectedSequence.toNat)
    (hg : seq < s.expectedSequence.toNat → s.pendingGaps = []) (hcb : s.messageCallback = true)
    (hne : msgs ≠ []) (hcount : msgs.length < 2 ^ 16) (hlen : ∀ m ∈ msgs, m.length < 2 ^ 16)
    (hs : session.length = 10) (h1 : 1 ≤ seq) (hlim : seq + msgs.length ≤ 2 ^ 64 - 1) :
    let pkt := buildPacket session (UInt64.ofNat seq) msgs
    let r := s.processData pkt pkt.length ⟨session, UInt64.ofNat seq, UInt16.ofNat msgs.length⟩
    r.2.1 = true ∧ r.1.state = s.state ∧ r.1.sessionId = s.sessionId ∧
      r.1.expectedSequence.toNat = max s.expectedSequence.toNat (seq + msgs.length) ∧
      r.1.pendingGaps = s.pendingGaps ∧ r.1.messageCallback = true ∧
      r.2.2.map Event.payload? = (msgs.enumFrom seq).map fun p => some (p.2, UInt64.ofNat p.1) := by
  obtain ⟨hb, he⟩ := built_data_header session seq hne hcount h1 hlim
  have hseq : (UInt64.ofNat seq).toNat = seq := by simp only [toNat_ofNat_u64]; omega
  have hnext := toNat_next_built seq hcount hlim
  dsimp only
  rw [processData_data hb he, detectGap_of_le (by rwa [hseq]) (by rw [hseq]; exact hg)]
  dsimp only
  rw [List.nil_append]
  refine ⟨rfl, ?_, by simp, ?_, by simp, by simp [hcb],
    dispatchMessages_built session seq s hcb hcount hlen hs⟩
  · rw [updateExpected_state, dispatchMessages_state, dispatchMessages_pendingGaps]
    split_ifs with hc
    · exact absurd hc.2 (hst hc.1)
    · rfl
  · rw [updateExpected_expectedSequence, dispatchMessages_expectedSequence]
    split_ifs with hgt <;> rw [gt_iff_lt, u64_lt, hnext] at hgt
    · rw [hnext]; omega
    · omega

/-- One packet of the tracked session that starts at or before the expected number, and, unless
it starts exactly there, with no gap pending: accepted, delivered in order, repeated numbers
included, and the session is left tracking the same gaps, expecting the number after the
larger of the two ends. -/
theorem processPacket_overlap {s : Session} {session : List UInt8} {e seq : Nat}
    {gaps : List Gap} {msgs : List (List UInt8)} (h : Tracking session e gaps s) (hle : seq ≤ e)
    (hg : seq < e → gaps = []) (hne : msgs ≠ []) (hcount : msgs.length < 2 ^ 16)
    (hlen : ∀ m ∈ msgs, m.length < 2 ^ 16) (hs : session.length = 10) (h1 : 1 ≤ seq)
    (hlim : seq + msgs.length ≤ 2 ^ 64 - 1) :
    let pkt := buildPacket session (UInt64.ofNat seq) msgs
    let r := s.processPacket pkt pkt.length
    r.2.1 = true ∧ r.1.state = (if gaps = [] then .active else .stale) ∧
      Tracking session (max e (seq + msgs.length)) gaps r.1 ∧
      r.2.2.map Event.payload? = (msgs.enumFrom seq).map fun p => some (p.2, UInt64.ofNat p.1) := by
  obtain ⟨s', hr, hid, hst, hE, hgs, hcb⟩ := h.processPacket_built seq hcount hs
  have hst'' : s'.state = .stale → s'.pendingGaps ≠ [] := fun hsl hg => by
    rw [hst, if_pos (hgs ▸ hg)] at hsl; cases hsl
  obtain ⟨hret, hst', hid', hE', hg', hcb', hev⟩ := processData_overlap hst''
    (hE ▸ hle) (fun hl => hgs.trans (hg (hE ▸ hl))) hcb hne hcount hlen hs h1 hlim
  dsimp only
  rw [hr]
  exact ⟨hret, hst'.trans hst, ⟨.inr ⟨hid'.trans hid, hst'.trans hst⟩, hE'.trans (by rw [hE]),
    hg'.trans hgs, hcb'⟩, hev⟩

/-- One packet of a contiguous stream, taken by a ready session: accepted, delivered in order,
and the session is left `Active` and ready for the next packet. -/
theorem processPacket_stream {s : Session} {session : List UInt8} {seq : Nat}
    {msgs : List (List UInt8)} (h : Ready session seq s) (hne : msgs ≠ [])
    (hcount : msgs.length < 2 ^ 16) (hlen : ∀ m ∈ msgs, m.length < 2 ^ 16)
    (hs : session.length = 10) (h1 : 1 ≤ seq) (hlim : seq + msgs.length ≤ 2 ^ 64 - 1) :
    let pkt := buildPacket session (UInt64.ofNat seq) msgs
    let r := s.processPacket pkt pkt.length
    r.2.1 = true ∧ r.1.state = .active ∧ Ready session (seq + msgs.length) r.1 ∧
      r.2.2.map Event.payload? = (msgs.enumFrom seq).map fun p => some (p.2, UInt64.ofNat p.1) := by
  obtain ⟨hret, hst, ht, hev⟩ := processPacket_overlap h.tracking le_rfl
    (fun hl => absurd hl (Nat.lt_irrefl _)) hne hcount hlen hs h1 hlim
  rw [Nat.max_eq_right (Nat.le_add_right _ _)] at ht
  exact ⟨hret, hst, ht.ready, hev⟩

/-- **Run lemma** for contiguous streams: from a ready session, every packet is accepted and
leaves the session `Active` with no gap, expecting the number after the packet's range, and
the messages are delivered in order, each with its payload and its number. -/
theorem trace_stream {session : List UInt8} (hs : session.length = 10)
    (batches : List (List (List UInt8))) (s : Session) (seq : Nat) (h : Ready session seq s)
    (h1 : 1 ≤ seq) (hb : ∀ b ∈ batches, b ≠ [] ∧ b.length < 2 ^ 16 ∧ ∀ m ∈ b, m.length < 2 ^ 16)
    (hlim : seq + (batches.map List.length).sum ≤ 2 ^ 64 - 1) :
    (∀ i (hi : i < (s.trace (streamOps session seq batches)).length),
      (s.trace (streamOps session seq batches))[i].2.1 = true ∧
      (s.trace (streamOps session seq batches))[i].1.state = .active ∧
      (s.trace (streamOps session seq batches))[i].1.pendingGaps = [] ∧
      (s.trace (streamOps session seq batches))[i].1.expectedSequence.toNat =
        seq + ((batches.take (i + 1)).map List.length).sum) ∧
    ((s.trace (streamOps session seq batches)).flatMap (·.2.2)).map Event.payload? =
      (batches.flatten.enumFrom seq).map fun p => some (p.2, UInt64.ofNat p.1) := by
  induction batches generalizing s seq with
  | nil => exact ⟨fun _ hi => absurd hi (by simp [streamOps, streamPackets, trace]), rfl⟩
  | cons b rest ih =>
    obtain ⟨hne, hcount, hlen⟩ := hb b (List.mem_cons_self _ _)
    simp only [List.map_cons, List.sum_cons] at hlim
    obtain ⟨hret, hst, hready, hev⟩ := processPacket_stream h hne hcount hlen hs h1 (by omega)
    obtain ⟨ih1, ih2⟩ := ih _ _ hready (by omega) (fun b' hb' => hb b' (List.mem_cons_of_mem _ hb'))
      (by omega)
    have htr : s.trace (streamOps session seq (b :: rest)) =
        s.processPacket (buildPacket session (UInt64.ofNat seq) b)
          (buildPacket session (UInt64.ofNat seq) b).length ::
        (s.processPacket (buildPacket session (UInt64.ofNat seq) b)
          (buildPacket session (UInt64.ofNat seq) b).length).1.trace
          (streamOps session (seq + b.length) rest) := rfl
    rw [htr]
    refine ⟨fun i hi => ?_, ?_⟩
    · cases i with
      | zero => exact ⟨hret, hst, hready.gaps, by simpa using hready.expected⟩
      | succ i =>
        obtain ⟨r1, r2, r3, r4⟩ := ih1 i (by simpa using hi)
        refine ⟨r1, r2, r3, ?_⟩
        simp only [List.getElem_cons_succ, r4, List.take_succ_cons, List.map_cons, List.sum_cons,
          Nat.add_assoc]
    · rw [List.flatMap_cons, List.map_append, hev, ih2, List.flatten_cons, List.enumFrom_append,
        List.map_append]

/-- Packets of one session with consecutive ranges `[1, c₁]`, `[c₁ + 1, c₁ + c₂]`, ...,
each with `count ≥ 1` complete blocks and `1 + Σ count ≤ 2 ^ 64 - 1`, fed in order to a fresh
session with both callbacks set: every `process_packet` returns `true` and leaves the session
`Active` with no gap, expecting `seq + count` of its packet, and the callbacks are exactly one
message callback per block, in order, the `j`-th with the `j`-th block's payload and number
`j` (so the gap callback never fires). -/
theorem contiguous_stream_delivered (sessionId session : List UInt8) (hs : session.length = 10)
    (batches : List (List (List UInt8)))
    (hb : ∀ b ∈ batches, b ≠ [] ∧ b.length < 2 ^ 16 ∧ ∀ m ∈ b, m.length < 2 ^ 16)
    (htotal : 1 + (batches.map List.length).sum ≤ 2 ^ 64 - 1) :
    (∀ i (hi : i < ((new sessionId true true).trace (streamOps session 1 batches)).length),
        ((new sessionId true true).trace (streamOps session 1 batches))[i].2.1 = true ∧
        ((new sessionId true true).trace (streamOps session 1 batches))[i].1.state = .active ∧
        ((new sessionId true true).trace (streamOps session 1 batches))[i].1.hasGaps = false ∧
        ((new sessionId true true).trace (streamOps session 1 batches))[i].1.expectedSequence.toNat =
          1 + ((batches.take (i + 1)).map List.length).sum) ∧
      (((new sessionId true true).trace (streamOps session 1 batches)).flatMap (·.2.2)).map
          Event.payload? =
        (batches.flatten.enumFrom 1).map fun p => some (p.2, UInt64.ofNat p.1) := by
  obtain ⟨h1, h2⟩ := trace_stream hs batches (new sessionId true true) 1
    ⟨.inl rfl, rfl, rfl, rfl⟩ le_rfl hb htotal
  exact ⟨fun i hi => (h1 i hi).imp_right fun h => h.imp_right fun h =>
    ⟨by simp [hasGaps, h.1], h.2⟩, h2⟩

/-- Two packets of session `AAAAAAAAAA`: messages `[1, 2]` as number `1`, then `[3]` and
`[4, 5]` as numbers `2` and `3`. -/
theorem contiguous_stream_two_packets :
    (List.replicate 10 (65 : UInt8)).length = 10 ∧
      (∀ b ∈ [[[1, 2]], [[3], [4, 5]]], b ≠ [] ∧ b.length < 2 ^ 16 ∧
        ∀ m ∈ b, (m : List UInt8).length < 2 ^ 16) ∧
      1 + ([[[1, 2]], [[3], [4, 5]]].map List.length).sum ≤ 2 ^ 64 - 1 ∧
      let t := (new [] true true).trace
        (streamOps (List.replicate 10 65) 1 [[[1, 2]], [[3], [4, 5]]])
      (∀ i (hi : i < t.length), t[i].2.1 = true ∧ t[i].1.state = .active ∧
          t[i].1.hasGaps = false ∧ t[i].1.expectedSequence.toNat =
            1 + (([[[1, 2]], [[3], [4, 5]]] : List (List (List UInt8))).take (i + 1) |>.map
              List.length).sum) ∧
        (t.flatMap (·.2.2)).map Event.payload? =
          (([[[1, 2]], [[3], [4, 5]]] : List (List (List UInt8))).flatten.enumFrom 1).map
            fun p => some (p.2, UInt64.ofNat p.1) :=
  ⟨by decide, by decide, by decide,
    contiguous_stream_delivered [] _ (by decide) _ (by decide) (by decide)⟩

end Session

end MoldUdp64

end ItchFeedHandler
