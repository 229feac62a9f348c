import ItchFeedHandler.Dpdk.PacketHandler

/-!
# The producer and the consumer around the ring

The producer thread calls `process_raw_packet`, `process_mbuf` and `process_itch_file_data` on
one `PacketHandler`; the consumer thread calls `try_pop` on the handler's output ring. An
`Action` is one call of either thread, and `System.run` runs any interleaving of them, each
call as one step (the interleaving of the loads and stores inside `try_push` and `try_pop` is
`Spsc/Concurrent.lean`).

The handler's ghost log `offers` is the sequence of records its callbacks hand to
`push_message`, in call order, as their call site logs them. **`Conserved`** is the invariant
that ties that log to what the producer counts and what the consumer sees: the two counters add
up to the log's length, a record is dropped exactly when the ring held `N - 1` records, and the
records dequeued so far, then those in the ring, are the pushed records of the log, in order.
Every producer call acts on the ring and the counters only through `push_message`, so one lemma
per call carries the invariant through it (`Conserved.offerMessage` up to
`Conserved.itchFileLoop`), and `run_conserved` carries it through every interleaving.

* `ledger_of_interleaving`: from construction on an empty ring, the invariant holds after every
  interleaving.
* `frames_counted`: every `process_raw_packet` and `process_mbuf` call is counted once, in
  `packets_processed` or in `invalid_packets`.

`Conserved` is one instance of a general fact: a property of the ring, the counters and the log
that a logged `push_message` call keeps is kept by every producer call (`LedgerInvariant`, with
its step and run lemmas). `Filling` is another instance, one that only a run with no `try_pop`
keeps.

* `ring_fills_without_consumer`: with no consumer, the ring keeps the first `N - 1` records
  offered and `push_message` drops every later one, the newest, never an older one.
-/

namespace ItchFeedHandler

namespace Dpdk

/-- One call of the producer or of the consumer. -/
inductive Action
  | processRawPacket (data : List UInt8) (len : Nat)
  | processMbuf (mbuf : Option Mbuf)
  | processItchFileData (data : List UInt8) (len : Nat)
  | tryPop

/-- The handler with the ring it pushes into, and the records the consumer has popped. -/
structure System (N : Capacity) where
  handler : PacketHandler N
  dequeued : List NormalizedMessage

namespace System

variable {N : Capacity}

/-- One call of either thread. -/
def step (s : System N) : Action → System N
  | .processRawPacket data len => { s with handler := (s.handler.processRawPacket data len).1 }
  | .processMbuf mbuf => { s with handler := (s.handler.processMbuf mbuf).1 }
  | .processItchFileData data len =>
    { s with handler := (s.handler.processItchFileData data len).1 }
  | .tryPop =>
    let r := s.handler.outputBuffer.tryPop
    ⟨{ s.handler with outputBuffer := r.2 }, s.dequeued ++ r.1.toList⟩

/-- An interleaving of calls. -/
def run (s : System N) (acts : List Action) : System N := acts.foldl step s

end System

open PacketHandler

variable {N : Capacity}

/-- **The ledger invariant** of a handler built on a ring that held `q`, once the consumer has
popped `dequeued`. -/
structure Conserved (q dequeued : List NormalizedMessage) (h : PacketHandler N) : Prop where
  /-- `messages_pushed + buffer_full_count` is the number of `push_message` calls. -/
  counted : h.messagesPushed + h.bufferFullCount = UInt64.ofNat h.offers.length
  /-- A record is dropped exactly when the ring held `N - 1` records. -/
  dropped_iff_full : ∀ o ∈ h.offers, o.pushed = false ↔ o.occupancy = N.val - 1
  /-- The records popped, then those in the ring, are the pushed records, in order. -/
  fifo : dequeued ++ h.outputBuffer.contents =
    q ++ (h.offers.filter Offer.pushed).map Offer.record

namespace Conserved

variable {q dq : List NormalizedMessage} {h : PacketHandler N}

/-- The invariant reads only the ring, the two counters and the log. -/
theorem of_ledger (hc : Conserved q dq h) {h' : PacketHandler N}
    (hb : h'.outputBuffer = h.outputBuffer) (hp : h'.messagesPushed = h.messagesPushed)
    (hf : h'.bufferFullCount = h.bufferFullCount) (ho : h'.offers = h.offers) :
    Conserved q dq h' :=
  ⟨by rw [hp, hf, ho]; exact hc.counted, by rw [ho]; exact hc.dropped_iff_full,
    by rw [hb, ho]; exact hc.fifo⟩

theorem offerMessage (hc : Conserved q dq h) (msg : NormalizedMessage) :
    Conserved q dq (h.offerMessage msg) where
  counted := by
    rw [offerMessage_counted, hc.counted, offerMessage_offers, List.length_append]
    simp only [u64_ext, toNat_add_u64, toNat_ofNat_u64, toNat_one_u64, List.length_singleton]
    omega
  dropped_iff_full := by
    have := h.outputBuffer.size_lt
    rw [offerMessage_offers]
    intro o ho
    rcases List.mem_append.1 ho with ho | ho
    · exact hc.dropped_iff_full o ho
    · rw [List.mem_singleton.1 ho]
      simp only [decide_eq_false_iff_not]
      omega
  fifo := by
    rw [offerMessage_outputBuffer, RingBuffer.contents_tryPush, offerMessage_offers,
      List.filter_append]
    split
    · next hlt => simp [hlt, ← List.append_assoc, hc.fifo]
    · next hlt => simp [hlt, hc.fifo]

theorem parseMessage (hc : Conserved q dq h) (data : List UInt8) (len : Nat) :
    Conserved q dq (h.parseMessage data len).1 := by
  have hc' : Conserved q dq { h with parser := (h.parser.parseMessage data len).1 } :=
    hc.of_ledger rfl rfl rfl rfl
  unfold PacketHandler.parseMessage; dsimp only; split
  · exact hc'.offerMessage _
  · exact hc'

theorem onSessionEvents (hc : Conserved q dq h) (events : List MoldUdp64.Event) :
    Conserved q dq (h.onSessionEvents events) := by
  induction events generalizing h with
  | nil => exact hc
  | cons e events ih =>
    cases e with
    | gap g => exact ih hc
    | message data length seq => exact ih (hc.parseMessage data length.toNat)

theorem processPayload (hc : Conserved q dq h) (payload : List UInt8) (payloadLen len : Nat) :
    Conserved q dq (h.processPayload payload payloadLen len).1 := by
  have hs0 : Conserved q dq { h with session := (h.session.processPacket payload payloadLen).1 } :=
    hc.of_ledger rfl rfl rfl rfl
  have hs := hs0.onSessionEvents (h.session.processPacket payload payloadLen).2.2
  unfold PacketHandler.processPayload; dsimp only
  split <;> exact hs.of_ledger rfl rfl rfl rfl

theorem processFrame (hc : Conserved q dq h) (data : List UInt8) (len : Nat) :
    Conserved q dq (h.processFrame data len).1 := by
  unfold PacketHandler.processFrame
  split
  · exact hc.of_ledger rfl rfl rfl rfl
  split
  · exact hc.of_ledger rfl rfl rfl rfl
  · exact hc.processPayload _ _ _

theorem processMbuf (hc : Conserved q dq h) (mbuf : Option Mbuf) :
    Conserved q dq (h.processMbuf mbuf).1 := by
  cases mbuf with
  | none => exact hc.of_ledger rfl rfl rfl rfl
  | some m => exact hc.processFrame _ _

theorem itchFileLoop (hc : Conserved q dq h) (data : List UInt8) (len fuel offset mp : Nat) :
    Conserved q dq (PacketHandler.itchFileLoop data len fuel offset mp h).1 := by
  induction fuel generalizing offset mp h with
  | zero => exact hc
  | succ n ih =>
    simp only [PacketHandler.itchFileLoop]
    split_ifs
    all_goals first | exact hc | exact ih (hc.parseMessage _ _) _ _

/-- A `try_pop` moves the oldest record of the ring to the consumer. -/
theorem tryPop (hc : Conserved q dq h) :
    Conserved q (dq ++ h.outputBuffer.tryPop.1.toList)
      { h with outputBuffer := h.outputBuffer.tryPop.2 } where
  counted := hc.counted
  dropped_iff_full := hc.dropped_iff_full
  fifo := by
    rw [← hc.fifo, RingBuffer.tryPop_fst, RingBuffer.contents_tryPop, List.append_assoc]
    cases h.outputBuffer.contents <;> rfl

end Conserved

namespace System

/-- **Step lemma**: every call of either thread keeps the invariant. -/
theorem step_conserved {q : List NormalizedMessage} {s : System N}
    (hs : Conserved q s.dequeued s.handler) (a : Action) :
    Conserved q (s.step a).dequeued (s.step a).handler := by
  cases a with
  | processRawPacket data len => exact hs.processFrame data len
  | processMbuf mbuf => exact hs.processMbuf mbuf
  | processItchFileData data len => exact hs.itchFileLoop data len len 0 0
  | tryPop => exact hs.tryPop

/-- **Run lemma**: every interleaving keeps the invariant. -/
theorem run_conserved {q : List NormalizedMessage} {s : System N}
    (hs : Conserved q s.dequeued s.handler) (acts : List Action) :
    Conserved q (s.run acts).dequeued (s.run acts).handler := by
  induction acts generalizing s with
  | nil => exact hs
  | cons a acts ih => exact ih (step_conserved hs a)

end System

/-! ### Frames are counted -/

/-- The calls that take a frame: `process_raw_packet` and `process_mbuf`. -/
def Action.isFrame : Action → Bool
  | .processRawPacket .. => true
  | .processMbuf _ => true
  | _ => false

/-- The message callbacks of a packet leave the packet counters alone. -/
theorem packets_onSessionEvents (h : PacketHandler N) (events : List MoldUdp64.Event) :
    (h.onSessionEvents events).packetsProcessed = h.packetsProcessed ∧
      (h.onSessionEvents events).invalidPackets = h.invalidPackets := by
  induction events generalizing h with
  | nil => exact ⟨rfl, rfl⟩
  | cons e events ih =>
    cases e with
    | gap g => exact ih h
    | message data length seq =>
      obtain ⟨hp, hi⟩ := ih (h.parseItchMessage data length)
      exact ⟨hp.trans (parseMessage_packetsProcessed ..),
        hi.trans (parseMessage_invalidPackets ..)⟩

/-- The file loop leaves the packet counters alone. -/
theorem packets_itchFileLoop (data : List UInt8) (len fuel offset mp : Nat) (h : PacketHandler N) :
    (PacketHandler.itchFileLoop data len fuel offset mp h).1.packetsProcessed =
        h.packetsProcessed ∧
      (PacketHandler.itchFileLoop data len fuel offset mp h).1.invalidPackets =
        h.invalidPackets := by
  induction fuel generalizing offset mp h with
  | zero => exact ⟨rfl, rfl⟩
  | succ n ih =>
    simp only [PacketHandler.itchFileLoop]
    split_ifs
    all_goals first
      | exact ⟨rfl, rfl⟩
      | exact ⟨(ih _ _ _).1.trans (by simp), (ih _ _ _).2.trans (by simp)⟩

theorem add_add_one_u64 (a b : UInt64) : a + (b + 1) = a + b + 1 := by
  simp only [u64_ext, toNat_add_u64, toNat_one_u64]; omega

theorem add_zero_u64 (a : UInt64) : a + 0 = a := by
  have := toNat_lt_u64 a
  simp only [u64_ext, toNat_add_u64, toNat_zero_u64]; omega

/-- A packet that reached `process_packet` is counted once: as processed, or as invalid. -/
theorem packets_processPayload (h : PacketHandler N) (payload : List UInt8) (payloadLen len : Nat) :
    (h.processPayload payload payloadLen len).1.packetsProcessed +
        (h.processPayload payload payloadLen len).1.invalidPackets =
      h.packetsProcessed + h.invalidPackets + 1 := by
  obtain ⟨hp, hi⟩ := packets_onSessionEvents
    { h with session := (h.session.processPacket payload payloadLen).1 }
    (h.session.processPacket payload payloadLen).2.2
  unfold PacketHandler.processPayload PacketHandler.countInvalid
  dsimp only
  split <;> simp only [hp, hi, u64_ext, toNat_add_u64, toNat_one_u64] <;> omega

/-- A frame is counted once: as processed, or as invalid. -/
theorem packets_processFrame (h : PacketHandler N) (data : List UInt8) (len : Nat) :
    (h.processFrame data len).1.packetsProcessed + (h.processFrame data len).1.invalidPackets =
      h.packetsProcessed + h.invalidPackets + 1 := by
  unfold PacketHandler.processFrame
  split
  · exact add_add_one_u64 _ _
  split
  · exact add_add_one_u64 _ _
  · exact packets_processPayload ..

/-- **Step lemma** for the packet counters: a frame call adds one, any other call nothing. -/
theorem packets_step (s : System N) (a : Action) :
    (s.step a).handler.packetsProcessed + (s.step a).handler.invalidPackets =
      s.handler.packetsProcessed + s.handler.invalidPackets + if a.isFrame then 1 else 0 := by
  cases a with
  | processRawPacket data len => exact packets_processFrame s.handler data len
  | processMbuf mbuf =>
    cases mbuf with
    | none => exact add_add_one_u64 _ _
    | some m => exact packets_processFrame s.handler _ _
  | processItchFileData data len =>
    obtain ⟨hp, hi⟩ := packets_itchFileLoop data len len 0 0 s.handler
    simp only [System.step, PacketHandler.processItchFileData, hp, hi]
    exact (add_zero_u64 _).symm
  | tryPop => exact (add_zero_u64 _).symm

/-- **Run lemma** for the packet counters. -/
theorem packets_run (s : System N) (acts : List Action) :
    (s.run acts).handler.packetsProcessed + (s.run acts).handler.invalidPackets =
      s.handler.packetsProcessed + s.handler.invalidPackets +
        UInt64.ofNat (acts.countP Action.isFrame) := by
  induction acts generalizing s with
  | nil => exact (add_zero_u64 _).symm
  | cons a acts ih =>
    show ((s.step a).run acts).handler.packetsProcessed +
      ((s.step a).run acts).handler.invalidPackets = _
    rw [ih, packets_step, List.countP_cons]
    simp only [u64_ext, toNat_add_u64, toNat_ofNat_u64]
    split <;> simp only [toNat_one_u64, toNat_zero_u64] <;> omega

/-- **Frames are counted**: after every interleaving from construction, `packets_processed +
invalid_packets` is the number of `process_raw_packet` and `process_mbuf` calls. -/
theorem frames_counted (r : RingBuffer NormalizedMessage N) (acts : List Action) :
    (System.run (⟨PacketHandler.new r, []⟩ : System N) acts).handler.packetsProcessed +
        (System.run (⟨PacketHandler.new r, []⟩ : System N) acts).handler.invalidPackets =
      UInt64.ofNat (acts.countP Action.isFrame) := by
  rw [packets_run, u64_ext]
  show ((0 + 0 + _ : UInt64)).toNat = _
  simp only [toNat_add_u64, toNat_zero_u64, toNat_ofNat_u64]
  omega

/-- A handler is built with no push made: the invariant holds of the ring it is built on. -/
theorem conserved_new (r : RingBuffer NormalizedMessage N) :
    Conserved r.contents [] (PacketHandler.new r) :=
  ⟨rfl, fun _ ho => (nomatch ho), by simp [PacketHandler.new]⟩

/-- A property of a handler that reads only the ring, the two counters and the log, and that a
logged `push_message` call keeps. Every producer call acts on those four only through
`push_message`, so every producer call keeps such a property; `try_pop` is the call that can
break one. -/
structure LedgerInvariant (P : PacketHandler N → Prop) : Prop where
  congr : ∀ {h h' : PacketHandler N}, P h → h'.outputBuffer = h.outputBuffer →
    h'.messagesPushed = h.messagesPushed → h'.bufferFullCount = h.bufferFullCount →
    h'.offers = h.offers → P h'
  offerMessage : ∀ {h : PacketHandler N} (msg : NormalizedMessage), P h → P (h.offerMessage msg)

namespace LedgerInvariant

variable {P : PacketHandler N → Prop} {h : PacketHandler N}

theorem parseMessage (hP : LedgerInvariant P) (hh : P h) (data : List UInt8) (len : Nat) :
    P (h.parseMessage data len).1 := by
  have hh' : P { h with parser := (h.parser.parseMessage data len).1 } := hP.congr hh rfl rfl rfl rfl
  unfold PacketHandler.parseMessage; dsimp only; split
  · exact hP.offerMessage _ hh'
  · exact hh'

theorem onSessionEvents (hP : LedgerInvariant P) (hh : P h) (events : List MoldUdp64.Event) :
    P (h.onSessionEvents events) := by
  induction events generalizing h with
  | nil => exact hh
  | cons e events ih =>
    cases e with
    | gap g => exact ih hh
    | message data length seq => exact ih (hP.parseMessage hh data length.toNat)

theorem processPayload (hP : LedgerInvariant P) (hh : P h) (payload : List UInt8)
    (payloadLen len : Nat) : P (h.processPayload payload payloadLen len).1 := by
  unfold PacketHandler.processPayload; dsimp only
  generalize h.session.processPacket payload payloadLen = r
  have hs := hP.onSessionEvents (h := { h with session := r.1 }) (hP.congr hh rfl rfl rfl rfl) r.2.2
  generalize { h with session := r.1 }.onSessionEvents r.2.2 = h' at hs ⊢
  split <;> exact hP.congr hs rfl rfl rfl rfl

theorem processFrame (hP : LedgerInvariant P) (hh : P h) (data : List UInt8) (len : Nat) :
    P (h.processFrame data len).1 := by
  unfold PacketHandler.processFrame
  split
  · exact hP.congr hh rfl rfl rfl rfl
  split
  · exact hP.congr hh rfl rfl rfl rfl
  · exact hP.processPayload hh _ _ _

theorem itchFileLoop (hP : LedgerInvariant P) (hh : P h) (data : List UInt8)
    (len fuel offset mp : Nat) : P (PacketHandler.itchFileLoop data len fuel offset mp h).1 := by
  induction fuel generalizing offset mp h with
  | zero => exact hh
  | succ n ih =>
    simp only [PacketHandler.itchFileLoop]
    split_ifs
    all_goals first | exact hh | exact ih (hP.parseMessage hh _ _) _ _

/-- **Step lemma**: every producer call keeps the property, and leaves the consumer's records
alone. -/
theorem step (hP : LedgerInvariant P) {s : System N} (hs : P s.handler) {a : Action}
    (ha : a ≠ .tryPop) : P (s.step a).handler ∧ (s.step a).dequeued = s.dequeued := by
  cases a with
  | processRawPacket data len => exact ⟨hP.processFrame hs data len, rfl⟩
  | processMbuf mbuf =>
    cases mbuf with
    | none => exact ⟨hP.congr hs rfl rfl rfl rfl, rfl⟩
    | some m => exact ⟨hP.processFrame hs _ _, rfl⟩
  | processItchFileData data len => exact ⟨hP.itchFileLoop hs data len len 0 0, rfl⟩
  | tryPop => exact absurd rfl ha

/-- **Run lemma**: every run of producer calls keeps the property. -/
theorem run (hP : LedgerInvariant P) {s : System N} (hs : P s.handler) (acts : List Action)
    (hacts : Action.tryPop ∉ acts) : P (s.run acts).handler ∧ (s.run acts).dequeued = s.dequeued := by
  induction acts generalizing s with
  | nil => exact ⟨hs, rfl⟩
  | cons a acts ih =>
    simp only [List.mem_cons, not_or] at hacts
    obtain ⟨ha, hrest⟩ := hacts
    obtain ⟨hs', hd⟩ := hP.step hs (Ne.symm ha)
    exact ⟨(ih hs' hrest).1, (ih hs' hrest).2.trans hd⟩

end LedgerInvariant

/-- The ledger invariant is one of them. -/
theorem Conserved.ledgerInvariant {q dq : List NormalizedMessage} :
    LedgerInvariant (Conserved (N := N) q dq) :=
  ⟨fun hc hb hp hf ho => hc.of_ledger hb hp hf ho, fun msg hc => hc.offerMessage msg⟩

/-! ### A ring with no consumer -/

/-- **The ring of a producer with no consumer**, built on an empty ring: it holds the first
`N - 1` records offered, a record was pushed exactly when fewer than `N - 1` were offered before
it, and the counters say how many of each. `push_message` drops the newest record, never an
older one. -/
structure Filling (h : PacketHandler N) : Prop where
  contents : h.outputBuffer.contents = (h.offers.map Offer.record).take (N.val - 1)
  pushed : h.offers.map Offer.pushed =
    (List.range h.offers.length).map fun i => decide (i < N.val - 1)
  messagesPushed : h.messagesPushed = UInt64.ofNat (min h.offers.length (N.val - 1))
  bufferFullCount : h.bufferFullCount = UInt64.ofNat (h.offers.length - (N.val - 1))

namespace Filling

theorem new : Filling (PacketHandler.new (RingBuffer.new : RingBuffer NormalizedMessage N)) :=
  ⟨by simp [PacketHandler.new], rfl,
    by simp [PacketHandler.new], by simp [PacketHandler.new]⟩

theorem ledgerInvariant : LedgerInvariant (Filling (N := N)) where
  congr hh hb hp hf ho := ⟨hb ▸ ho ▸ hh.contents, ho ▸ hh.pushed, hp ▸ ho ▸ hh.messagesPushed,
    hf ▸ ho ▸ hh.bufferFullCount⟩
  offerMessage {h} msg hh := by
    have hsize : h.outputBuffer.size = min h.offers.length (N.val - 1) := by
      rw [← RingBuffer.length_contents, hh.contents, List.length_take, List.length_map,
        Nat.min_comm]
    have hlt : h.outputBuffer.size < N.val - 1 ↔ h.offers.length < N.val - 1 := by omega
    constructor
    · rw [offerMessage_outputBuffer, RingBuffer.contents_tryPush, offerMessage_offers,
        List.map_append, hh.contents]
      split
      · rw [List.take_of_length_le (by simp; omega), List.take_of_length_le (by simp; omega)]
        rfl
      · rw [List.take_append_of_le_length (by simp; omega)]
    · rw [offerMessage_offers, List.map_append, hh.pushed, List.length_append, List.length_singleton,
        List.range_succ, List.map_append]
      simp only [List.map_cons, List.map_nil, hlt]
    · rw [offerMessage_messagesPushed, hh.messagesPushed, offerMessage_offers, List.length_append,
        List.length_singleton]
      split
      · rw [ofNat_add_one]; congr 1; omega
      · congr 1; omega
    · rw [offerMessage_bufferFullCount, hh.bufferFullCount, offerMessage_offers, List.length_append,
        List.length_singleton]
      split
      · congr 1; omega
      · rw [ofNat_add_one]; congr 1; omega

end Filling

/-- `messages_pushed` counts the records `push_message` pushed, and `buffer_full_count` those it
dropped. -/
structure PushCounted (h : PacketHandler N) : Prop where
  pushed : h.messagesPushed = UInt64.ofNat (h.offers.countP Offer.pushed)
  dropped : h.bufferFullCount = UInt64.ofNat (h.offers.countP fun o => !o.pushed)

namespace PushCounted

theorem new (r : RingBuffer NormalizedMessage N) : PushCounted (PacketHandler.new r) :=
  ⟨rfl, rfl⟩

theorem ledgerInvariant : LedgerInvariant (PushCounted (N := N)) where
  congr hh _ hp hf ho := ⟨hp ▸ ho ▸ hh.pushed, hf ▸ ho ▸ hh.dropped⟩
  offerMessage {h} msg hh := by
    constructor
    · rw [offerMessage_messagesPushed, hh.pushed, offerMessage_offers, List.countP_append]
      split <;> simp [*, ofNat_add_one]
    · rw [offerMessage_bufferFullCount, hh.dropped, offerMessage_offers, List.countP_append]
      split <;> simp [*, ofNat_add_one]

/-- **Run lemma**: every interleaving keeps the count; `try_pop` reads neither counter nor the
log. -/
theorem run {s : System N} (hs : PushCounted s.handler) (acts : List Action) :
    PushCounted (s.run acts).handler := by
  induction acts generalizing s with
  | nil => exact hs
  | cons a acts ih =>
    apply ih
    by_cases ha : a = .tryPop
    · subst ha; exact ⟨hs.pushed, hs.dropped⟩
    · exact (ledgerInvariant.step hs ha).1

end PushCounted

/-- **With no consumer the ring keeps the oldest records.** For a handler built on an empty
ring of capacity `N`, after every run of `process_raw_packet`, `process_mbuf` and
`process_itch_file_data` calls with no `try_pop`: the ring holds the first `N - 1` records handed
to `push_message`, in order; the `i`-th record was pushed exactly when `i < N - 1`, and dropped
otherwise; `messages_pushed` is `min(offered, N - 1)` and `buffer_full_count` is the rest. -/
theorem ring_fills_without_consumer (acts : List Action) (hacts : Action.tryPop ∉ acts) :
    (System.run (⟨PacketHandler.new RingBuffer.new, []⟩ : System N) acts).dequeued = [] ∧
      Filling (System.run (⟨PacketHandler.new RingBuffer.new, []⟩ : System N) acts).handler :=
  (Filling.ledgerInvariant.run Filling.new acts hacts).symm

/-- A file of one AddOrder message and a null mbuf, on the handler's ring. -/
theorem itch_file_fills_ring :
    Action.tryPop ∉
        [.processItchFileData (0 :: 36 :: 65 :: List.replicate 35 0) 38, .processMbuf none] ∧
      (System.run (⟨PacketHandler.new RingBuffer.new, []⟩ : System messageBufferCapacity)
        [.processItchFileData (0 :: 36 :: 65 :: List.replicate 35 0) 38,
          .processMbuf none]).dequeued = [] ∧
      Filling (System.run (⟨PacketHandler.new RingBuffer.new, []⟩ : System messageBufferCapacity)
        [.processItchFileData (0 :: 36 :: 65 :: List.replicate 35 0) 38,
          .processMbuf none]).handler :=
  ⟨by simp, ring_fills_without_consumer _ (by simp)⟩

end Dpdk

end ItchFeedHandler
