import ItchFeedHandler.MoldUdp64.Session

/-!
# The session's statistics

`Session::get_stats()` reports four counters: `packets_received`, `messages_received`,
`gaps_detected` and `heartbeats_received`. Each is incremented in one branch of
`process_packet`; `process_retransmission` touches none of them. Here each counter is tied to
what a caller of the session can see: the buffers it passed, what each call returned, and the
callbacks each call made.

* `session_statistics_account`: over every run of `process_packet` and
  `process_retransmission` calls on a session whose message callback is set, as the packet
  handler sets it, `packets_received` counts the `process_packet` calls whose buffer holds a
  header (foreign packets included), `heartbeats_received` those that returned `true` on a
  heartbeat header, and `messages_received` the message callbacks of the `process_packet` calls:
  retransmitted messages reach the callback but are never counted. With the gap callback set,
  `gaps_detected` counts the gap callbacks.
-/

namespace ItchFeedHandler

namespace MoldUdp64

open HeaderParser

/-- The callback is the message callback. -/
def Event.isMessage : Event → Bool
  | .message .. => true
  | .gap _ => false

namespace Session

/-- The call is a `process_packet`. -/
def Op.isPacket : Op → Bool
  | .processPacket .. => true
  | .processRetransmission .. => false

/-- The call is a `process_packet` whose buffer holds a MoldUDP64 header. -/
def Op.hasHeader : Op → Bool
  | .processPacket data len => (parse data len).isSome
  | .processRetransmission .. => false

/-- The call is a `process_packet` whose buffer holds a heartbeat header. -/
def Op.heartbeat : Op → Bool
  | .processPacket data len => (parse data len).any isHeartbeat
  | .processRetransmission .. => false

/-- `t`'s counters are `s`'s advanced by the given numbers, in `uint64_t`; the gap count only
when the gap callback is set. -/
structure Advanced (s t : Session) (packets messages gaps heartbeats : Nat) : Prop where
  packets : t.packetsReceived = s.packetsReceived + UInt64.ofNat packets
  messages : t.messagesReceived = s.messagesReceived + UInt64.ofNat messages
  gaps : s.gapCallback = true → t.gapsDetected = s.gapsDetected + UInt64.ofNat gaps
  heartbeats : t.heartbeatsReceived = s.heartbeatsReceived + UInt64.ofNat heartbeats

/-- A call that leaves the four counters alone. -/
theorem Advanced.of_same {s t : Session} (hp : t.packetsReceived = s.packetsReceived)
    (hm : t.messagesReceived = s.messagesReceived) (hg : t.gapsDetected = s.gapsDetected)
    (hb : t.heartbeatsReceived = s.heartbeatsReceived) : Advanced s t 0 0 0 0 :=
  ⟨hp.trans (add_ofNat_zero _).symm, hm.trans (add_ofNat_zero _).symm,
    fun _ => hg.trans (add_ofNat_zero _).symm, hb.trans (add_ofNat_zero _).symm⟩

/-! ### The loops and the branches -/

theorem dispatchLoop_isMessage (data : List UInt8) (len n offset : Nat) (seq : SequenceNumber) :
    ∀ e ∈ dispatchLoop data len n offset seq, e.isMessage := by
  induction n generalizing offset seq with
  | zero => simp [dispatchLoop]
  | succ n ih =>
    simp only [dispatchLoop]
    split_ifs
    all_goals first
      | exact fun _ he => absurd he (List.not_mem_nil _)
      | exact fun e he => (List.mem_cons.1 he).elim (fun h => h ▸ rfl) (ih _ _ e)

theorem retransmissionLoop_isMessage (data : List UInt8) (len n offset : Nat)
    (seq : SequenceNumber) : ∀ e ∈ retransmissionLoop data len n offset seq, e.isMessage := by
  induction n generalizing offset seq with
  | zero => simp [retransmissionLoop]
  | succ n ih =>
    simp only [retransmissionLoop]
    split_ifs
    all_goals first
      | exact fun _ he => absurd he (List.not_mem_nil _)
      | exact fun e he => (List.mem_cons.1 he).elim (fun h => h ▸ rfl) (ih _ _ e)

/-- Callbacks that are all messages count no gap. -/
theorem countP_gap_eq_zero {events : List Event} (h : ∀ e ∈ events, e.isMessage) :
    events.countP (fun e => !e.isMessage) = 0 :=
  List.countP_eq_zero.2 fun e he => by simp [h e he]

theorem advanced_checkSessionId {s s' : Session} {header : Header}
    (h : s.checkSessionId header = some s') : Advanced s s' 0 0 0 0 := by
  unfold checkSessionId at h
  split_ifs at h <;> simp only [Option.some.injEq] at h <;> subst h <;>
    exact .of_same rfl rfl rfl rfl

/-- A data packet detects a gap, with a gap callback when one is set, or detects none. -/
theorem advanced_detectGap (s : Session) (h : Header) :
    Advanced s (s.detectGap h).1 0 0 ((s.detectGap h).2.countP fun e => !e.isMessage) 0 ∧
      (s.detectGap h).2.countP Event.isMessage = 0 := by
  unfold detectGap; dsimp only
  split_ifs with _ hg
  · exact ⟨⟨(add_ofNat_zero _).symm, (add_ofNat_zero _).symm, fun _ => rfl,
      (add_ofNat_zero _).symm⟩, rfl⟩
  · exact ⟨⟨(add_ofNat_zero _).symm, (add_ofNat_zero _).symm, fun h => absurd h hg,
      (add_ofNat_zero _).symm⟩, rfl⟩
  all_goals exact ⟨.of_same rfl rfl rfl rfl, rfl⟩

/-- With the message callback set, every message dispatched is one message received. -/
theorem advanced_dispatchMessages {s : Session} (hm : s.messageCallback = true)
    (data : List UInt8) (len : Nat) (h : Header) :
    Advanced s (s.dispatchMessages data len h).1 0
        ((s.dispatchMessages data len h).2.countP Event.isMessage) 0 0 ∧
      (s.dispatchMessages data len h).2.countP (fun e => !e.isMessage) = 0 := by
  have hall := dispatchLoop_isMessage data len h.messageCount.toNat getMessagesOffset
    h.sequenceNumber
  unfold dispatchMessages
  rw [if_pos hm]
  dsimp only
  refine ⟨⟨(add_ofNat_zero _).symm, ?_, fun _ => (add_ofNat_zero _).symm,
    (add_ofNat_zero _).symm⟩, countP_gap_eq_zero hall⟩
  rw [List.countP_eq_length.2 hall]

theorem advanced_updateExpected (s : Session) (h : Header) :
    Advanced s (s.updateExpected h) 0 0 0 0 := by
  unfold updateExpected; dsimp only
  split_ifs <;>
    exact .of_same rfl rfl rfl rfl

@[simp] theorem detectGap_gapCallback (s : Session) (h : Header) :
    (s.detectGap h).1.gapCallback = s.gapCallback := by
  unfold detectGap; split_ifs <;> rfl

@[simp] theorem dispatchMessages_gapCallback (s : Session) (data : List UInt8) (len : Nat)
    (h : Header) : (s.dispatchMessages data len h).1.gapCallback = s.gapCallback := by
  unfold dispatchMessages; split <;> rfl

@[simp] theorem updateExpected_gapCallback (s : Session) (h : Header) :
    (s.updateExpected h).gapCallback = s.gapCallback := by
  unfold updateExpected; dsimp only; split_ifs <;> rfl

theorem apply_gapCallback (s : Session) (o : Op) : (s.apply o).1.gapCallback = s.gapCallback := by
  cases o with
  | processRetransmission a data len c =>
    simp only [apply, processRetransmission]; split_ifs <;> rfl
  | processPacket data len =>
    rcases processPacket_cases s data len with ⟨-, he⟩ | ⟨_, -, -, he⟩ | ⟨_, s', -, hc, he⟩ <;>
      simp only [apply, he]
    rw [← (checkSessionId_some hc).2.2.2.1]
    unfold processData; split_ifs <;> simp

/-! ### Calls and runs -/

theorem Advanced.trans {s t u : Session} {p m g b p' m' g' b' : Nat} (h₁ : Advanced s t p m g b)
    (hg : t.gapCallback = s.gapCallback) (h₂ : Advanced t u p' m' g' b') :
    Advanced s u (p + p') (m + m') (g + g') (b + b') where
  packets := by rw [h₂.packets, h₁.packets, ofNat_add_u64, add_assoc_u64]
  messages := by rw [h₂.messages, h₁.messages, ofNat_add_u64, add_assoc_u64]
  gaps hs := by rw [h₂.gaps (hg.trans hs), h₁.gaps hs, ofNat_add_u64, add_assoc_u64]
  heartbeats := by rw [h₂.heartbeats, h₁.heartbeats, ofNat_add_u64, add_assoc_u64]

theorem Advanced.of_eq {s t : Session} {p m g b p' m' g' b' : Nat} (h : Advanced s t p m g b)
    (hp : p = p') (hm : m = m') (hg : g = g') (hb : b = b') : Advanced s t p' m' g' b' := by
  subst hp hm hg hb; exact h

/-- `process_packet` accepts every packet that passes the session check. -/
theorem processData_accepts (s : Session) (data : List UInt8) (len : Nat) (header : Header) :
    (s.processData data len header).2.1 = true := by
  unfold processData; split_ifs <;> rfl

/-- `process_packet` past the session check: a heartbeat, an end of session, or a data packet
whose gap callbacks are gaps detected and whose message callbacks are messages received. -/
theorem advanced_processData {s : Session} (hm : s.messageCallback = true) (data : List UInt8)
    (len : Nat) (header : Header) :
    Advanced s (s.processData data len header).1 0
      ((s.processData data len header).2.2.countP Event.isMessage)
      ((s.processData data len header).2.2.countP fun e => !e.isMessage)
      (if isHeartbeat header then 1 else 0) := by
  by_cases hb : isHeartbeat header
  · rw [processData_heartbeat hb, if_pos hb]
    exact ⟨(add_ofNat_zero _).symm, (add_ofNat_zero _).symm, fun _ => (add_ofNat_zero _).symm,
      rfl⟩
  by_cases he : isEndOfSession header
  · rw [processData_endOfSession hb he, if_neg hb]
    exact .of_same rfl rfl rfl rfl
  rw [processData_data hb he, if_neg hb]
  obtain ⟨hd, hd'⟩ := advanced_detectGap s header
  obtain ⟨hs, hs'⟩ := advanced_dispatchMessages
    ((detectGap_messageCallback s header).trans hm) data len header
  refine ((hd.trans (detectGap_gapCallback ..) hs).trans (by simp)
    (advanced_updateExpected _ header)).of_eq rfl ?_ ?_ rfl <;>
    simp only [List.countP_append, hd', hs', Nat.zero_add, Nat.add_zero]

/-- **Step lemma**: what one call adds to the four counters. -/
theorem advanced_apply {s : Session} (hm : s.messageCallback = true) (o : Op) :
    Advanced s (s.apply o).1 (if o.hasHeader then 1 else 0)
      (if o.isPacket then (s.apply o).2.2.countP Event.isMessage else 0)
      ((s.apply o).2.2.countP fun e => !e.isMessage)
      (if o.heartbeat && (s.apply o).2.1 then 1 else 0) := by
  cases o with
  | processRetransmission a data len c =>
    have hall := retransmissionLoop_isMessage data len c.toNat 0 a
    have hz : Advanced s (s.apply (.processRetransmission a data len c)).1 0 0 0 0 := by
      simp only [apply, processRetransmission]
      split_ifs <;> exact .of_same rfl rfl rfl rfl
    refine hz.of_eq rfl rfl ?_ rfl
    simp only [apply, processRetransmission_snd, hm, if_true, countP_gap_eq_zero hall]
  | processPacket data len =>
    rcases processPacket_cases s data len with ⟨hp, he⟩ | ⟨header, hp, -, he⟩ |
      ⟨header, s', hp, hc, he⟩ <;>
      simp only [apply, he, Op.hasHeader, Op.isPacket, Op.heartbeat, hp, Option.isSome_none,
        Option.isSome_some, Option.any_none, Option.any_some, if_true, if_false, Bool.and_false,
        Bool.false_and, List.countP_nil]
    · exact .of_same rfl rfl rfl rfl
    · exact ⟨rfl, (add_ofNat_zero _).symm, fun _ => (add_ofNat_zero _).symm,
        (add_ofNat_zero _).symm⟩
    · have h0 : Advanced s { s with packetsReceived := s.packetsReceived + 1 } 1 0 0 0 :=
        ⟨rfl, (add_ofNat_zero _).symm, fun _ => (add_ofNat_zero _).symm, (add_ofNat_zero _).symm⟩
      have hcb := checkSessionId_some hc
      refine ((h0.trans rfl (advanced_checkSessionId hc)).trans hcb.2.2.2.1
        (advanced_processData (hcb.2.2.2.2.trans hm) data len header)).of_eq rfl (by simp)
        (by simp) ?_
      simp only [processData_accepts, Bool.and_true, Nat.zero_add]

/-- **Run lemma**: over a run, each counter advances by what the calls of the run tally. -/
theorem advanced_runOps {s : Session} (hm : s.messageCallback = true) (ops : List Op) :
    Advanced s (s.runOps ops).1 (ops.countP Op.hasHeader)
      (List.zipWith (fun o r => if o.isPacket then r.2.2.countP Event.isMessage else 0) ops
        (s.trace ops)).sum
      ((s.runOps ops).2.countP fun e => !e.isMessage)
      (List.zipWith (fun o r => if o.heartbeat && r.2.1 then 1 else 0) ops (s.trace ops)).sum := by
  induction ops generalizing s with
  | nil => exact .of_same rfl rfl rfl rfl
  | cons o ops ih =>
    refine ((advanced_apply hm o).trans (apply_gapCallback s o)
      (ih ((apply_messageCallback s o).trans hm))).of_eq ?_ ?_ ?_ ?_
    all_goals simp only [List.countP_cons, runOps, trace, List.zipWith_cons_cons, List.sum_cons,
      List.countP_append]
    omega

/-- **The session's statistics account for its calls.** Over every run of `process_packet` and
`process_retransmission` calls on a session constructed with its message callback set (as the
packet handler sets it): `packets_received` is the number of `process_packet` calls whose
buffer holds a MoldUDP64 header, those of a foreign session included; `messages_received` is
the number of message callbacks the `process_packet` calls made, so retransmitted messages,
which reach the callback too, are never counted; `heartbeats_received` is the number of
`process_packet` calls that returned `true` on a heartbeat header; and, when the gap callback is
set, `gaps_detected` is the number of gap callbacks. All four in `uint64_t`. -/
theorem session_statistics_account (sessionId : List UInt8) (gapCallback : Bool) (ops : List Op) :
    ((Session.new sessionId gapCallback true).runOps ops).1.packetsReceived =
        UInt64.ofNat (ops.countP Op.hasHeader) ∧
      ((Session.new sessionId gapCallback true).runOps ops).1.messagesReceived =
        UInt64.ofNat (List.zipWith (fun o r => if o.isPacket then r.2.2.countP Event.isMessage else 0)
          ops ((Session.new sessionId gapCallback true).trace ops)).sum ∧
      (gapCallback = true → ((Session.new sessionId gapCallback true).runOps ops).1.gapsDetected =
        UInt64.ofNat (((Session.new sessionId gapCallback true).runOps ops).2.countP
          fun e => !e.isMessage)) ∧
      ((Session.new sessionId gapCallback true).runOps ops).1.heartbeatsReceived =
        UInt64.ofNat (List.zipWith (fun o r => if o.heartbeat && r.2.1 then 1 else 0) ops
          ((Session.new sessionId gapCallback true).trace ops)).sum := by
  have h := advanced_runOps (s := Session.new sessionId gapCallback true) rfl ops
  exact ⟨h.packets.trans (zero_add_u64 _), h.messages.trans (zero_add_u64 _),
    fun hg => (h.gaps hg).trans (zero_add_u64 _), h.heartbeats.trans (zero_add_u64 _)⟩

end Session

end MoldUdp64

end ItchFeedHandler
