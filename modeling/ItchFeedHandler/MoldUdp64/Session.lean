import ItchFeedHandler.MoldUdp64.Header

/-!
# The MoldUDP64 session

`moldudp64/session.hpp`: the per-stream sequence tracker. A `Session` holds the adopted session
identifier, the next expected sequence number, the state, the pending gaps and four counters.
`process_packet` checks the identifier, recognises heartbeats and end of session, detects a
gap (`seq > expected`) or tries to fill pending gaps (`seq < expected`), hands each message
block to the message callback, and advances the expected sequence number by the header's
count. `process_retransmission` fills gaps from a retransmitted range.

The two callbacks are `std::function`s set once after construction (the packet handler does so
in its constructor); a session records whether each is set, and every call returns the
callback invocations it makes, in order, as `Event`s. Arithmetic on sequence numbers is the
source's `uint64_t` arithmetic, wrapping included.

A call on a session is an `Op` (`runOps` keeps the callbacks it makes) or, for properties of
every reachable state, a `Call`, which adds `reset()` and the callback setters.
`SessionManager` holds the sessions of a feed. The per-branch behaviour of each call is
collected in the lemmas at the end of this file; `Invariants.lean` and `Delivery.lean` prove
the properties of runs from them.
-/

namespace ItchFeedHandler

namespace MoldUdp64

open HeaderParser

/-- `struct Gap`: the missing range `[start, end]`. -/
structure Gap where
  start : SequenceNumber
  «end» : SequenceNumber
  detectedAtNs : UInt64
  deriving DecidableEq, Repr

/-- The sequence number `n` lies in the gap `g`. -/
def Gap.Covers (g : Gap) (n : Nat) : Prop := g.start.toNat ≤ n ∧ n ≤ g.«end».toNat

/-- `enum class SessionState`. -/
inductive SessionState
  | unknown
  | active
  | stale
  | endOfSession
  | error
  deriving DecidableEq, Repr

/-- A callback invocation made by a session. -/
inductive Event
  /-- `gap_callback_(gap)` -/
  | gap (g : Gap)
  /-- `message_callback_(data, length, seq)`; `data` is the buffer from the message on -/
  | message (data : List UInt8) (length : UInt16) (seq : SequenceNumber)
  deriving DecidableEq, Repr

/-- `class Session`. The callbacks are recorded by whether they are set. -/
structure Session where
  sessionId : List UInt8
  expectedSequence : SequenceNumber
  state : SessionState
  pendingGaps : List Gap
  packetsReceived : UInt64
  messagesReceived : UInt64
  gapsDetected : UInt64
  heartbeatsReceived : UInt64
  gapCallback : Bool
  messageCallback : Bool
  deriving DecidableEq, Repr

namespace Session

/-- `Session(session_id)`, then `set_gap_callback` and `set_message_callback` where set. -/
def new (sessionId : List UInt8) (gapCallback messageCallback : Bool) : Session :=
  ⟨sessionId, 1, .unknown, [], 0, 0, 0, 0, gapCallback, messageCallback⟩

/-- `reset()`: everything but the identifier and the callbacks back to its initial value. -/
def reset (s : Session) : Session :=
  { s with expectedSequence := 1, state := .unknown, pendingGaps := [], packetsReceived := 0,
           messagesReceived := 0, gapsDetected := 0, heartbeatsReceived := 0 }

/-- `has_gaps()`. -/
def hasGaps (s : Session) : Bool := !s.pendingGaps.isEmpty

/-- `is_healthy()`. -/
def isHealthy (s : Session) : Bool := s.state = .active && s.pendingGaps.isEmpty

/-- The body of the loop in `check_gap_fill(start, end)`, on one gap: `none` when the gap is
erased. A range covering the gap removes it, one overlapping an end trims it, and one strictly
inside it (or disjoint from it) leaves it whole. -/
def fillGap (start «end» : SequenceNumber) (g : Gap) : Option Gap :=
  if start ≤ g.start ∧ «end» ≥ g.«end» then none
  else if start ≤ g.start ∧ «end» ≥ g.start then
    let g' := { g with start := «end» + 1 }
    if g'.start > g'.«end» then none else some g'
  else if start ≤ g.«end» ∧ «end» ≥ g.«end» then
    let g' := { g with «end» := start - 1 }
    if g'.start > g'.«end» then none else some g'
  else some g

/-- `check_gap_fill(start, end)`: the loop body on every pending gap, in order. -/
def checkGapFill (start «end» : SequenceNumber) (gaps : List Gap) : List Gap :=
  gaps.filterMap (fillGap start «end»)

/-- The message loop of `process_packet`, `n` iterations left: stop when the length prefix or
the message would pass `len`, else hand the message to the callback. -/
def dispatchLoop (data : List UInt8) (len : Nat) : Nat → Nat → SequenceNumber → List Event
  | 0, _, _ => []
  | n + 1, offset, currentSeq =>
    if offset + messageBlockSize > len then []
    else
      let msgLen := readMessageLength (data.drop offset)
      let offset := offset + messageBlockSize
      if offset + msgLen.toNat > len then []
      else .message (data.drop offset) msgLen currentSeq ::
        dispatchLoop data len n (offset + msgLen.toNat) (currentSeq + 1)

/-- The message loop of `process_retransmission`, `n` iterations left. Its guard is
`offset < len`, where `process_packet`'s is `offset + 2 <= len`. -/
def retransmissionLoop (data : List UInt8) (len : Nat) : Nat → Nat → SequenceNumber → List Event
  | 0, _, _ => []
  | n + 1, offset, currentSeq =>
    if offset < len then
      let msgLen := readMessageLength (data.drop offset)
      let offset := offset + messageBlockSize
      if offset + msgLen.toNat > len then []
      else .message (data.drop offset) msgLen currentSeq ::
        retransmissionLoop data len n (offset + msgLen.toNat) (currentSeq + 1)
    else []

/-- Gap detection in `process_packet`: a packet past the expected sequence number opens the
gap `[expected, seq - 1]`; an older one may fill pending gaps. -/
def detectGap (s : Session) (header : Header) : Session × List Event :=
  if header.sequenceNumber > s.expectedSequence then
    let gap : Gap := ⟨s.expectedSequence, header.sequenceNumber - 1, 0⟩
    ({ s with pendingGaps := s.pendingGaps ++ [gap], gapsDetected := s.gapsDetected + 1,
              state := .stale }, if s.gapCallback then [.gap gap] else [])
  else if header.sequenceNumber < s.expectedSequence then
    let filled := checkGapFill header.sequenceNumber
      (header.sequenceNumber + header.messageCount.toUInt64 - 1) s.pendingGaps
    ({ s with pendingGaps := filled }, [])
  else (s, [])

/-- The messages of `process_packet`: through the callback when it is set, counted only by the
header otherwise. -/
def dispatchMessages (s : Session) (data : List UInt8) (len : Nat) (header : Header) :
    Session × List Event :=
  if s.messageCallback then
    let events := dispatchLoop data len header.messageCount.toNat getMessagesOffset
      header.sequenceNumber
    ({ s with messagesReceived := s.messagesReceived + UInt64.ofNat events.length }, events)
  else ({ s with messagesReceived := s.messagesReceived + header.messageCount.toUInt64 }, [])

/-- The end of `process_packet`: advance the expected sequence number to `seq + count` when that
is larger, then leave `Stale` once no gap is pending. -/
def updateExpected (s : Session) (header : Header) : Session :=
  let nextExpected := header.sequenceNumber + header.messageCount.toUInt64
  let s := if nextExpected > s.expectedSequence then { s with expectedSequence := nextExpected }
    else s
  if s.state = .stale ∧ s.pendingGaps = [] then { s with state := .active } else s

/-- The session check of `process_packet`: the first packet adopts its identifier and makes the
session `Active`; a later packet must carry the adopted identifier (`none` otherwise). -/
def checkSessionId (s : Session) (header : Header) : Option Session :=
  if s.state = .unknown then some { s with sessionId := header.session, state := .active }
  else if s.sessionId = header.session then some s else none

/-- `process_packet` past the session check: heartbeat, end of session, or a data packet. -/
def processData (s : Session) (data : List UInt8) (len : Nat) (header : Header) :
    Session × Bool × List Event :=
  if isHeartbeat header then ({ s with heartbeatsReceived := s.heartbeatsReceived + 1 }, true, [])
  else if isEndOfSession header then ({ s with state := .endOfSession }, true, [])
  else
    let (s, gapEvents) := s.detectGap header
    let (s, messageEvents) := s.dispatchMessages data len header
    (s.updateExpected header, true, gapEvents ++ messageEvents)

/-- `process_packet(data, len)`: the new state, the result, and the callbacks made. -/
def processPacket (s : Session) (data : List UInt8) (len : Nat) : Session × Bool × List Event :=
  match parse data len with
  | none => (s, false, [])
  | some header =>
    let s := { s with packetsReceived := s.packetsReceived + 1 }
    match s.checkSessionId header with
    | none => ({ s with state := .error }, false, [])
    | some s => s.processData data len header

/-- `process_retransmission(start_seq, data, len, message_count)`. -/
def processRetransmission (s : Session) (startSeq : SequenceNumber) (data : List UInt8)
    (len : Nat) (messageCount : UInt16) : Session × List Event :=
  let filled := checkGapFill startSeq (startSeq + messageCount.toUInt64 - 1) s.pendingGaps
  let s := { s with pendingGaps := filled }
  let events := if s.messageCallback then
    retransmissionLoop data len messageCount.toNat 0 startSeq else []
  (if s.pendingGaps = [] then { s with state := .active } else s, events)

/-! ### Runs -/

/-- A call on a session. -/
inductive Op
  | processPacket (data : List UInt8) (len : Nat)
  | processRetransmission (startSeq : SequenceNumber) (data : List UInt8) (len : Nat)
      (messageCount : UInt16)

/-- One call: the new state, what it returns (`process_retransmission` returns nothing and
counts as `true`), and the callbacks it makes. -/
def apply (s : Session) : Op → Session × Bool × List Event
  | .processPacket data len => s.processPacket data len
  | .processRetransmission startSeq data len count =>
    ((s.processRetransmission startSeq data len count).1, true,
      (s.processRetransmission startSeq data len count).2)

/-- A run of calls: the final state and every callback made, in order. -/
def runOps (s : Session) : List Op → Session × List Event
  | [] => (s, [])
  | o :: os => ((s.apply o).1.runOps os).1 |> fun s' =>
    (s', (s.apply o).2.2 ++ ((s.apply o).1.runOps os).2)

/-- The result of every call of a run, in order. -/
def trace (s : Session) : List Op → List (Session × Bool × List Event)
  | [] => []
  | o :: os => s.apply o :: (s.apply o).1.trace os

/-- A call on a session, `reset()` and the callback setters included. -/
inductive Call
  | op (o : Op)
  | reset
  | setGapCallback (set : Bool)
  | setMessageCallback (set : Bool)

/-- The state after one call. -/
def call (s : Session) : Call → Session
  | .op o => (s.apply o).1
  | .reset => s.reset
  | .setGapCallback b => { s with gapCallback := b }
  | .setMessageCallback b => { s with messageCallback := b }

/-- The state after a run of calls. -/
def run (s : Session) (calls : List Call) : Session := calls.foldl call s

end Session

/-- `SessionManager`: a deque of sessions. This release creates one session, on the first
`get_session`, and every later `get_session` returns it whatever the identifier. -/
structure SessionManager where
  sessions : List Session

namespace SessionManager

/-- A manager with no session yet. -/
def empty : SessionManager := ⟨[]⟩

/-- `get_session`: on an empty deque, construct a session (no callbacks installed) at the
back; the session returned is the one at the back. -/
def getSession (m : SessionManager) (sessionId : List UInt8) : SessionManager :=
  if m.sessions = [] then ⟨m.sessions ++ [Session.new sessionId false false]⟩ else m

/-- A call on the session `get_session` returned, the one at the back. -/
def onSession (m : SessionManager) (c : Session.Call) : SessionManager :=
  ⟨m.sessions.dropLast ++ (m.sessions.getLast?.map (·.call c)).toList⟩

/-- `get_stale_sessions`: the sessions whose state is `Stale`, in deque order. -/
def getStaleSessions (m : SessionManager) : List Session :=
  m.sessions.filter (·.state = .stale)

/-- A use of the manager: `get_session`, or a call on the session it returned. -/
inductive ManagerOp
  | getSession (sessionId : List UInt8)
  | onSession (c : Session.Call)

/-- The manager after one use. -/
def step (m : SessionManager) : ManagerOp → SessionManager
  | .getSession sid => m.getSession sid
  | .onSession c => m.onSession c

/-- The manager after a run of uses. -/
def run (m : SessionManager) (ops : List ManagerOp) : SessionManager := ops.foldl step m

end SessionManager

namespace Session

/-! ### `check_gap_fill` -/

/-- A gap the loop body keeps is a sub-range of the gap it was given, and nonempty unless it
is the given gap unchanged. -/
theorem fillGap_sub {a e : SequenceNumber} {g g' : Gap} (h : fillGap a e g = some g') :
    g.start.toNat ≤ g'.start.toNat ∧ g'.«end».toNat ≤ g.«end».toNat ∧
      (g' = g ∨ g'.start.toNat ≤ g'.«end».toNat) := by
  have := toNat_lt_u64 g.«end»; have := toNat_lt_u64 e
  unfold fillGap at h
  dsimp only at h
  split_ifs at h <;> simp only [Option.some.injEq, reduceCtorEq] at h <;> subst h
  all_goals first
    | exact ⟨le_rfl, le_rfl, .inl rfl⟩
    | simp only [u64_le, u64_lt, not_and, not_le, not_lt, toNat_add_u64, toNat_sub_u64,
        toNat_one_u64] at *; omega

/-- A number of a gap that the loop body keeps in no gap lies in the filled range. -/
theorem fillGap_covers {a e : SequenceNumber} {g : Gap} {n : Nat} (hn : g.Covers n)
    (hout : ¬ (a.toNat ≤ n ∧ n ≤ e.toNat)) : ∃ g', fillGap a e g = some g' ∧ g'.Covers n := by
  have := toNat_lt_u64 g.«end»; have := toNat_lt_u64 e; have := toNat_lt_u64 a
  unfold Gap.Covers at *
  unfold fillGap
  dsimp only
  split_ifs <;> simp only [Option.some.injEq, reduceCtorEq, false_and, exists_false,
    exists_eq_left'] <;>
    simp only [u64_le, u64_lt, not_and, not_le, not_lt, toNat_add_u64, toNat_sub_u64,
      toNat_one_u64] at * <;> omega

/-- Every gap `check_gap_fill` keeps is a sub-range of a gap it was given. -/
theorem mem_checkGapFill {a e : SequenceNumber} {gs : List Gap} {g' : Gap}
    (h : g' ∈ checkGapFill a e gs) :
    ∃ g ∈ gs, g.start.toNat ≤ g'.start.toNat ∧ g'.«end».toNat ≤ g.«end».toNat ∧
      (g' = g ∨ g'.start.toNat ≤ g'.«end».toNat) := by
  obtain ⟨g, hg, hfill⟩ := List.mem_filterMap.mp h
  exact ⟨g, hg, fillGap_sub hfill⟩

/-- A number `check_gap_fill` takes out of the pending gaps lies in the filled range. -/
theorem covers_checkGapFill {a e : SequenceNumber} {gs : List Gap} {n : Nat}
    (h : ∃ g ∈ gs, g.Covers n) :
    (∃ g ∈ checkGapFill a e gs, g.Covers n) ∨ (a.toNat ≤ n ∧ n ≤ e.toNat) := by
  obtain ⟨g, hg, hn⟩ := h
  by_cases hout : a.toNat ≤ n ∧ n ≤ e.toNat
  · exact .inr hout
  · obtain ⟨g', hg', hn'⟩ := fillGap_covers hn hout
    exact .inl ⟨g', List.mem_filterMap.mpr ⟨g, hg, hg'⟩, hn'⟩

@[simp] theorem checkGapFill_nil (a e : SequenceNumber) : checkGapFill a e [] = [] := rfl

/-! ### What each part of a call does -/

/-- `reset()` is construction again, with the same identifier and callbacks. -/
theorem reset_eq_new (s : Session) : s.reset = new s.sessionId s.gapCallback s.messageCallback := rfl

theorem checkSessionId_some {s s' : Session} {header : Header}
    (h : s.checkSessionId header = some s') :
    s'.state = (if s.state = .unknown then .active else s.state) ∧
      s'.pendingGaps = s.pendingGaps ∧ s'.expectedSequence = s.expectedSequence ∧
      s'.gapCallback = s.gapCallback ∧ s'.messageCallback = s.messageCallback := by
  unfold checkSessionId at h
  split_ifs at h with h1 h2 <;> simp only [Option.some.injEq, reduceCtorEq] at h <;> subst h <;>
    simp [h1]

theorem checkSessionId_none {s : Session} {header : Header} (h : s.checkSessionId header = none) :
    s.state ≠ .unknown ∧ s.sessionId ≠ header.session := by
  unfold checkSessionId at h
  split_ifs at h with h1 h2
  exact ⟨h1, h2⟩

/-- **What `process_packet` can do**: change nothing (a short buffer), enter `Error` on a
foreign session, or go on to `processData` from the session the identity check returns. -/
theorem processPacket_cases (s : Session) (data : List UInt8) (len : Nat) :
    (parse data len = none ∧ s.processPacket data len = (s, false, [])) ∨
      (∃ header, parse data len = some header ∧
        { s with packetsReceived := s.packetsReceived + 1 }.checkSessionId header = none ∧
        s.processPacket data len =
          ({ s with packetsReceived := s.packetsReceived + 1, state := .error }, false, [])) ∨
      ∃ header s', parse data len = some header ∧
        { s with packetsReceived := s.packetsReceived + 1 }.checkSessionId header = some s' ∧
        s.processPacket data len = s'.processData data len header := by
  unfold processPacket
  split
  · next hp => exact .inl ⟨hp, rfl⟩
  · next header hp =>
    dsimp only
    split
    · next hc => exact .inr (.inl ⟨header, hp, hc, rfl⟩)
    · next s' hc => exact .inr (.inr ⟨header, s', hp, hc, rfl⟩)

theorem processData_heartbeat {s : Session} {data : List UInt8} {len : Nat} {header : Header}
    (h : isHeartbeat header) :
    s.processData data len header = ({ s with heartbeatsReceived := s.heartbeatsReceived + 1 }, true, []) := by
  simp [processData, h]

theorem processData_endOfSession {s : Session} {data : List UInt8} {len : Nat} {header : Header}
    (h1 : ¬ isHeartbeat header) (h2 : isEndOfSession header) :
    s.processData data len header = ({ s with state := .endOfSession }, true, []) := by
  simp [processData, h1, h2]

theorem processData_data {s : Session} {data : List UInt8} {len : Nat} {header : Header}
    (h1 : ¬ isHeartbeat header) (h2 : ¬ isEndOfSession header) :
    s.processData data len header =
      ((((s.detectGap header).1.dispatchMessages data len header).1.updateExpected header), true,
        (s.detectGap header).2 ++ ((s.detectGap header).1.dispatchMessages data len header).2) := by
  simp [processData, h1, h2]

@[simp] theorem dispatchMessages_state (s : Session) (data : List UInt8) (len : Nat) (h : Header) :
    (s.dispatchMessages data len h).1.state = s.state := by
  unfold dispatchMessages; split <;> rfl

@[simp] theorem dispatchMessages_pendingGaps (s : Session) (data : List UInt8) (len : Nat)
    (h : Header) : (s.dispatchMessages data len h).1.pendingGaps = s.pendingGaps := by
  unfold dispatchMessages; split <;> rfl

@[simp] theorem dispatchMessages_expectedSequence (s : Session) (data : List UInt8) (len : Nat)
    (h : Header) : (s.dispatchMessages data len h).1.expectedSequence = s.expectedSequence := by
  unfold dispatchMessages; split <;> rfl

@[simp] theorem updateExpected_pendingGaps (s : Session) (h : Header) :
    (s.updateExpected h).pendingGaps = s.pendingGaps := by
  unfold updateExpected; dsimp only; split_ifs <;> rfl

theorem updateExpected_expectedSequence (s : Session) (h : Header) :
    (s.updateExpected h).expectedSequence =
      if h.sequenceNumber + h.messageCount.toUInt64 > s.expectedSequence
      then h.sequenceNumber + h.messageCount.toUInt64 else s.expectedSequence := by
  unfold updateExpected; dsimp only; split_ifs <;> rfl

theorem updateExpected_state (s : Session) (h : Header) :
    (s.updateExpected h).state =
      if s.state = .stale ∧ s.pendingGaps = [] then .active else s.state := by
  unfold updateExpected; dsimp only; split_ifs <;> simp_all

theorem detectGap_fields (s : Session) (h : Header) :
    (s.detectGap h).1.expectedSequence = s.expectedSequence ∧
      (s.detectGap h).1.state =
        (if h.sequenceNumber > s.expectedSequence then .stale else s.state) ∧
      (s.detectGap h).1.pendingGaps =
        (if h.sequenceNumber > s.expectedSequence then
          s.pendingGaps ++ [⟨s.expectedSequence, h.sequenceNumber - 1, 0⟩]
        else if h.sequenceNumber < s.expectedSequence then
          checkGapFill h.sequenceNumber (h.sequenceNumber + h.messageCount.toUInt64 - 1)
            s.pendingGaps
        else s.pendingGaps) := by
  unfold detectGap; dsimp only; split_ifs <;> simp

theorem processRetransmission_fields (s : Session) (a : SequenceNumber) (data : List UInt8)
    (len : Nat) (c : UInt16) :
    (s.processRetransmission a data len c).1.expectedSequence = s.expectedSequence ∧
      (s.processRetransmission a data len c).1.pendingGaps =
        checkGapFill a (a + c.toUInt64 - 1) s.pendingGaps ∧
      (s.processRetransmission a data len c).1.state =
        (if checkGapFill a (a + c.toUInt64 - 1) s.pendingGaps = [] then .active else s.state) := by
  unfold processRetransmission; dsimp only; split_ifs <;> simp_all


theorem dispatchMessages_snd (s : Session) (data : List UInt8) (len : Nat) (h : Header) :
    (s.dispatchMessages data len h).2 = if s.messageCallback then
      dispatchLoop data len h.messageCount.toNat getMessagesOffset h.sequenceNumber else [] := by
  unfold dispatchMessages; split <;> rfl

theorem processRetransmission_snd (s : Session) (a : SequenceNumber) (data : List UInt8)
    (len : Nat) (c : UInt16) : (s.processRetransmission a data len c).2 =
      if s.messageCallback then retransmissionLoop data len c.toNat 0 a else [] := rfl

/-! ### Calls keep the callbacks -/

@[simp] theorem detectGap_messageCallback (s : Session) (h : Header) :
    (s.detectGap h).1.messageCallback = s.messageCallback := by
  unfold detectGap; split_ifs <;> rfl

@[simp] theorem dispatchMessages_messageCallback (s : Session) (data : List UInt8) (len : Nat)
    (h : Header) : (s.dispatchMessages data len h).1.messageCallback = s.messageCallback := by
  unfold dispatchMessages; split <;> rfl

@[simp] theorem updateExpected_messageCallback (s : Session) (h : Header) :
    (s.updateExpected h).messageCallback = s.messageCallback := by
  unfold updateExpected; dsimp only; split_ifs <;> rfl

@[simp] theorem dispatchMessages_sessionId (s : Session) (data : List UInt8) (len : Nat)
    (h : Header) : (s.dispatchMessages data len h).1.sessionId = s.sessionId := by
  unfold dispatchMessages; split <;> rfl

@[simp] theorem updateExpected_sessionId (s : Session) (h : Header) :
    (s.updateExpected h).sessionId = s.sessionId := by
  unfold updateExpected; dsimp only; split_ifs <;> rfl

theorem processData_messageCallback (s : Session) (data : List UInt8) (len : Nat) (h : Header) :
    (s.processData data len h).1.messageCallback = s.messageCallback := by
  unfold processData; split_ifs <;> simp

theorem apply_messageCallback (s : Session) (o : Op) :
    (s.apply o).1.messageCallback = s.messageCallback := by
  cases o with
  | processRetransmission a data len c =>
    simp only [apply, processRetransmission]; split_ifs <;> rfl
  | processPacket data len =>
    rcases processPacket_cases s data len with ⟨-, he⟩ | ⟨_, -, -, he⟩ | ⟨_, s', -, hc, he⟩ <;>
      simp only [apply, he]
    rw [processData_messageCallback, (checkSessionId_some hc).2.2.2.2]
end Session

end MoldUdp64

end ItchFeedHandler
