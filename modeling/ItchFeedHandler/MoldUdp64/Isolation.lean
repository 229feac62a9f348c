import ItchFeedHandler.MoldUdp64.Recovery

/-!
# Packets of other sessions

`process_packet` adopts the session of the first packet it accepts. A later packet that names
another session is refused: it dispatches nothing and moves the session to `Error`. A packet the
header parser rejects changes nothing. Neither case touches the expected number or the gaps, so
the adopted stream goes on as before. **`Error` is left only through a gap**: the check at the
end of a data packet moves `Stale` to `Active` and nothing else. So a session that has refused
one foreign packet keeps delivering its own stream but never reports healthy again while that
stream has no gap.

`Following session e erred` is the session a contiguous stream leaves behind, with `erred`
recording whether it has refused a foreign packet. Its two step lemmas are:

* `Following.processPacket_next`: the stream's next packet.
* `Following.processPacket_other`: any buffer that does not name `session`.

The run lemma `Following.runOps` covers any interleaving of the two kinds of packet, stated as
"the packets naming `session` are the stream's, in order".
`stream_isolated_from_other_sessions` starts this from a fresh session.
-/

namespace ItchFeedHandler

namespace MoldUdp64

open Endian HeaderParser

namespace Session

/-- Specification: the session a packet handed whole to `process_packet` names, when
its header parses. -/
def packetSession? (p : List UInt8) : Option (List UInt8) := (parse p p.length).map Header.session

/-- Spec-side input: packets handed whole to `process_packet`, in order. -/
def packetOps (pkts : List (List UInt8)) : List Op := pkts.map fun p => .processPacket p p.length

/-- A session that has adopted `session`, expects `e` with no gap pending and its message
callback set, and is `Error` once it has refused a packet of another session (`erred`), `Active`
otherwise. -/
structure Following (session : List UInt8) (e : Nat) (erred : Bool) (s : Session) : Prop where
  sessionId : s.sessionId = session
  state : s.state = if erred then .error else .active
  expected : s.expectedSequence.toNat = e
  pendingGaps : s.pendingGaps = []
  callback : s.messageCallback = true

section Following

variable {session : List UInt8} {e : Nat} {erred : Bool} {s : Session}

theorem Following.state_ne_unknown (h : Following session e erred s) : s.state ≠ .unknown := by
  rw [h.state]; split <;> nofun

/-- The next packet of the stream is accepted and delivered in order, in `Error` as in
`Active`: the identity check passes and the state is left as it was. -/
theorem Following.processPacket_next (h : Following session e erred s) {msgs : List (List UInt8)}
    (hne : msgs ≠ []) (hcount : msgs.length < 2 ^ 16) (hlen : ∀ m ∈ msgs, m.length < 2 ^ 16)
    (hs : session.length = 10) (h1 : 1 ≤ e) (hlim : e + msgs.length ≤ 2 ^ 64 - 1) :
    Following session (e + msgs.length) erred
        (s.processPacket (buildPacket session (UInt64.ofNat e) msgs)
          (buildPacket session (UInt64.ofNat e) msgs).length).1 ∧
      (s.processPacket (buildPacket session (UInt64.ofNat e) msgs)
          (buildPacket session (UInt64.ofNat e) msgs).length).2.1 = true ∧
      (s.processPacket (buildPacket session (UInt64.ofNat e) msgs)
          (buildPacket session (UInt64.ofNat e) msgs).length).2.2.map Event.payload? =
        (msgs.enumFrom e).map fun p => some (p.2, UInt64.ofNat p.1) := by
  have hr : s.processPacket (buildPacket session (UInt64.ofNat e) msgs)
      (buildPacket session (UInt64.ofNat e) msgs).length =
      { s with packetsReceived := s.packetsReceived + 1 }.processData
        (buildPacket session (UInt64.ofNat e) msgs)
        (buildPacket session (UInt64.ofNat e) msgs).length
        ⟨session, UInt64.ofNat e, UInt16.ofNat msgs.length⟩ := by
    simp [processPacket, parse_buildPacket hs _ hcount, Session.checkSessionId,
      h.state_ne_unknown, h.sessionId]
  have hst : s.state = .stale → s.pendingGaps ≠ [] := fun hsl => by
    rw [h.state] at hsl; split at hsl <;> cases hsl
  obtain ⟨hret, hst', hid', hE', hg', hcb', hev⟩ := processData_overlap (s := { s with
    packetsReceived := s.packetsReceived + 1 }) hst (h.expected ▸ le_rfl)
    (fun hl => absurd (h.expected ▸ hl) (Nat.lt_irrefl _)) h.callback hne hcount hlen hs h1 hlim
  rw [hr]
  refine ⟨⟨hid'.trans h.sessionId, hst'.trans h.state, ?_, hg'.trans h.pendingGaps, hcb'⟩,
    hret, hev⟩
  rw [hE', h.expected, Nat.max_eq_right (Nat.le_add_right _ _)]

/-- A buffer whose header does not name `session` is refused and dispatches nothing. It
changes nothing the session follows, except that a header naming another session puts the
session in `Error`. -/
theorem Following.processPacket_other (h : Following session e erred s) {data : List UInt8}
    {len : Nat} (hp : (parse data len).map Header.session ≠ some session) :
    Following session e (erred || ((parse data len).map Header.session).any fun x => x ≠ session)
        (s.processPacket data len).1 ∧
      (s.processPacket data len).2.1 = false ∧ (s.processPacket data len).2.2 = [] := by
  rcases processPacket_cases s data len with ⟨hn, hr⟩ | ⟨header, hsome, -, hr⟩ |
    ⟨header, s', hsome, hc, -⟩
  · rw [hr, hn]
    exact ⟨by simpa using h, rfl, rfl⟩
  all_goals
    have hne : header.session ≠ session := fun heq => hp (by rw [hsome, ← heq]; rfl)
  · rw [hr, hsome]
    exact ⟨⟨h.sessionId, by simp [hne], h.expected, h.pendingGaps, h.callback⟩, rfl, rfl⟩
  · simp [Session.checkSessionId, h.state_ne_unknown, h.sessionId, Ne.symm hne] at hc

/-- **Run lemma**: packets in which those naming `session` are the packets of a contiguous
stream from `e` on. Every message of the stream is delivered, in order, and nothing else; the
session follows the stream to its end, and is `Error` once any packet names another session. -/
theorem Following.runOps (h : Following session e erred s) (hs : session.length = 10)
    (h1 : 1 ≤ e) (pkts : List (List UInt8)) (batches : List (List (List UInt8)))
    (hown : pkts.filter (fun p => packetSession? p = some session) =
      streamPackets session e batches)
    (hb : ∀ b ∈ batches, b ≠ [] ∧ b.length < 2 ^ 16 ∧ ∀ m ∈ b, m.length < 2 ^ 16)
    (hlim : e + (batches.map List.length).sum ≤ 2 ^ 64 - 1) :
    Following session (e + (batches.map List.length).sum)
        (erred || pkts.any fun p => (packetSession? p).any fun x => x ≠ session)
        (s.runOps (packetOps pkts)).1 ∧
      (s.runOps (packetOps pkts)).2.filterMap Event.payload? =
        (batches.flatten.enumFrom e).map fun p => (p.2, UInt64.ofNat p.1) := by
  induction pkts generalizing s e erred batches with
  | nil =>
    cases batches with
    | nil => exact ⟨by simpa using h, rfl⟩
    | cons b bs => cases hown
  | cons p pkts ih =>
    by_cases hp : packetSession? p = some session
    · rw [List.filter_cons_of_pos (by simpa using hp)] at hown
      obtain ⟨b, bs, rfl, hpb, hrest⟩ : ∃ b bs, batches = b :: bs ∧
          p = buildPacket session (UInt64.ofNat e) b ∧
          pkts.filter (fun p => packetSession? p = some session) =
            streamPackets session (e + b.length) bs := by
        cases batches with
        | nil => cases hown
        | cons b bs =>
          exact ⟨b, bs, rfl, List.head_eq_of_cons_eq hown, List.tail_eq_of_cons_eq hown⟩
      obtain ⟨hne, hcount, hlen⟩ := hb b (List.mem_cons_self _ _)
      simp only [List.map_cons, List.sum_cons] at hlim ⊢
      subst hpb
      obtain ⟨ht, -, hev⟩ := h.processPacket_next hne hcount hlen hs h1 (by omega)
      obtain ⟨ih1, ih2⟩ := ih ht (by omega) bs hrest
        (fun b' hb' => hb b' (List.mem_cons_of_mem _ hb')) (by omega)
      simp only [packetOps, List.map_cons, runOps, apply, List.any_cons, hp, Option.any_some,
        ne_eq, not_true_eq_false, decide_False, Bool.false_or, ← Nat.add_assoc] at ih1 ih2 ⊢
      refine ⟨ih1, ?_⟩
      rw [List.filterMap_append, filterMap_payload hev, ih2, List.flatten_cons,
        List.enumFrom_append, List.map_append]
    · rw [List.filter_cons_of_neg (by simpa using hp)] at hown
      obtain ⟨ht, -, hev⟩ := h.processPacket_other hp
      obtain ⟨ih1, ih2⟩ := ih ht h1 batches hown hb hlim
      simp only [packetOps, List.map_cons, runOps, apply, List.any_cons, Bool.or_assoc]
        at ih1 ih2 ⊢
      exact ⟨ih1, by rw [List.filterMap_append, hev, ih2]; rfl⟩

end Following

/-- **The adopted stream is isolated from other sessions' packets.** Hand `process_packet`, on a
session constructed with its message callback set, any interleaving of the packets of a
contiguous stream of one 10-byte session numbered from `1` (batches of 1 to 65535 messages of
fewer than `2 ^ 16` bytes, `1 + total <= 2 ^ 64 - 1`) with any other buffers (short ones, or
ones naming another session), the stream's first packet first. Every message of the stream is
delivered, in order, numbered from `1`, and nothing else is; no gap is pending and the session
expects `1 + total`. The session ends `Error` if any packet named another session, and `Active`
otherwise: a stray packet of another session leaves the stream flowing but the session never
healthy again. -/
theorem stream_isolated_from_other_sessions (session : List UInt8) (hs : session.length = 10)
    (gapCallback : Bool) (batches : List (List (List UInt8))) (hne : batches ≠ [])
    (hb : ∀ b ∈ batches, b ≠ [] ∧ b.length < 2 ^ 16 ∧ ∀ m ∈ b, m.length < 2 ^ 16)
    (hlim : 1 + (batches.map List.length).sum ≤ 2 ^ 64 - 1) (pkts : List (List UInt8))
    (hown : pkts.filter (fun p => packetSession? p = some session) =
      streamPackets session 1 batches)
    (hfirst : pkts.head? = (streamPackets session 1 batches).head?) :
    ((new [] gapCallback true).runOps (packetOps pkts)).2.filterMap Event.payload? =
        (batches.flatten.enumFrom 1).map (fun p => (p.2, UInt64.ofNat p.1)) ∧
      ((new [] gapCallback true).runOps (packetOps pkts)).1.pendingGaps = [] ∧
      ((new [] gapCallback true).runOps (packetOps pkts)).1.expectedSequence.toNat =
        1 + (batches.map List.length).sum ∧
      ((new [] gapCallback true).runOps (packetOps pkts)).1.state =
        if pkts.any (fun p => (packetSession? p).any fun x => x ≠ session) then .error
        else .active := by
  obtain ⟨b, bs, rfl⟩ := List.exists_cons_of_ne_nil hne
  obtain ⟨hne₀, hcount, hlen⟩ := hb b (List.mem_cons_self _ _)
  obtain ⟨p, rest, rfl⟩ : ∃ p rest, pkts = p :: rest :=
    List.exists_cons_of_ne_nil (by rintro rfl; cases hfirst)
  obtain rfl : p = buildPacket session (UInt64.ofNat 1) b := Option.some.inj hfirst
  have hp : packetSession? (buildPacket session (UInt64.ofNat 1) b) = some session := by
    rw [packetSession?, parse_buildPacket hs _ hcount]; rfl
  rw [List.filter_cons_of_pos (by simpa using hp)] at hown
  simp only [List.map_cons, List.sum_cons] at hlim ⊢
  have hnew : Ready session 1 (new [] gapCallback true) := ⟨.inl rfl, rfl, rfl, rfl⟩
  obtain ⟨-, hst, hready, hev⟩ :=
    processPacket_stream hnew hne₀ hcount hlen hs le_rfl (by omega)
  have hf : Following session (1 + b.length) false ((new [] gapCallback true).processPacket
      (buildPacket session (UInt64.ofNat 1) b) (buildPacket session (UInt64.ofNat 1) b).length).1 :=
    ⟨(hready.adopted.resolve_left (by rw [hst]; nofun)).2, hst, hready.expected, hready.gaps,
      hready.callback⟩
  obtain ⟨ih1, ih2⟩ := hf.runOps hs (by omega) rest bs (List.tail_eq_of_cons_eq hown)
    (fun b' hb' => hb b' (List.mem_cons_of_mem _ hb')) (by omega)
  simp only [packetOps, List.map_cons, runOps, apply, List.any_cons, hp, Option.any_some, ne_eq,
    not_true_eq_false, decide_False, Bool.false_or, ← Nat.add_assoc] at ih1 ih2 ⊢
  refine ⟨?_, ih1.pendingGaps, ih1.expected, ih1.state⟩
  rw [List.filterMap_append, filterMap_payload hev, ih2, List.flatten_cons, List.enumFrom_append,
    List.map_append]

/-- A packet of another session between the stream's two packets, and a short buffer: both
messages are delivered and the session ends in `Error`. -/
theorem other_session_between_packets :
    ((new [] false true).runOps (packetOps [buildPacket (List.replicate 10 65) 1 [[1]],
        buildPacket (List.replicate 10 66) 1 [[9]], [0],
        buildPacket (List.replicate 10 65) 2 [[2]]])).2.filterMap Event.payload? =
        [([1], 1), ([2], 2)] ∧
      ((new [] false true).runOps (packetOps [buildPacket (List.replicate 10 65) 1 [[1]],
        buildPacket (List.replicate 10 66) 1 [[9]], [0],
        buildPacket (List.replicate 10 65) 2 [[2]]])).1.state = .error := by
  have h := stream_isolated_from_other_sessions (List.replicate 10 65) rfl false [[[1]], [[2]]]
    (by decide) (by decide) (by decide) [buildPacket (List.replicate 10 65) 1 [[1]],
      buildPacket (List.replicate 10 66) 1 [[9]], [0], buildPacket (List.replicate 10 65) 2 [[2]]]
    (by decide) (by decide)
  exact ⟨h.1.trans (by decide), h.2.2.2.trans (by decide)⟩

end Session

end MoldUdp64

end ItchFeedHandler
