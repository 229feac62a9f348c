import ItchFeedHandler.MoldUdp64.Session

/-!
# Invariants of the session over every run

Facts about every state a `Session` reaches from construction by any calls, `reset()`
included, each proved in the same three steps: the state right after construction has it,
each call keeps it (one lemma per branch of `process_packet` and `process_retransmission`),
and so every run keeps it.

* **Coherence** (`Coherent`): a `Stale` session has a pending gap, an `Unknown` or `Active`
  one has none. So `is_healthy()` is `state == Active`, and every session
  `SessionManager::get_stale_sessions` returns has a pending gap.
* **Sequencing** (`Sequenced`): the expected sequence number is at least `1`, and the pending
  gaps are nonempty ranges below it, in increasing order and pairwise apart. As long as no
  data packet's `seq + count` passes `2 ^ 64`, the expected sequence number is the largest
  `seq + count` of the data packets taken so far, or `1`. One packet past `2 ^ 64` breaks both
  facts: `next_expected` wraps, the expected sequence number stays where it was, and the
  packet's gap lies above it.
* **Transitions**: runs on a fresh session in which an empty retransmission takes `Unknown`,
  `EndOfSession` and `Error` to `Active`, and a data packet of the adopted session takes
  `EndOfSession` to `Stale`; no state is final.
-/

namespace ItchFeedHandler

namespace MoldUdp64

open HeaderParser

/-- `next_expected` of `process_packet`, `seq + count`, over the naturals. -/
def Header.nextExpected (header : Header) : Nat :=
  header.sequenceNumber.toNat + header.messageCount.toNat

namespace Session

variable {s s' : Session} {data : List UInt8} {len : Nat} {header : Header}

/-! ### State and gap list -/

/-- **Coherence** of the state with the gap list. -/
structure Coherent (s : Session) : Prop where
  stale : s.state = .stale → s.pendingGaps ≠ []
  calm : s.state = .unknown ∨ s.state = .active → s.pendingGaps = []

/-- What a data packet's processing needs of the session it starts from: a session identifier
is adopted, and an `Active` session has no pending gap. -/
structure Adopted (s : Session) : Prop where
  known : s.state ≠ .unknown
  active : s.state = .active → s.pendingGaps = []

theorem coherent_new (sessionId : List UInt8) (gapCallback messageCallback : Bool) :
    Coherent (new sessionId gapCallback messageCallback) :=
  ⟨fun h => (nomatch h), fun _ => rfl⟩

/-- A session with the state and gaps of a coherent one is coherent. -/
theorem Coherent.of_eq (h : Coherent s) (hs : s'.state = s.state)
    (hg : s'.pendingGaps = s.pendingGaps) : Coherent s' :=
  ⟨hs ▸ hg ▸ h.stale, hs ▸ hg ▸ h.calm⟩

theorem adopted_detectGap (h : Adopted s) (header : Header) : Adopted (s.detectGap header).1 := by
  obtain ⟨-, hst, hgaps⟩ := detectGap_fields s header
  constructor <;> rw [hst] <;> split_ifs with hgt
  · exact nofun
  · exact h.known
  · exact nofun
  · intro hs
    rw [hgaps, if_neg hgt]
    split_ifs <;> simp only [h.active hs, checkGapFill_nil]

/-- `update_expected`'s last step, `Stale` to `Active` once no gap is pending, restores
coherence. -/
theorem coherent_updateExpected (h : Adopted s) : Coherent (s.updateExpected header) := by
  have := h.known; have := h.active
  constructor <;> rw [updateExpected_state, updateExpected_pendingGaps] <;> split_ifs <;>
    simp_all

theorem coherent_checkSessionId (h : Coherent s) (hc : s.checkSessionId header = some s') :
    Coherent s' ∧ Adopted s' := by
  obtain ⟨hst, hgaps, -⟩ := checkSessionId_some hc
  refine ⟨⟨?_, ?_⟩, ⟨?_, ?_⟩⟩ <;> simp only [hst, hgaps] <;> split_ifs with hu
  · exact nofun
  · exact h.stale
  · exact fun _ => h.calm (.inl hu)
  · exact h.calm
  · exact nofun
  · exact hu
  · exact fun _ => h.calm (.inl hu)
  · exact fun hs => h.calm (.inr hs)

theorem coherent_processData (h : Coherent s) (ha : Adopted s) :
    Coherent (s.processData data len header).1 := by
  by_cases h1 : isHeartbeat header
  · rw [processData_heartbeat h1]; exact h.of_eq rfl rfl
  by_cases h2 : isEndOfSession header
  · rw [processData_endOfSession h1 h2]
    exact ⟨fun h => (nomatch h), fun h => by simp at h⟩
  rw [processData_data h1 h2]
  have ha' := adopted_detectGap ha header
  exact coherent_updateExpected ⟨by simpa using ha'.known, by simpa using ha'.active⟩

theorem coherent_processPacket (h : Coherent s) : Coherent (s.processPacket data len).1 := by
  rcases processPacket_cases s data len with ⟨-, he⟩ | ⟨header, -, -, he⟩ | ⟨header, s', -, hc, he⟩
  · rw [he]; exact h
  · rw [he]; exact ⟨fun h => (nomatch h), fun h => by simp at h⟩
  · rw [he]
    obtain ⟨hc', ha'⟩ :=
      coherent_checkSessionId (s := { s with packetsReceived := s.packetsReceived + 1 })
        (h.of_eq rfl rfl) hc
    exact coherent_processData hc' ha'

theorem coherent_processRetransmission (h : Coherent s) (a : SequenceNumber) (data : List UInt8)
    (len : Nat) (c : UInt16) :
    Coherent (s.processRetransmission a data len c).1 := by
  obtain ⟨-, hgaps, hst⟩ := processRetransmission_fields s a data len c
  constructor <;> rw [hst, hgaps] <;> split_ifs with hnil
  · exact nofun
  · exact fun _ => hnil
  · exact fun _ => hnil
  · exact fun hs => by rw [h.calm hs, checkGapFill_nil]

theorem coherent_call (h : Coherent s) (c : Call) : Coherent (s.call c) := by
  cases c with
  | op o =>
    cases o with
    | processPacket data len => exact coherent_processPacket h
    | processRetransmission a data len c => exact coherent_processRetransmission h a data len c
  | reset => exact coherent_new _ _ _
  | setGapCallback b => exact h.of_eq rfl rfl
  | setMessageCallback b => exact h.of_eq rfl rfl

theorem coherent_run (h : Coherent s) (calls : List Call) : Coherent (s.run calls) := by
  induction calls generalizing s with
  | nil => exact h
  | cons c cs ih => exact ih (coherent_call h c)

theorem Coherent.hasGaps_of_stale (h : Coherent s) (hs : s.state = .stale) : s.hasGaps = true := by
  simpa [hasGaps, List.isEmpty_iff] using h.stale hs

theorem Coherent.isHealthy_iff (h : Coherent s) : s.isHealthy = true ↔ s.state = .active := by
  simp only [isHealthy, Bool.and_eq_true, decide_eq_true_eq, List.isEmpty_iff,
    and_iff_left_iff_imp]
  exact fun hs => h.calm (.inr hs)

end Session

namespace SessionManager

open Session

/-- Every session a manager holds after any run of uses is coherent. -/
theorem coherent_of_mem_run (ops : List ManagerOp) :
    ∀ t ∈ (empty.run ops).sessions, Coherent t := by
  suffices ∀ m : SessionManager, (∀ t ∈ m.sessions, Coherent t) →
      ∀ t ∈ (m.run ops).sessions, Coherent t from this empty fun _ h => nomatch h
  induction ops with
  | nil => exact fun _ h => h
  | cons o os ih =>
    intro m hm
    apply ih
    cases o with
    | getSession sid =>
      show ∀ t ∈ (m.getSession sid).sessions, Coherent t
      unfold getSession; split_ifs
      · intro t ht
        rcases List.mem_append.mp ht with ht | ht
        · exact hm t ht
        · rw [List.mem_singleton.mp ht]; exact coherent_new _ _ _
      · exact hm
    | onSession c =>
      show ∀ t ∈ (m.onSession c).sessions, Coherent t
      intro t ht
      rcases List.mem_append.mp ht with ht | ht
      · exact hm t (m.sessions.dropLast_subset ht)
      · obtain ⟨u, hu, rfl⟩ := Option.mem_map.mp (Option.mem_toList.mp ht)
        exact coherent_call (hm u (List.mem_of_getLast?_eq_some hu)) c

end SessionManager

namespace Session

variable {s : Session} {data : List UInt8} {len : Nat} {header : Header}

/-- In every state a session reaches from construction by `process_packet`,
`process_retransmission`, `reset()` and the callback setters, `Stale` implies `has_gaps()`,
`Unknown` or `Active` implies `!has_gaps()`, and `is_healthy()` holds exactly when the state
is `Active`; after any use of a `SessionManager`, every session `get_stale_sessions` returns
has pending gaps. -/
theorem state_gaps_coherent (sessionId : List UInt8) (gapCallback messageCallback : Bool)
    (calls : List Call) (ops : List SessionManager.ManagerOp) :
    let s := (new sessionId gapCallback messageCallback).run calls
    (s.state = .stale → s.hasGaps = true) ∧
      (s.state = .unknown ∨ s.state = .active → s.hasGaps = false) ∧
      (s.isHealthy = true ↔ s.state = .active) ∧
      ∀ t ∈ (SessionManager.empty.run ops).getStaleSessions, t.hasGaps = true := by
  have h := coherent_run (coherent_new sessionId gapCallback messageCallback) calls
  refine ⟨h.hasGaps_of_stale, fun hs => by simp [hasGaps, h.calm hs], h.isHealthy_iff,
    fun t ht => ?_⟩
  obtain ⟨hmem, hst⟩ := List.mem_filter.mp ht
  exact (SessionManager.coherent_of_mem_run ops t hmem).hasGaps_of_stale (by simpa using hst)

/-! ### Sequencing -/

/-- Gaps that are nonempty ranges in `[1, bound)`, in increasing order and pairwise apart. -/
structure GapsBelow (bound : Nat) (gaps : List Gap) : Prop where
  bounded : ∀ g ∈ gaps, 1 ≤ g.start.toNat ∧ g.start.toNat ≤ g.«end».toNat ∧ g.«end».toNat < bound
  sorted : gaps.Pairwise fun g g' => g.«end».toNat < g'.start.toNat

theorem GapsBelow.mono {b b' : Nat} {gs : List Gap} (h : GapsBelow b gs) (hb : b ≤ b') :
    GapsBelow b' gs :=
  ⟨fun g hg => (h.bounded g hg).imp_right fun h => h.imp_right fun h => by omega, h.sorted⟩

/-- `check_gap_fill` only shrinks and removes gaps, so it keeps them in range and in order. -/
theorem gapsBelow_checkGapFill {b : Nat} {gs : List Gap} (h : GapsBelow b gs)
    (a e : SequenceNumber) : GapsBelow b (checkGapFill a e gs) := by
  refine ⟨fun g' hg' => ?_, h.sorted.filterMap _ fun g1 g2 h12 g1' h1 g2' h2 => ?_⟩
  · obtain ⟨g, hg, hs, he, hne⟩ := mem_checkGapFill hg'
    have := h.bounded g hg
    rcases hne with rfl | hne <;> omega
  · have := fillGap_sub h1; have := fillGap_sub h2
    omega

/-- A gap appended at or above the old bound keeps the list in order. -/
theorem gapsBelow_append {b b' : Nat} {gs : List Gap} (h : GapsBelow b gs) {g : Gap}
    (h1 : 1 ≤ g.start.toNat) (hb : b ≤ g.start.toNat) (hg : g.start.toNat ≤ g.«end».toNat)
    (hb' : g.«end».toNat < b') : GapsBelow b' (gs ++ [g]) := by
  refine ⟨fun g' hg' => ?_, List.pairwise_append.mpr ⟨h.sorted, List.pairwise_singleton _ _, ?_⟩⟩
  · rcases List.mem_append.mp hg' with hg' | hg'
    · have := h.bounded g' hg'; omega
    · rw [List.mem_singleton.mp hg']; omega
  · intro g' hg' g'' hg''
    rw [List.mem_singleton.mp hg'']
    have := h.bounded g' hg'; omega

/-- **Sequencing** invariant: the expected sequence number is at least `1` and bounds the
pending gaps, which are in increasing order and pairwise apart. -/
structure Sequenced (s : Session) : Prop where
  one_le : 1 ≤ s.expectedSequence.toNat
  gaps : GapsBelow s.expectedSequence.toNat s.pendingGaps

theorem sequenced_new (sessionId : List UInt8) (gapCallback messageCallback : Bool) :
    Sequenced (new sessionId gapCallback messageCallback) :=
  ⟨le_rfl, fun _ h => (nomatch h), .nil⟩

theorem Sequenced.of_eq (h : Sequenced s) (he : s'.expectedSequence = s.expectedSequence)
    (hg : s'.pendingGaps = s.pendingGaps) : Sequenced s' :=
  ⟨he ▸ h.one_le, he ▸ hg ▸ h.gaps⟩


/-- A data packet whose `seq + count` stays below `2 ^ 64` keeps the invariant and moves the
expected sequence number to the larger of itself and `seq + count`. -/
theorem sequenced_processData (h : Sequenced s) (data : List UInt8) (len : Nat)
    (h1 : ¬ isHeartbeat header)
    (h2 : ¬ isEndOfSession header) (hw : header.nextExpected < 2 ^ 64) :
    Sequenced (s.processData data len header).1 ∧
      (s.processData data len header).1.expectedSequence.toNat =
        max s.expectedSequence.toNat header.nextExpected := by
  rw [processData_data h1 h2]
  obtain ⟨hexp, -, hgaps⟩ := detectGap_fields s header
  have hnext : (header.sequenceNumber + header.messageCount.toUInt64).toNat =
      header.nextExpected := by
    simp only [toNat_add_u64, toNat_toUInt64, Header.nextExpected] at hw ⊢; omega
  have hE : (((s.detectGap header).1.dispatchMessages data len header).1.updateExpected
      header).expectedSequence.toNat = max s.expectedSequence.toNat header.nextExpected := by
    rw [updateExpected_expectedSequence, dispatchMessages_expectedSequence, hexp]
    split_ifs with hlt <;> simp only [gt_iff_lt, u64_lt, hnext] at hlt ⊢ <;> omega
  refine ⟨⟨hE ▸ Nat.le_trans h.one_le (Nat.le_max_left _ _), ?_⟩, hE⟩
  rw [hE, updateExpected_pendingGaps, dispatchMessages_pendingGaps, hgaps]
  have hseq : header.sequenceNumber.toNat ≤ header.nextExpected := Nat.le_add_right _ _
  split_ifs with hgt hlt
  · simp only [gt_iff_lt, u64_lt] at hgt
    exact gapsBelow_append h.gaps (by have := h.one_le; exact this) le_rfl
      (by simp only [toNat_sub_u64, toNat_one_u64]; omega)
      (by simp only [toNat_sub_u64, toNat_one_u64]; omega)
  · exact (gapsBelow_checkGapFill h.gaps _ _).mono (le_max_left _ _)
  · exact h.gaps.mono (le_max_left _ _)

/-- The header of a packet `process_packet` takes as data: one it returns `true` for that is
neither a heartbeat nor an end of session. -/
def dataHeader (s : Session) : Op → Option Header
  | .processPacket data len =>
    match parse data len with
    | some header =>
      if (s.processPacket data len).2.1 ∧ ¬ isHeartbeat header ∧ ¬ isEndOfSession header
      then some header else none
    | none => none
  | .processRetransmission .. => none

/-- The data headers of a run, in order. -/
def dataHeaders (s : Session) : List Op → List Header
  | [] => []
  | o :: os => (s.dataHeader o).toList ++ dataHeaders (s.apply o).1 os

/-- **Step lemma**: one call keeps the invariant and moves the expected sequence number to the
larger of itself and `seq + count` of the packet, if it is taken as data. -/
theorem sequenced_apply (h : Sequenced s) (o : Op)
    (hw : ∀ header ∈ s.dataHeader o, header.nextExpected < 2 ^ 64) :
    Sequenced (s.apply o).1 ∧ (s.apply o).1.expectedSequence.toNat =
      ((s.dataHeader o).toList.map Header.nextExpected).foldl max s.expectedSequence.toNat := by
  cases o with
  | processRetransmission a data len c =>
    obtain ⟨hexp, hgaps, -⟩ := processRetransmission_fields s a data len c
    have h' : Sequenced (s.processRetransmission a data len c).1 :=
      ⟨hexp ▸ h.one_le, hexp ▸ hgaps ▸ gapsBelow_checkGapFill h.gaps _ _⟩
    exact ⟨h', by simp [apply, dataHeader, hexp]⟩
  | processPacket data len =>
    simp only [apply]
    rcases processPacket_cases s data len with ⟨hp, he⟩ | ⟨header, hp, -, he⟩ |
      ⟨header, s', hp, hc, he⟩
    · simp only [he, dataHeader, hp]; exact ⟨h, rfl⟩
    · simp only [he, dataHeader, hp]; exact ⟨h.of_eq rfl rfl, by simp⟩
    · obtain ⟨-, hgaps, hexp, -⟩ := checkSessionId_some hc
      have h' : Sequenced s' := h.of_eq hexp hgaps
      by_cases h1 : isHeartbeat header
      · have hd : s.dataHeader (.processPacket data len) = none := by simp [dataHeader, hp, h1]
        rw [hd, he, processData_heartbeat h1]
        exact ⟨h'.of_eq rfl rfl, by simp [hexp]⟩
      by_cases h2 : isEndOfSession header
      · have hd : s.dataHeader (.processPacket data len) = none := by simp [dataHeader, hp, h2]
        rw [hd, he, processData_endOfSession h1 h2]
        exact ⟨h'.of_eq rfl rfl, by simp [hexp]⟩
      have hd : s.dataHeader (.processPacket data len) = some header := by
        simp [dataHeader, hp, he, processData_data h1 h2, h1, h2]
      rw [hd] at hw ⊢
      rw [he]
      obtain ⟨hs, hE⟩ := sequenced_processData h' data len h1 h2
        (hw header rfl)
      exact ⟨hs, by simp [hE, hexp]⟩

/-- **Run lemma**: over a run whose data packets never pass `2 ^ 64`, the invariant holds and
the expected sequence number is the largest `seq + count` of the run's data packets, or its
value at the start. -/
theorem sequenced_runOps (h : Sequenced s) (ops : List Op)
    (hw : ∀ header ∈ s.dataHeaders ops, header.nextExpected < 2 ^ 64) :
    Sequenced (s.runOps ops).1 ∧ (s.runOps ops).1.expectedSequence.toNat =
      ((s.dataHeaders ops).map Header.nextExpected).foldl max s.expectedSequence.toNat := by
  induction ops generalizing s with
  | nil => exact ⟨h, rfl⟩
  | cons o os ih =>
    simp only [dataHeaders, List.mem_append, Option.mem_toList] at hw
    obtain ⟨h1, hE1⟩ := sequenced_apply h o fun header hh => hw header (.inl hh)
    obtain ⟨h2, hE2⟩ := ih h1 fun header hh => hw header (.inr hh)
    refine ⟨h2, ?_⟩
    rw [runOps, dataHeaders, List.map_append, List.foldl_append, ← hE1]
    exact hE2

/-- The expected sequence number of a session starting from construction or `reset()`
is `max(1, max of seq + count)` over the data packets accepted so far, computed over the
naturals, provided no such packet has `seq + count ≥ 2 ^ 64`; every pending gap `g` then has
`1 ≤ g.start ≤ g.end < expected`, and the gaps are sorted by start and pairwise disjoint. -/
theorem sequencing_invariant (sessionId : List UInt8) (gapCallback messageCallback : Bool)
    (ops : List Op)
    (hw : ∀ header ∈ (new sessionId gapCallback messageCallback).dataHeaders ops,
      header.nextExpected < 2 ^ 64) :
    let s := ((new sessionId gapCallback messageCallback).runOps ops).1
    s.expectedSequence.toNat =
        (((new sessionId gapCallback messageCallback).dataHeaders ops).map
          Header.nextExpected).foldl max 1 ∧
      (∀ g ∈ s.pendingGaps, 1 ≤ g.start.toNat ∧ g.start.toNat ≤ g.«end».toNat ∧
        g.«end».toNat < s.expectedSequence.toNat) ∧
      s.pendingGaps.Pairwise fun g g' => g.«end».toNat < g'.start.toNat := by
  obtain ⟨hs, hE⟩ := sequenced_runOps (sequenced_new sessionId gapCallback messageCallback) ops hw
  exact ⟨hE, hs.gaps.bounded, hs.gaps.sorted⟩

/-- Three packets of one session: `1`, then `4` (the gap `[2, 3]`), then `2, 3` filling it. -/
theorem sequencing_invariant_gap_filled :
    let ops := [Op.processPacket (buildPacket (List.replicate 10 65) 1 [[7]]) 23,
      Op.processPacket (buildPacket (List.replicate 10 65) 4 [[8]]) 23,
      Op.processPacket (buildPacket (List.replicate 10 65) 2 [[9], [10]]) 26]
    (∀ header ∈ (new (List.replicate 10 65) false true).dataHeaders ops,
        header.nextExpected < 2 ^ 64) ∧
      let s := ((new (List.replicate 10 65) false true).runOps ops).1
      s.expectedSequence.toNat =
          (((new (List.replicate 10 65) false true).dataHeaders ops).map
            Header.nextExpected).foldl max 1 ∧
        (∀ g ∈ s.pendingGaps, 1 ≤ g.start.toNat ∧ g.start.toNat ≤ g.«end».toNat ∧
          g.«end».toNat < s.expectedSequence.toNat) ∧
        s.pendingGaps.Pairwise fun g g' => g.«end».toNat < g'.start.toNat :=
  ⟨by decide, sequencing_invariant _ _ _ _ (by decide)⟩

/-- The first packet of a session has `seq = 2 ^ 64 - 2` and two messages, so
`seq + count = 2 ^ 64`: `next_expected` wraps to `0`, the expected sequence number stays `1`,
and the packet's gap `[1, 2 ^ 64 - 3]` lies above it. -/
theorem expected_wraps_below_gap :
    let ops := [Op.processPacket
      (buildPacket (List.replicate 10 65) 0xFFFFFFFFFFFFFFFE [[], []]) 24]
    ((new (List.replicate 10 65) false false).dataHeaders ops).map Header.nextExpected =
        [2 ^ 64] ∧
      ((new (List.replicate 10 65) false false).runOps ops).1.expectedSequence = 1 ∧
      ((new (List.replicate 10 65) false false).runOps ops).1.pendingGaps =
        [⟨1, 0xFFFFFFFFFFFFFFFD, 0⟩] := by
  decide

/-! ### Transitions -/

/-- Calls on a fresh session with the identifier `AAAAAAAAAA`: an empty retransmission makes
`Unknown` `Active`; after an end-of-session packet, an empty retransmission makes the session
`Active` again and a packet with a gap makes it `Stale`; after a packet of session
`BBBBBBBBBB` puts it in `Error`, an empty retransmission makes it `Active`. -/
theorem terminal_states_left :
    ((new (List.replicate 10 65) false false).runOps
        [.processRetransmission 1 [] 0 0]).1.state = .active ∧
      ((new (List.replicate 10 65) false false).runOps
        [.processPacket (buildPacket (List.replicate 10 65) END_OF_SESSION []) 20]).1.state =
        .endOfSession ∧
      ((new (List.replicate 10 65) false false).runOps
        [.processPacket (buildPacket (List.replicate 10 65) END_OF_SESSION []) 20,
          .processRetransmission 1 [] 0 0]).1.state = .active ∧
      ((new (List.replicate 10 65) false false).runOps
        [.processPacket (buildPacket (List.replicate 10 65) END_OF_SESSION []) 20,
          .processPacket (buildPacket (List.replicate 10 65) 5 []) 20]).1.state = .stale ∧
      ((new (List.replicate 10 65) false false).runOps
        [.processPacket (buildPacket (List.replicate 10 65) 1 []) 20,
          .processPacket (buildPacket (List.replicate 10 66) 1 []) 20]).1.state = .error ∧
      ((new (List.replicate 10 65) false false).runOps
        [.processPacket (buildPacket (List.replicate 10 65) 1 []) 20,
          .processPacket (buildPacket (List.replicate 10 66) 1 []) 20,
          .processRetransmission 1 [] 0 0]).1.state = .active := by
  decide

end Session

end MoldUdp64

end ItchFeedHandler
