import ItchFeedHandler.MoldUdp64.Session

/-!
# Gap filling

`Session::check_gap_fill(start, end)` on the pending gaps, as `process_retransmission` and the
duplicate branch of `process_packet` call it, with `end = start + count - 1` computed in
`uint64_t`. On a gap that is a nonempty range, the four cases of its loop body are one
operation, taking a range of sequence numbers out of the gap (`Gap.carve`, written from the
spec's four cases), and every gap of every reachable state is such a range (`properGaps_run`).

* `fillGap_eq_carve`: the loop body on a nonempty gap takes `[start, end]` out of it.
* `gap_fill_carves_uint64_range`: in every reachable state every pending gap is a nonempty
  range, and both callers map the pending gaps through `Gap.carve` of the range from `start`
  to the `uint64_t` value `start + count - 1`, in order, adding none. That value wraps: a
  retransmission with `start = 0` and `count = 0` carries nothing but its range is every
  sequence number, so it clears every gap (`empty_range_at_zero_clears_gaps`), and a range that
  passes `2 ^ 64` is empty.
-/

namespace ItchFeedHandler

namespace MoldUdp64

open HeaderParser

/-- Specification: the gap `g` less the sequence numbers in `[lo, hi)`. A range that
holds the whole gap removes it; one that holds one end only cuts the gap back to the part
outside it; a range outside the gap, or strictly inside it, leaves it whole (the spec does not
split a gap in two). -/
def Gap.carve (lo hi : Nat) (g : Gap) : Option Gap :=
  if lo ≤ g.start.toNat ∧ g.«end».toNat < hi then none
  else if lo ≤ g.start.toNat ∧ g.start.toNat < hi then some { g with start := UInt64.ofNat hi }
  else if lo ≤ g.«end».toNat ∧ g.«end».toNat < hi then
    some { g with «end» := UInt64.ofNat (lo - 1) }
  else some g

/-- A gap that is a nonempty range. -/
def Gap.Proper (g : Gap) : Prop := g.start.toNat ≤ g.«end».toNat

namespace Session

/-! ### The loop body of `check_gap_fill` -/

/-- **The loop body takes the range out of the gap**: on a nonempty gap, `check_gap_fill(a, e)`
does what `Gap.carve` does with the sequence numbers `[a, e]`. -/
theorem fillGap_eq_carve (a e : SequenceNumber) {g : Gap} (hg : g.Proper) :
    fillGap a e g = g.carve a.toNat (e.toNat + 1) := by
  have := toNat_lt_u64 g.«end»; have := toNat_lt_u64 e; have := toNat_lt_u64 a
  unfold Gap.Proper at hg
  unfold fillGap Gap.carve
  dsimp only
  simp only [u64_le, u64_lt, gt_iff_lt, ge_iff_le, toNat_add_u64, toNat_sub_u64, toNat_one_u64]
  split_ifs <;> first
    | rfl
    | (exfalso; omega)
    | (simp only [Option.some.injEq, Gap.mk.injEq, u64_ext, toNat_add_u64, toNat_sub_u64,
        toNat_one_u64, toNat_ofNat_u64, and_true, true_and]; omega)

theorem checkGapFill_eq_filterMap_carve (a e : SequenceNumber) {gs : List Gap}
    (h : ∀ g ∈ gs, g.Proper) :
    checkGapFill a e gs = gs.filterMap (Gap.carve a.toNat (e.toNat + 1)) :=
  List.filterMap_congr fun g hg => fillGap_eq_carve a e (h g hg)

/-! ### Every pending gap is a nonempty range -/

/-- Every pending gap of the session is a nonempty range. -/
def ProperGaps (s : Session) : Prop := ∀ g ∈ s.pendingGaps, g.Proper

/-- The states a session reaches from construction by a run of calls. -/
def Reachable (s : Session) : Prop :=
  ∃ sessionId gapCallback messageCallback calls,
    s = (new sessionId gapCallback messageCallback).run calls

theorem properGaps_checkGapFill {gs : List Gap} (h : ∀ g ∈ gs, g.Proper) (a e : SequenceNumber) :
    ∀ g ∈ checkGapFill a e gs, g.Proper := by
  intro g' hg'
  obtain ⟨g, hg, -, -, heq | hne⟩ := mem_checkGapFill hg'
  · exact heq ▸ h g hg
  · exact hne

/-- What `process_packet` does to the pending gaps: nothing, unless it takes a data packet, and
then what gap detection does against the expected sequence number it had. -/
theorem processPacket_pendingGaps (s : Session) (data : List UInt8) (len : Nat) :
    ((s.processPacket data len).1.pendingGaps = s.pendingGaps ∧
      ∀ header, parse data len = some header → (s.processPacket data len).2.1 = true →
        isHeartbeat header ∨ isEndOfSession header) ∨
      ∃ header, parse data len = some header ∧ ¬ isHeartbeat header ∧ ¬ isEndOfSession header ∧
        (s.processPacket data len).1.pendingGaps =
          if header.sequenceNumber > s.expectedSequence then
            s.pendingGaps ++ [⟨s.expectedSequence, header.sequenceNumber - 1, 0⟩]
          else if header.sequenceNumber < s.expectedSequence then
            checkGapFill header.sequenceNumber
              (header.sequenceNumber + header.messageCount.toUInt64 - 1) s.pendingGaps
          else s.pendingGaps := by
  rcases processPacket_cases s data len with ⟨hp, he⟩ | ⟨_, -, -, he⟩ | ⟨header, s', hp, hc, he⟩
  · rw [he]; exact .inl ⟨rfl, fun _ h => (nomatch hp.symm.trans h)⟩
  · rw [he]; exact .inl ⟨rfl, fun _ _ h => (nomatch h)⟩
  · obtain ⟨-, hgaps, hexp, -⟩ := checkSessionId_some hc
    rw [he]
    by_cases h1 : isHeartbeat header
    · rw [processData_heartbeat h1]
      exact .inl ⟨hgaps, fun _ h _ => .inl (Option.some.inj (hp.symm.trans h) ▸ h1)⟩
    by_cases h2 : isEndOfSession header
    · rw [processData_endOfSession h1 h2]
      exact .inl ⟨hgaps, fun _ h _ => .inr (Option.some.inj (hp.symm.trans h) ▸ h2)⟩
    refine .inr ⟨header, hp, h1, h2, ?_⟩
    rw [processData_data h1 h2, updateExpected_pendingGaps, dispatchMessages_pendingGaps,
      (detectGap_fields s' header).2.2, hgaps, hexp]

theorem properGaps_processPacket {s : Session} (h : s.ProperGaps) (data : List UInt8) (len : Nat) :
    (s.processPacket data len).1.ProperGaps := by
  rcases processPacket_pendingGaps s data len with ⟨he, -⟩ | ⟨header, -, -, -, he⟩
  · rw [ProperGaps, he]; exact h
  · rw [ProperGaps, he]
    split_ifs with hgt hlt
    · intro g hg
      rcases List.mem_append.mp hg with hg | hg
      · exact h g hg
      · rw [List.mem_singleton.mp hg]
        have := toNat_lt_u64 header.sequenceNumber
        simp only [gt_iff_lt, u64_lt] at hgt
        simp only [Gap.Proper, toNat_sub_u64, toNat_one_u64]
        omega
    · exact properGaps_checkGapFill h _ _
    · exact h

/-- **Step lemma**: every call keeps the pending gaps nonempty ranges. -/
theorem properGaps_call {s : Session} (h : s.ProperGaps) (c : Call) : (s.call c).ProperGaps := by
  cases c with
  | op o =>
    cases o with
    | processPacket data len => exact properGaps_processPacket h data len
    | processRetransmission a data len c =>
      show ∀ g ∈ (s.processRetransmission a data len c).1.pendingGaps, g.Proper
      rw [(processRetransmission_fields s a data len c).2.1]
      exact properGaps_checkGapFill h _ _
  | reset => exact fun _ hg => by simp [call, reset] at hg
  | setGapCallback b => exact h
  | setMessageCallback b => exact h

/-- **Run lemma**: every reachable state's pending gaps are nonempty ranges. -/
theorem properGaps_run {s : Session} (h : s.ProperGaps) (calls : List Call) :
    (s.run calls).ProperGaps := by
  induction calls generalizing s with
  | nil => exact h
  | cons c cs ih => exact ih (properGaps_call h c)

theorem Reachable.properGaps {s : Session} (h : s.Reachable) : s.ProperGaps := by
  obtain ⟨_, _, _, calls, rfl⟩ := h
  exact properGaps_run (fun _ hg => by simp [new] at hg) calls

/-! ### The range each caller takes out -/

/-- **Gap filling carves the `uint64_t` range.** In every reachable state every pending gap is
a nonempty range, and a `process_retransmission(a, data, len, c)` call, and a `process_packet`
call that takes a data packet with `seq` below the expected sequence number, map the pending
gaps in order through `Gap.carve` of the sequence numbers from the range's start to the
`uint64_t` value `start + count - 1`; no gap is added. -/
theorem gap_fill_carves_uint64_range (s : Session) (hs : s.Reachable) :
    (∀ g ∈ s.pendingGaps, g.start.toNat ≤ g.«end».toNat) ∧
    (∀ (a : SequenceNumber) (data : List UInt8) (len : Nat) (c : UInt16),
      (s.processRetransmission a data len c).1.pendingGaps =
        s.pendingGaps.filterMap (Gap.carve a.toNat ((a + c.toUInt64 - 1).toNat + 1))) ∧
    (∀ (data : List UInt8) (len : Nat) (header : Header), parse data len = some header →
      (s.processPacket data len).2.1 = true → ¬ isHeartbeat header → ¬ isEndOfSession header →
      header.sequenceNumber < s.expectedSequence →
      (s.processPacket data len).1.pendingGaps =
        s.pendingGaps.filterMap (Gap.carve header.sequenceNumber.toNat
          ((header.sequenceNumber + header.messageCount.toUInt64 - 1).toNat + 1))) := by
  have hp := hs.properGaps
  refine ⟨hp, fun a data len c => ?_, fun data len header hparse hacc h1 h2 hlt => ?_⟩
  · rw [(processRetransmission_fields s a data len c).2.1, checkGapFill_eq_filterMap_carve _ _ hp]
  · rcases processPacket_pendingGaps s data len with ⟨-, hnd⟩ | ⟨header', hparse', -, -, he⟩
    · exact absurd (hnd header hparse hacc) (by simp [h1, h2])
    · cases hparse.symm.trans hparse'
      rw [he, if_neg (by simp only [gt_iff_lt, u64_lt] at hlt ⊢; omega), if_pos hlt,
        checkGapFill_eq_filterMap_carve _ _ hp]

/-- Spec-side input: the session of `AAAAAAAAAA` after packets `1` and `5`, one message each,
with the gap `[2, 4]` pending. -/
def gapOpened : Session :=
  (new (List.replicate 10 65) false false).run
    [.op (.processPacket (buildPacket (List.replicate 10 65) 1 [[7]]) 23),
      .op (.processPacket (buildPacket (List.replicate 10 65) 5 [[8]]) 23)]

/-- With the gap `[2, 4]` pending, a retransmission of the two messages from `2` cuts it to
`[4, 4]`. -/
theorem retransmission_cuts_open_gap :
    gapOpened.pendingGaps = [⟨2, 4, 0⟩] ∧
      (∀ g ∈ gapOpened.pendingGaps, g.start.toNat ≤ g.«end».toNat) ∧
      (gapOpened.processRetransmission 2 [] 0 2).1.pendingGaps = [⟨4, 4, 0⟩] := by
  have h := gap_fill_carves_uint64_range gapOpened ⟨_, _, _, _, rfl⟩
  have hgaps : gapOpened.pendingGaps = [⟨2, 4, 0⟩] := by decide
  exact ⟨hgaps, h.1, by rw [h.2.1 2 [] 0 2, hgaps]; decide⟩

/-- Packets `1` and `5` open the gap `[2, 4]`. `process_retransmission(0, data, 0, 0)` carries no
sequence number, so the range `[0, 0 + 0 - 1]` read over the naturals is empty and keeps the
gap; but `0 + 0 - 1` wraps to `2 ^ 64 - 1`, and the call clears the gap. -/
theorem empty_range_at_zero_clears_gaps :
    ((new (List.replicate 10 65) false false).run
        [.op (.processPacket (buildPacket (List.replicate 10 65) 1 [[7]]) 23),
          .op (.processPacket (buildPacket (List.replicate 10 65) 5 [[8]]) 23)]).pendingGaps =
        [⟨2, 4, 0⟩] ∧
      [(⟨2, 4, 0⟩ : Gap)].filterMap (Gap.carve 0 (0 + 0)) = [⟨2, 4, 0⟩] ∧
      (((new (List.replicate 10 65) false false).run
        [.op (.processPacket (buildPacket (List.replicate 10 65) 1 [[7]]) 23),
          .op (.processPacket (buildPacket (List.replicate 10 65) 5 [[8]]) 23)]).processRetransmission
          0 [] 0 0).1.pendingGaps = [] := by
  decide

end Session

end MoldUdp64

end ItchFeedHandler
