import ItchFeedHandler.MoldUdp64.Session

/-!
# Length-prefixed framing

`process_packet` and `process_retransmission` walk message blocks, each a 2-byte big-endian
length and that many bytes, and `process_itch_file_data` walks frames of the same shape. This
module says from the spec's side what such a walk should find (`lengthPrefixed`: the maximal run
of records lying within the buffer), and checks each byte the session loops read against the
buffer's end: `dispatchLoopChecked` and `retransmissionLoopChecked` are the loops with every
read returning `none` past `len`.

* `dispatch_exact_blocks`: `process_packet` makes one message callback per complete block,
  for the first `min(m, message_count)` of the `m` complete blocks after the header, in order,
  each with its block's position and length and the sequence numbers `seq, seq + 1, ...`; its
  loop reads no byte at or past `len` (`dispatchLoopChecked_eq`).
* `retransmission_reads_past_end`: the loop of `process_retransmission` tests `offset < len`
  before reading a 2-byte prefix, so a 1-byte tail makes it read the byte at `len`.
* `processPacket_take`: `process_packet` reads no byte at or past `len`; a message callback is
  handed the rest of the buffer, of which it may read the message's `length` bytes.
-/

namespace ItchFeedHandler

namespace MoldUdp64

open Endian HeaderParser

/-- Specification: the maximal run of complete length-prefixed records from `offset`,
each a 2-byte big-endian length `L` and then `L` bytes, every byte below `len`; each record as
the offset of its body and its length. -/
def lengthPrefixed (data : List UInt8) (len offset : Nat) : List (Nat × Nat) :=
  if h : offset + 2 ≤ len ∧ offset + 2 + loadBE (data.drop offset) 2 ≤ len then
    (offset + 2, loadBE (data.drop offset) 2) ::
      lengthPrefixed data len (offset + 2 + loadBE (data.drop offset) 2)
  else []
termination_by len - offset
decreasing_by omega

/-- A read of byte `i` of a buffer of `len` bytes that fails past the buffer's end. -/
def readChecked (data : List UInt8) (len i : Nat) : Option UInt8 :=
  if i < len then some (byteAt data i) else none

/-- `read_message_length(data + offset)` with both of its byte reads checked. -/
def readMessageLengthChecked (data : List UInt8) (len offset : Nat) : Option UInt16 := do
  let _ ← readChecked data len offset
  let _ ← readChecked data len (offset + 1)
  pure (readMessageLength (data.drop offset))

/-- The arguments of a message callback. -/
def Event.message? : Event → Option (List UInt8 × UInt16 × SequenceNumber)
  | .message data length seq => some (data, length, seq)
  | .gap _ => none

/-- A callback invocation as far as its callee may read it: a message callback's buffer cut to
the message's `length` bytes. -/
def Event.clip : Event → Event
  | .message data length seq => .message (data.take length.toNat) length seq
  | .gap g => .gap g

namespace Session

/-- The message loop of `process_packet` with every read checked. -/
def dispatchLoopChecked (data : List UInt8) (len : Nat) :
    Nat → Nat → SequenceNumber → Option (List Event)
  | 0, _, _ => some []
  | n + 1, offset, currentSeq =>
    if offset + messageBlockSize > len then some []
    else do
      let msgLen ← readMessageLengthChecked data len offset
      let offset := offset + messageBlockSize
      if offset + msgLen.toNat > len then pure []
      else (Event.message (data.drop offset) msgLen currentSeq :: ·) <$>
        dispatchLoopChecked data len n (offset + msgLen.toNat) (currentSeq + 1)

/-- The message loop of `process_retransmission` with every read checked. -/
def retransmissionLoopChecked (data : List UInt8) (len : Nat) :
    Nat → Nat → SequenceNumber → Option (List Event)
  | 0, _, _ => some []
  | n + 1, offset, currentSeq =>
    if offset < len then do
      let msgLen ← readMessageLengthChecked data len offset
      let offset := offset + messageBlockSize
      if offset + msgLen.toNat > len then pure []
      else (Event.message (data.drop offset) msgLen currentSeq :: ·) <$>
        retransmissionLoopChecked data len n (offset + msgLen.toNat) (currentSeq + 1)
    else some []

end Session

/-! ### Reads -/

theorem readMessageLengthChecked_eq (data : List UInt8) (len offset : Nat) :
    readMessageLengthChecked data len offset =
      if offset + 2 ≤ len then some (readMessageLength (data.drop offset)) else none := by
  unfold readMessageLengthChecked readChecked
  by_cases h : offset + 2 ≤ len
  · rw [if_pos (by omega), if_pos (by omega), if_pos h]; rfl
  · rw [if_neg h]
    by_cases h0 : offset < len
    · rw [if_pos h0, if_neg (by omega)]; rfl
    · rw [if_neg h0]; rfl

theorem toNat_readMessageLength (p : List UInt8) :
    (readMessageLength p).toNat = loadBE p 2 := readBe16_toNat p

/-- `HeaderParser::parse` reads nothing at or past `len`. -/
theorem parse_take (data : List UInt8) (len : Nat) : parse (data.take len) len = parse data len := by
  unfold parse
  split_ifs with h
  · rfl
  · simp only [headerSize, not_lt] at h
    rw [memcpy_take _ (by omega), List.drop_take, List.drop_take, readBe64_take _ (by omega),
      readBe16_take _ (by omega)]

namespace Session

/-- **`process_packet`'s loop stays in the buffer**: it tests `offset + 2 <= len` before each
length prefix, so no read of the checked loop fails and it computes what the loop computes. -/
theorem dispatchLoopChecked_eq (data : List UInt8) (len : Nat) (n offset : Nat)
    (seq : SequenceNumber) :
    dispatchLoopChecked data len n offset seq = some (dispatchLoop data len n offset seq) := by
  induction n generalizing offset seq with
  | zero => rfl
  | succ n ih =>
    unfold dispatchLoopChecked dispatchLoop
    split_ifs with h1
    · rfl
    · rw [readMessageLengthChecked_eq, if_pos (by simp only [messageBlockSize] at h1; omega)]
      dsimp only [Option.bind_eq_bind, Option.some_bind]
      split_ifs
      · rfl
      · rw [ih]; rfl

/-- What the checked retransmission loop returns, when no read fails, is what the loop
returns. -/
theorem retransmissionLoopChecked_eq (data : List UInt8) (len : Nat) (n offset : Nat)
    (seq : SequenceNumber) :
    retransmissionLoopChecked data len n offset seq = none ∨
      retransmissionLoopChecked data len n offset seq =
        some (retransmissionLoop data len n offset seq) := by
  induction n generalizing offset seq with
  | zero => exact .inr rfl
  | succ n ih =>
    unfold retransmissionLoopChecked retransmissionLoop
    split_ifs with h1
    · rw [readMessageLengthChecked_eq]
      split_ifs with h2
      · dsimp only [Option.bind_eq_bind, Option.some_bind]
        split_ifs
        · exact .inr rfl
        · rcases ih (offset + messageBlockSize + (readMessageLength (data.drop offset)).toNat)
            (seq + 1) with h | h <;> rw [h]
          · exact .inl rfl
          · exact .inr rfl
      · exact .inl rfl
    · exact .inr rfl

/-! ### Nothing at or past `len`

On the buffer's first `len` bytes `process_packet` does what it does on the whole buffer, up to
the bytes past each message that a message callback is handed but may not read (`Event.clip`).
-/

/-- **`process_packet`'s loop reads nothing at or past `len`.** -/
theorem dispatchLoop_take (data : List UInt8) (len : Nat) : ∀ n offset seq,
    (dispatchLoop (data.take len) len n offset seq).map Event.clip =
      (dispatchLoop data len n offset seq).map Event.clip
  | 0, _, _ => rfl
  | n + 1, offset, seq => by
    rw [dispatchLoop, dispatchLoop]
    dsimp only
    by_cases h1 : offset + messageBlockSize > len
    · rw [if_pos h1, if_pos h1]
    simp only [messageBlockSize, gt_iff_lt, not_lt, readMessageLength] at h1 ⊢
    have hr : readBe16 ((data.take len).drop offset) = readBe16 (data.drop offset) := by
      rw [List.drop_take, readBe16_take _ (by omega)]
    rw [if_neg (show ¬ len < offset + 2 by omega), if_neg (show ¬ len < offset + 2 by omega), hr]
    split_ifs with h2
    · rfl
    · rw [List.map_cons, List.map_cons, dispatchLoop_take data len n]
      simp only [Event.clip, List.drop_take, List.take_take]
      rw [Nat.min_eq_left (by omega)]

theorem dispatchMessages_take (s : Session) (data : List UInt8) (len : Nat) (header : Header) :
    (s.dispatchMessages (data.take len) len header).1 = (s.dispatchMessages data len header).1 ∧
      (s.dispatchMessages (data.take len) len header).2.map Event.clip =
        (s.dispatchMessages data len header).2.map Event.clip := by
  have h := dispatchLoop_take data len header.messageCount.toNat getMessagesOffset
    header.sequenceNumber
  have hl := congrArg List.length h
  rw [List.length_map, List.length_map] at hl
  unfold dispatchMessages
  split
  · exact ⟨by dsimp only; rw [hl], h⟩
  · exact ⟨rfl, rfl⟩

theorem processData_take (s : Session) (data : List UInt8) (len : Nat) (header : Header) :
    (s.processData (data.take len) len header).1 = (s.processData data len header).1 ∧
      (s.processData (data.take len) len header).2.1 = (s.processData data len header).2.1 ∧
      (s.processData (data.take len) len header).2.2.map Event.clip =
        (s.processData data len header).2.2.map Event.clip := by
  by_cases h1 : isHeartbeat header
  · simp only [processData_heartbeat h1, and_self]
  by_cases h2 : isEndOfSession header
  · simp only [processData_endOfSession h1 h2, and_self]
  obtain ⟨hs, he⟩ := dispatchMessages_take (s.detectGap header).1 data len header
  rw [processData_data h1 h2, processData_data h1 h2, hs]
  exact ⟨rfl, rfl, by rw [List.map_append, List.map_append, he]⟩

/-- **`process_packet` reads nothing at or past `len`**: on the buffer's first `len` bytes it
leaves the same state, returns the same result, and makes the same callbacks, each message
callback's buffer read up to the message's length. -/
theorem processPacket_take (s : Session) (data : List UInt8) (len : Nat) :
    (s.processPacket (data.take len) len).1 = (s.processPacket data len).1 ∧
      (s.processPacket (data.take len) len).2.1 = (s.processPacket data len).2.1 ∧
      (s.processPacket (data.take len) len).2.2.map Event.clip =
        (s.processPacket data len).2.2.map Event.clip := by
  unfold processPacket
  rw [parse_take]
  split
  · exact ⟨rfl, rfl, rfl⟩
  · dsimp only
    split
    · exact ⟨rfl, rfl, rfl⟩
    · exact processData_take _ _ _ _

/-! ### The blocks `process_packet` dispatches -/

/-- **`process_packet`'s loop dispatches the complete blocks**: with `n` iterations it makes one
message callback for each of the first `n` complete blocks from `offset`, in order, with the
block's body and length, numbered on from `seq + k`. -/
theorem dispatchLoop_eq_blocks (data : List UInt8) (len : Nat) (seq : SequenceNumber) (n : Nat) :
    ∀ offset k, dispatchLoop data len n offset (seq + UInt64.ofNat k) =
      (((lengthPrefixed data len offset).take n).enumFrom k).map fun b =>
        Event.message (data.drop b.2.1) (UInt16.ofNat b.2.2) (seq + UInt64.ofNat b.1) := by
  induction n with
  | zero => intro offset k; simp [dispatchLoop]
  | succ n ih =>
    intro offset k
    have hL := loadBE_lt (data.drop offset) 2
    have hlen : UInt16.ofNat (loadBE (data.drop offset) 2) = readMessageLength (data.drop offset) :=
      UInt16.toNat.inj (by rw [toNat_readMessageLength, UInt16.toNat_ofNat_of_lt hL])
    have hseq : seq + UInt64.ofNat k + 1 = seq + UInt64.ofNat (k + 1) := by
      rw [u64_ext]; simp only [toNat_add_u64, toNat_one_u64, toNat_ofNat_u64]; omega
    rw [dispatchLoop, lengthPrefixed]
    dsimp only
    simp only [messageBlockSize, gt_iff_lt, toNat_readMessageLength]
    by_cases h : offset + 2 ≤ len ∧ offset + 2 + loadBE (data.drop offset) 2 ≤ len
    · rw [dif_pos h, if_neg (by omega), if_neg (by omega), List.take_succ_cons,
        List.enumFrom_cons, List.map_cons, hseq, ih, hlen]
    · rw [dif_neg h]
      split_ifs <;> first | rfl | omega

end Session

/-- The callbacks of gap detection are gap callbacks. -/
theorem Session.detectGap_message? (s : Session) (header : Header) :
    (s.detectGap header).2.filterMap Event.message? = [] := by
  unfold Session.detectGap
  dsimp only
  split_ifs <;> rfl

namespace Session

/-- **`process_packet` dispatches exactly the well-formed block prefix.** For a data packet
(`len >= 20`, neither heartbeat nor end of session) whose session matches the adopted one or is
adopted, with a message callback set: the message callbacks receive, in order, the first
`min(m, message_count)` of the `m` complete blocks after the header, each block's position and
length, numbered `seq, seq + 1, ...` modulo `2 ^ 64`; and the loop reads no byte at or past
`len`. -/
theorem dispatch_exact_blocks (s : Session) (data : List UInt8) (len : Nat) (header : Header)
    (hp : parse data len = some header) (h1 : ¬ isHeartbeat header)
    (h2 : ¬ isEndOfSession header) (hs : s.state = .unknown ∨ s.sessionId = header.session)
    (hcb : s.messageCallback = true) :
    (s.processPacket data len).2.2.filterMap Event.message? =
        ((lengthPrefixed data len getMessagesOffset).take header.messageCount.toNat).enum.map
          (fun b => (data.drop b.2.1, UInt16.ofNat b.2.2, header.sequenceNumber + UInt64.ofNat b.1)) ∧
      dispatchLoopChecked data len header.messageCount.toNat getMessagesOffset
          header.sequenceNumber =
        some (dispatchLoop data len header.messageCount.toNat getMessagesOffset
          header.sequenceNumber) := by
  refine ⟨?_, dispatchLoopChecked_eq _ _ _ _ _⟩
  rcases processPacket_cases s data len with ⟨hp', -⟩ | ⟨header', hp', hc, -⟩ |
    ⟨header', s', hp', hc, he⟩
  · exact absurd (hp'.symm.trans hp) nofun
  · cases hp.symm.trans hp'
    exact absurd hs (by simpa [not_or] using checkSessionId_none hc)
  · cases hp.symm.trans hp'
    obtain ⟨-, -, -, -, hcb'⟩ := checkSessionId_some hc
    have h0 : header.sequenceNumber + UInt64.ofNat 0 = header.sequenceNumber := by
      rw [u64_ext]; have := toNat_lt_u64 header.sequenceNumber
      simp only [toNat_add_u64, toNat_ofNat_u64]; omega
    rw [he, processData_data h1 h2, List.filterMap_append, detectGap_message?, List.nil_append,
      dispatchMessages_snd, detectGap_messageCallback, hcb', if_pos hcb, ← h0,
      dispatchLoop_eq_blocks, List.enum, List.filterMap_map]
    simp only [h0]
    exact congrFun (List.filterMap_eq_map _) _

theorem dispatch_two_blocks :
    ((new (List.replicate 10 65) false true).processPacket
        (buildPacket (List.replicate 10 65) 1 [[7], [8]]) 26).2.2.filterMap Event.message? =
        ((lengthPrefixed (buildPacket (List.replicate 10 65) 1 [[7], [8]]) 26
          getMessagesOffset).take (2 : UInt16).toNat).enum.map
          (fun b => ((buildPacket (List.replicate 10 65) 1 [[7], [8]]).drop b.2.1,
            UInt16.ofNat b.2.2, (1 : SequenceNumber) + UInt64.ofNat b.1)) ∧
      dispatchLoopChecked (buildPacket (List.replicate 10 65) 1 [[7], [8]]) 26 (2 : UInt16).toNat
          getMessagesOffset 1 =
        some (dispatchLoop (buildPacket (List.replicate 10 65) 1 [[7], [8]]) 26
          (2 : UInt16).toNat getMessagesOffset 1) :=
  dispatch_exact_blocks _ _ _ ⟨List.replicate 10 65, 1, 2⟩ (by decide) (by decide) (by decide)
    (.inl rfl) rfl

/-- One message and a one-byte buffer: `offset < len` admits the loop, whose 2-byte length
prefix is bytes `0` and `1`, and byte `1` is past the buffer. -/
theorem retransmission_reads_past_end :
    retransmissionLoopChecked [0] 1 1 0 1 = none ∧ retransmissionLoop [0] 1 1 0 1 = [] := by
  decide

end Session

end MoldUdp64

end ItchFeedHandler
