import ItchFeedHandler.Dpdk.Pipeline
import ItchFeedHandler.Dpdk.Stream

/-!
# The feed handler's file modes

`src/feed_handler.hpp`: a `FeedHandler` owns the output ring and the `PacketHandler` that writes
into it. In its two file modes the calling thread reads the whole file and hands it to the
packet handler: `process_itch_file` gives the bytes to `process_itch_file_data`, and
`process_pcap_file` reads a PCAP capture, a 24-byte global header and then records of a 16-byte
header and `incl_len` captured bytes, and calls `process_raw_packet` on each record's bytes.
The state these modes change is the packet handler's, ring included, so they are modelled on a
`PacketHandler`.

A file is its bytes, `none` when it does not open. The `std::ifstream` is the bytes not read
yet and whether the stream is still good: a read that finds fewer bytes than it asks for takes
what is left and fails the stream (`FileStream.read`). The magic number and `incl_len` are read
as the source reads them, as host-order `uint32_t` loads, and `incl_len` is byte-swapped when
the magic says that the file was written on a host of the other order.

* `pcap_replay_exact`: on every file, `process_pcap_file` returns `0` and changes nothing when
  the file is shorter than its global header or its magic is neither byte order's; otherwise
  it is `process_raw_packet` on the captured bytes of every complete record, in order, up to the
  first record the file does not hold whole, and it returns the number of them accepted.
* `pcap_round_trip`: a capture written in either byte order, even one cut short in its last
  record, is replayed as exactly the packets of its complete records.
* A replay hands records to `push_message` only, so every invariant of the ledger that
  `push_message` keeps (`LedgerInvariant` of `Pipeline.lean`) holds after `process_pcap_file`.
* `itch_file_reaches_ring`: a file of length-prefixed order-flow messages is parsed whole, each
  message's record is pushed in file order, and the ring keeps the first `N - 1` of them.

The consumer thread, `run_consumer`, pops records while the feed handler runs and drains the
ring when it stops, handing each record to `process_message`.

* `consumer_processes_pushed_records`: after any interleaving and the drain, `process_message`
  has seen every pushed record exactly once, in order, and counted as many as `messages_pushed_`.
-/

namespace ItchFeedHandler

namespace Dpdk

open Endian

/-- An `std::ifstream` on a file: the bytes not read yet, and whether the stream is good
(`while (file)`). -/
structure FileStream where
  rest : List UInt8
  good : Bool

/-- `file.read(buf, n)`: the bytes read, `gcount()` of them, and the stream after. A read that
finds fewer than `n` bytes takes what is left and sets `failbit`; a failed stream reads
nothing. -/
def FileStream.read (f : FileStream) (n : Nat) : List UInt8 × FileStream :=
  if f.good then (f.rest.take n, ⟨f.rest.drop n, decide (n ≤ f.rest.length)⟩) else ([], f)

/-- `incl_len` of a record header: the host-order `uint32_t` at byte `8`, through
`__builtin_bswap32` when the file is of the other byte order. -/
def inclLen (swapBytes : Bool) (pktHeader : List UInt8) : UInt32 :=
  if swapBytes then swap32 (UInt32.ofNat (loadLE (pktHeader.drop 8) 4))
  else UInt32.ofNat (loadLE (pktHeader.drop 8) 4)

namespace PacketHandler

variable {N : Capacity}

/-- The `while (file)` loop of `process_pcap_file` with `packetsProcessed` counted so far and
`fuel` iterations left (each takes at least 16 bytes, so the file's length is enough). -/
def pcapLoop (swapBytes : Bool) :
    Nat → FileStream → Nat → PacketHandler N → PacketHandler N × Nat
  | 0, _, packetsProcessed, h => (h, packetsProcessed)
  | fuel + 1, file, packetsProcessed, h =>
    if !file.good then (h, packetsProcessed)
    else
      let pktHeader := file.read 16
      if pktHeader.1.length < 16 then (h, packetsProcessed)
      else
        let len := (inclLen swapBytes pktHeader.1).toNat
        let packet := pktHeader.2.read len
        if packet.1.length < len then (h, packetsProcessed)
        else
          let r := h.processRawPacket packet.1 len
          pcapLoop swapBytes fuel packet.2 (if r.2 then packetsProcessed + 1 else packetsProcessed)
            r.1

/-- `process_pcap_file(filename)`: the new handler and the packets `process_raw_packet` took.
The magic is read from the bytes the global header read got (zero past them, where the
source's array is left unset; the stream has then failed, so the result is the same). -/
def processPcapFile (h : PacketHandler N) : Option (List UInt8) → PacketHandler N × Nat
  | none => (h, 0)
  | some bytes =>
    let globalHeader := (FileStream.mk bytes true).read 24
    let magic := UInt32.ofNat (loadLE globalHeader.1 4)
    if magic = 0xd4c3b2a1 then pcapLoop true (bytes.length + 1) globalHeader.2 0 h
    else if magic ≠ 0xa1b2c3d4 then (h, 0)
    else pcapLoop false (bytes.length + 1) globalHeader.2 0 h

/-- `process_itch_file(filename)`: the whole file to `process_itch_file_data`. -/
def processItchFile (h : PacketHandler N) : Option (List UInt8) → PacketHandler N × Nat
  | none => (h, 0)
  | some bytes => h.processItchFileData bytes bytes.length

end PacketHandler

/-! ### Captures, from the spec's side -/

/-- Specification: the captured length of the record that starts a buffer, the
4-byte field at byte `8` in the file's byte order. -/
def recordLength (swapBytes : Bool) (bytes : List UInt8) : Nat :=
  if swapBytes then loadBE (bytes.drop 8) 4 else loadLE (bytes.drop 8) 4

/-- Specification: the captured bytes of the maximal run of complete records, each a
16-byte header and the number of bytes its header gives. -/
def pcapPackets (swapBytes : Bool) (bytes : List UInt8) : List (List UInt8) :=
  if h : 16 ≤ bytes.length ∧ 16 + recordLength swapBytes bytes ≤ bytes.length then
    (bytes.drop 16).take (recordLength swapBytes bytes) ::
      pcapPackets swapBytes (bytes.drop (16 + recordLength swapBytes bytes))
  else []
termination_by bytes.length
decreasing_by simp only [List.length_drop]; omega

/-- Spec-side input: a record of a capture: its timestamp, the length of the packet on
the wire, and the bytes captured. -/
structure PcapRecord where
  tsSec : UInt32
  tsUsec : UInt32
  origLen : UInt32
  data : List UInt8
  deriving DecidableEq, Repr

/-- Spec-side input: a 4-byte header field in the file's byte order: the writer's host
order, which is the reader's unless the file is swapped. -/
def pcapField (swapBytes : Bool) (v : Nat) : List UInt8 :=
  if swapBytes then beBytes 4 v else storeLE 4 v

/-- Spec-side input: a record's 16-byte header, `ts_sec`, `ts_usec`, `incl_len` (the
number of bytes captured) and `orig_len`. -/
def PcapRecord.header (swapBytes : Bool) (r : PcapRecord) : List UInt8 :=
  pcapField swapBytes r.tsSec.toNat ++ pcapField swapBytes r.tsUsec.toNat ++
    pcapField swapBytes r.data.length ++ pcapField swapBytes r.origLen.toNat

/-- Spec-side input: a record, its header and then the bytes captured. -/
def PcapRecord.encode (swapBytes : Bool) (r : PcapRecord) : List UInt8 :=
  r.header swapBytes ++ r.data

/-- Spec-side input: a global header, the magic `0xa1b2c3d4` in the file's byte order
and then the 20 bytes of version, time zone, accuracy, snapshot length and link type. -/
def pcapGlobalHeader (swapBytes : Bool) (fields : List UInt8) : List UInt8 :=
  pcapField swapBytes 0xa1b2c3d4 ++ fields

namespace PacketHandler

variable {N : Capacity}

/-- Specification: `process_raw_packet` on each packet in order, and the number of
packets it accepted. -/
def replayPackets (h : PacketHandler N) : List (List UInt8) → PacketHandler N × Nat
  | [] => (h, 0)
  | p :: ps =>
    let r := h.processRawPacket p p.length
    let rest := replayPackets r.1 ps
    (rest.1, (if r.2 then 1 else 0) + rest.2)

end PacketHandler

/-! ### The replay -/

theorem inclLen_toNat (swapBytes : Bool) (pktHeader : List UInt8) :
    (inclLen swapBytes pktHeader).toNat = recordLength swapBytes pktHeader := by
  cases swapBytes with
  | false =>
    rw [inclLen, recordLength, if_neg Bool.false_ne_true, if_neg Bool.false_ne_true,
      UInt32.toNat_ofNat_of_lt (loadLE_lt _ 4)]
  | true =>
    rw [inclLen, recordLength, if_pos rfl, if_pos rfl]
    exact readBe32_toNat _

/-- The record length lies in the first twelve bytes. -/
theorem recordLength_take (swapBytes : Bool) (bytes : List UInt8) {k : Nat} (hk : 12 ≤ k) :
    recordLength swapBytes (bytes.take k) = recordLength swapBytes bytes := by
  have h : loadLE ((bytes.take k).drop 8) 4 = loadLE (bytes.drop 8) 4 := by
    rw [List.drop_take, loadLE_take _ (by omega)]
  cases swapBytes <;>
    simp only [recordLength, if_true, Bool.false_eq_true, if_false, ← byteSwap_loadLE, h]

theorem inclLen_take (swapBytes : Bool) (bytes : List UInt8) :
    (inclLen swapBytes (bytes.take 16)).toNat = recordLength swapBytes bytes := by
  rw [inclLen_toNat, recordLength_take _ _ (by omega)]

namespace PacketHandler

variable {N : Capacity}

/-- **The loop replays the complete records**: with fuel beyond the bytes left, the loop on a
good stream does what `process_raw_packet` on the packets of the complete records does,
counting on from `n`. -/
theorem pcapLoop_eq_replay (swapBytes : Bool) (fuel : Nat) :
    ∀ (rest : List UInt8) (n : Nat) (h : PacketHandler N), rest.length < fuel →
      pcapLoop swapBytes fuel ⟨rest, true⟩ n h =
        ((h.replayPackets (pcapPackets swapBytes rest)).1,
          n + (h.replayPackets (pcapPackets swapBytes rest)).2) := by
  induction fuel with
  | zero => intro rest n h hf; omega
  | succ fuel ih =>
    intro rest n h hf
    rw [pcapLoop, pcapPackets]
    by_cases h16 : 16 ≤ rest.length
    · have hlen16 : (rest.take 16).length = 16 := by simp only [List.length_take]; omega
      by_cases hL : 16 + recordLength swapBytes rest ≤ rest.length
      · have hpkt : ((rest.drop 16).take (recordLength swapBytes rest)).length =
            recordLength swapBytes rest := by
          simp only [List.length_take, List.length_drop]; omega
        have hrest : (rest.drop 16).drop (recordLength swapBytes rest) =
            rest.drop (16 + recordLength swapBytes rest) := by
          rw [List.drop_drop, Nat.add_comm]
        simp only [FileStream.read, if_true, Bool.not_true, Bool.false_eq_true, if_false, hlen16,
          inclLen_take, decide_eq_true h16, hpkt, lt_self_iff_false, hrest,
          decide_eq_true (show recordLength swapBytes rest ≤ (rest.drop 16).length by
            simp only [List.length_drop]; omega), dif_pos (And.intro h16 hL)]
        rw [ih _ _ _ (by simp only [List.length_drop]; omega)]
        simp only [replayPackets, hpkt, Prod.mk.injEq, true_and]
        split <;> omega
      · simp only [FileStream.read, if_true, Bool.not_true, Bool.false_eq_true, if_false, hlen16,
          inclLen_take, decide_eq_true h16, lt_self_iff_false, dif_neg (show ¬ (16 ≤ rest.length ∧
            16 + recordLength swapBytes rest ≤ rest.length) by omega), List.length_take,
          List.length_drop]
        rw [if_pos (by omega)]
        rfl
    · simp only [FileStream.read, if_true, Bool.not_true, Bool.false_eq_true, if_false,
        List.length_take, dif_neg (show ¬ (16 ≤ rest.length ∧
            16 + recordLength swapBytes rest ≤ rest.length) by omega)]
      rw [if_pos (by omega)]
      rfl

/-- `process_pcap_file` on a file's bytes, by its global header. -/
theorem processPcapFile_eq (h : PacketHandler N) (bytes : List UInt8) :
    h.processPcapFile (some bytes) =
      if 24 ≤ bytes.length ∧ (loadLE bytes 4 = 0xa1b2c3d4 ∨ loadLE bytes 4 = 0xd4c3b2a1) then
        h.replayPackets (pcapPackets (loadLE bytes 4 = 0xd4c3b2a1) (bytes.drop 24))
      else (h, 0) := by
  have hmagic (v : Nat) (hv : v < 2 ^ 32) :
      UInt32.ofNat (loadLE bytes 4) = UInt32.ofNat v ↔ loadLE bytes 4 = v := by
    refine ⟨fun heq => ?_, fun heq => heq ▸ rfl⟩
    have := congrArg UInt32.toNat heq
    rwa [UInt32.toNat_ofNat_of_lt (lt_of_lt_of_eq (loadLE_lt bytes 4) rfl),
      UInt32.toNat_ofNat_of_lt (lt_of_lt_of_eq hv rfl)] at this
  have hs : UInt32.ofNat (loadLE bytes 4) = 0xd4c3b2a1 ↔ loadLE bytes 4 = 0xd4c3b2a1 :=
    hmagic _ (by decide)
  have hn : UInt32.ofNat (loadLE bytes 4) = 0xa1b2c3d4 ↔ loadLE bytes 4 = 0xa1b2c3d4 :=
    hmagic _ (by decide)
  have hloop (sw : Bool) (h24 : 24 ≤ bytes.length) :
      pcapLoop sw (bytes.length + 1) ⟨bytes.drop 24, true⟩ 0 h =
        h.replayPackets (pcapPackets sw (bytes.drop 24)) := by
    rw [pcapLoop_eq_replay _ _ _ _ _ (by simp only [List.length_drop]; omega), Nat.zero_add]
  simp only [processPcapFile, FileStream.read, if_true, loadLE_take bytes (show 4 ≤ 24 by omega),
    hs, hn, ne_eq]
  by_cases h24 : 24 ≤ bytes.length
  · rw [decide_eq_true h24, hloop true h24, hloop false h24]
    by_cases h1 : loadLE bytes 4 = 0xd4c3b2a1
    · have hc : 24 ≤ bytes.length ∧
          (loadLE bytes 4 = 0xa1b2c3d4 ∨ loadLE bytes 4 = 0xd4c3b2a1) := ⟨h24, .inr h1⟩
      rw [if_pos h1, if_pos hc, decide_eq_true h1]
    by_cases h2 : loadLE bytes 4 = 0xa1b2c3d4
    · have hc : 24 ≤ bytes.length ∧
          (loadLE bytes 4 = 0xa1b2c3d4 ∨ loadLE bytes 4 = 0xd4c3b2a1) := ⟨h24, .inl h2⟩
      rw [if_neg h1, if_neg (not_not_intro h2), if_pos hc, decide_eq_false h1]
    · have hc : ¬ (24 ≤ bytes.length ∧
          (loadLE bytes 4 = 0xa1b2c3d4 ∨ loadLE bytes 4 = 0xd4c3b2a1)) :=
        fun hc => hc.2.elim h2 h1
      rw [if_neg h1, if_pos h2, if_neg hc]
  · have hc : ¬ (24 ≤ bytes.length ∧
        (loadLE bytes 4 = 0xa1b2c3d4 ∨ loadLE bytes 4 = 0xd4c3b2a1)) := fun hc => h24 hc.1
    rw [decide_eq_false h24, if_neg hc]
    split_ifs <;> rfl

/-! ### Captures written by the spec's writer -/

theorem length_pcapField (swapBytes : Bool) (v : Nat) : (pcapField swapBytes v).length = 4 := by
  cases swapBytes <;> simp [pcapField, length_beBytes, length_storeLE]

theorem length_header (swapBytes : Bool) (r : PcapRecord) : (r.header swapBytes).length = 16 := by
  simp only [PcapRecord.header, List.length_append, length_pcapField]

theorem length_encode (swapBytes : Bool) (r : PcapRecord) :
    (r.encode swapBytes).length = 16 + r.data.length := by
  rw [PcapRecord.encode, List.length_append, length_header]

/-- A record header gives back the number of bytes captured. -/
theorem recordLength_encode (swapBytes : Bool) (r : PcapRecord) (hr : r.data.length < 2 ^ 32)
    (rest : List UInt8) : recordLength swapBytes (r.encode swapBytes ++ rest) = r.data.length := by
  have hd : (r.encode swapBytes ++ rest).drop 8 =
      pcapField swapBytes r.data.length ++ (pcapField swapBytes r.origLen.toNat ++ (r.data ++ rest)) := by
    simp (disch := simp only [length_pcapField, Nat.reduceLeDiff]) only [PcapRecord.encode,
      PcapRecord.header, List.append_assoc, drop_append_of_length_le, length_pcapField,
      Nat.reduceSub, List.drop_zero]
  cases swapBytes with
  | false =>
    rw [recordLength, if_neg Bool.false_ne_true, hd, pcapField, if_neg Bool.false_ne_true,
      loadLE_storeLE, Nat.mod_eq_of_lt (by omega)]
  | true =>
    rw [recordLength, if_pos rfl, hd, pcapField, if_pos rfl, loadBE_beBytes,
      Nat.mod_eq_of_lt (by omega)]

/-- The records the spec's writer put in a buffer come back, in order. -/
theorem pcapPackets_encode (swapBytes : Bool) (recs : List PcapRecord)
    (hr : ∀ r ∈ recs, r.data.length < 2 ^ 32) (rest : List UInt8) :
    pcapPackets swapBytes ((recs.map (·.encode swapBytes)).flatten ++ rest) =
      recs.map PcapRecord.data ++ pcapPackets swapBytes rest := by
  induction recs with
  | nil => rfl
  | cons r rs ih =>
    rw [List.map_cons, List.flatten_cons, List.append_assoc, List.map_cons, List.cons_append,
      ← ih (fun r' hr' => hr r' (List.mem_cons_of_mem _ hr'))]
    generalize (rs.map (·.encode swapBytes)).flatten ++ rest = rest'
    have hL := recordLength_encode swapBytes r (hr r (List.mem_cons_self _ _)) rest'
    have hlen := length_encode swapBytes r
    rw [pcapPackets, dif_pos (by simp only [hL, List.length_append, hlen]; omega), hL,
      List.drop_left' hlen, PcapRecord.encode, List.append_assoc,
      List.drop_left' (length_header swapBytes r), List.take_left' rfl]

/-- A record cut short is no record. -/
theorem pcapPackets_cut (swapBytes : Bool) (r : PcapRecord) (hr : r.data.length < 2 ^ 32)
    {k : Nat} (hk : k < (r.encode swapBytes).length) :
    pcapPackets swapBytes ((r.encode swapBytes).take k) = [] := by
  rw [pcapPackets, dif_neg]
  rintro ⟨h16, hL⟩
  have hlen := length_encode swapBytes r
  have h16' : 16 ≤ k := by simp only [List.length_take] at h16; omega
  rw [recordLength_take _ _ (by omega), ← List.append_nil (r.encode swapBytes),
    recordLength_encode swapBytes r hr [], List.append_nil] at hL
  simp only [List.length_take] at hL
  omega

/-- The magic the spec's writer puts first, read by the host. -/
theorem loadLE_pcapGlobalHeader (swapBytes : Bool) (fields rest : List UInt8) :
    loadLE (pcapGlobalHeader swapBytes fields ++ rest) 4 =
      if swapBytes then 0xd4c3b2a1 else 0xa1b2c3d4 := by
  cases swapBytes with
  | false =>
    rw [pcapGlobalHeader, pcapField, if_neg Bool.false_ne_true, List.append_assoc,
      loadLE_storeLE]
    decide
  | true =>
    rw [pcapGlobalHeader, pcapField, if_pos rfl, List.append_assoc, ← loadLE_take _ (le_refl 4),
      List.take_left' (length_beBytes 4 _), loadLE_beBytes]
    decide

/-- **A capture is replayed as its packets.** For either byte order, any 20 bytes of global
header fields and any records of fewer than `2 ^ 32` captured bytes each, the capture the spec's
writer makes of them, cut anywhere inside one more record, is replayed by `process_pcap_file`
as `process_raw_packet` on the captured bytes of each whole record, in order. -/
theorem pcap_round_trip (h : PacketHandler N) (swapBytes : Bool) (fields : List UInt8)
    (hf : fields.length = 20) (recs : List PcapRecord) (hr : ∀ r ∈ recs, r.data.length < 2 ^ 32)
    (cut : PcapRecord) (hc : cut.data.length < 2 ^ 32) (k : Nat)
    (hk : k < (cut.encode swapBytes).length) :
    h.processPcapFile (some (pcapGlobalHeader swapBytes fields ++
        (recs.map (·.encode swapBytes)).flatten ++ (cut.encode swapBytes).take k)) =
      h.replayPackets (recs.map PcapRecord.data) := by
  have hlen : (pcapGlobalHeader swapBytes fields).length = 24 := by
    simp only [pcapGlobalHeader, List.length_append, length_pcapField, hf]
  have h24 : 24 ≤ (pcapGlobalHeader swapBytes fields ++
      ((recs.map (·.encode swapBytes)).flatten ++ (cut.encode swapBytes).take k)).length := by
    simp only [List.length_append, hlen]; omega
  have hsw : decide ((if swapBytes then 0xd4c3b2a1 else 0xa1b2c3d4 : Nat) = 0xd4c3b2a1) =
      swapBytes := by
    cases swapBytes <;> decide
  have hok : (if swapBytes then 0xd4c3b2a1 else 0xa1b2c3d4 : Nat) = 0xa1b2c3d4 ∨
      (if swapBytes then 0xd4c3b2a1 else 0xa1b2c3d4 : Nat) = 0xd4c3b2a1 := by
    cases swapBytes <;> decide
  rw [processPcapFile_eq, List.append_assoc, loadLE_pcapGlobalHeader, if_pos (And.intro h24 hok),
    hsw, List.drop_left' hlen, pcapPackets_encode _ _ hr, pcapPackets_cut _ _ hc hk,
    List.append_nil]

theorem swapped_capture_cut_replayed :
    (PacketHandler.new RingBuffer.new : PacketHandler messageBufferCapacity).processPcapFile
        (some (pcapGlobalHeader true (List.replicate 20 0) ++
          ([(⟨1, 2, 3, [1, 2, 3]⟩ : PcapRecord)].map (·.encode true)).flatten ++
          (PcapRecord.encode true ⟨4, 5, 6, [7, 8]⟩).take 17)) =
      (PacketHandler.new RingBuffer.new).replayPackets [[1, 2, 3]] :=
  pcap_round_trip _ true (List.replicate 20 0) rfl [⟨1, 2, 3, [1, 2, 3]⟩] (by decide)
    ⟨4, 5, 6, [7, 8]⟩ (by decide) 17 (by decide)

end PacketHandler

/-! ### The ledger after a replay -/

namespace LedgerInvariant

variable {N : Capacity} {P : PacketHandler N → Prop} {h : PacketHandler N}

/-- A replay hands records to `push_message` only, so it keeps every property of the ledger
that `push_message` keeps. -/
theorem replayPackets (hP : LedgerInvariant P) (hh : P h) (pkts : List (List UInt8)) :
    P (h.replayPackets pkts).1 := by
  induction pkts generalizing h with
  | nil => exact hh
  | cons p ps ih => exact ih (hP.processFrame hh p p.length)

/-- So does every `process_pcap_file` call. -/
theorem processPcapFile (hP : LedgerInvariant P) (hh : P h) (file : Option (List UInt8)) :
    P (h.processPcapFile file).1 := by
  cases file with
  | none => exact hh
  | some bytes =>
    rw [PacketHandler.processPcapFile_eq]
    split
    · exact hP.replayPackets hh _
    · exact hh

end LedgerInvariant

/-! ### An ITCH file of order-flow messages -/

/-- Spec-side input: an ITCH file of the order-flow messages `msgs`, each a 2-byte
big-endian length and the message. -/
def itchFile (msgs : List WireMessage) : List UInt8 :=
  (msgs.map fun m => MoldUdp64.encodeBlock m.encode).flatten

namespace PacketHandler

open Itch MoldUdp64

variable {N : Capacity}

/-- A complete frame at `offset` is the first of the run of complete frames from there. -/
theorem lengthPrefixed_encodeBlock (pre x rest : List UInt8) (hx : x.length < 2 ^ 16) {L : Nat}
    (hL : pre.length + 2 + x.length ≤ L) :
    lengthPrefixed (pre ++ encodeBlock x ++ rest) L pre.length =
      (pre.length + 2, x.length) ::
        lengthPrefixed (pre ++ encodeBlock x ++ rest) L (pre.length + 2 + x.length) := by
  have hload : loadBE ((pre ++ encodeBlock x ++ rest).drop pre.length) 2 = x.length := by
    rw [List.append_assoc, List.drop_left, encodeBlock, List.append_assoc, loadBE_beBytes]
    exact Nat.mod_eq_of_lt hx
  rw [lengthPrefixed, dif_pos (by rw [hload]; omega), hload]

/-- **Run lemma**: `parse_message`, with the callbacks `setup_parser_callbacks` installs, on the
frames of an ITCH file of order-flow messages placed after any bytes `pre`: every message is
parsed, returns nonzero, and hands `push_message` its record, in order. -/
theorem replayFrames_itchFile (msgs : List WireMessage) (hm : ∀ m ∈ msgs, m.Fits)
    (pre : List UInt8) {h : PacketHandler N} (hc : h.parser.callbacks = handlerCallbacks) :
    (replayFrames (pre ++ itchFile msgs) h
        (lengthPrefixed (pre ++ itchFile msgs) (pre ++ itchFile msgs).length pre.length)).2 =
        msgs.length ∧
      (replayFrames (pre ++ itchFile msgs) h
        (lengthPrefixed (pre ++ itchFile msgs) (pre ++ itchFile msgs).length pre.length)).1.offers.map
          Offer.record = h.offers.map Offer.record ++ msgs.map WireMessage.toRecord := by
  induction msgs generalizing pre h with
  | nil =>
    have hend : lengthPrefixed (pre ++ itchFile []) (pre ++ itchFile []).length pre.length = [] := by
      rw [lengthPrefixed, dif_neg (by simp [itchFile])]
    rw [hend]
    exact ⟨rfl, (List.append_nil _).symm⟩
  | cons m ms ih =>
    obtain ⟨hm1, hms⟩ := List.forall_mem_cons.1 hm
    have hle := length_encode_le hm1
    have hsize := getMessageSize_encode m (itchFile ms) hm1.2
    have hpos := getMessageSize_pos_of_orderKind (orderKind_msgType_encode m (itchFile ms))
    have hdata : pre ++ itchFile (m :: ms) = pre ++ encodeBlock m.encode ++ itchFile ms := by
      simp [itchFile]
    have hpre : (pre ++ encodeBlock m.encode).length = pre.length + 2 + m.encode.length := by
      simp only [List.length_append, encodeBlock, length_beBytes, Nat.add_assoc]
    have hdrop : (pre ++ encodeBlock m.encode ++ itchFile ms).drop (pre.length + 2) =
        m.encode ++ itchFile ms := by
      rw [← List.drop_drop, List.append_assoc, List.drop_left, encodeBlock,
        List.append_assoc, List.drop_left' (length_beBytes 2 _)]
    have hret : 0 < (h.parseMessage (m.encode ++ itchFile ms) m.encode.length).2 := by
      rw [parseMessage_snd, Parser.parseMessage_fst_snd, if_pos ⟨by omega, hpos, hsize.le⟩]
      exact hpos
    obtain ⟨-, hcb⟩ := parseMessage_session (h := h) (m.encode ++ itchFile ms) m.encode.length
    obtain ⟨ih1, ih2⟩ := ih hms (pre ++ encodeBlock m.encode) (hcb.trans hc)
    rw [hpre] at ih1 ih2
    rw [hdata, lengthPrefixed_encodeBlock pre m.encode (itchFile ms) (by omega)
      (by rw [List.length_append, hpre]; omega)]
    simp only [replayFrames, hdrop]
    refine ⟨by rw [ih1, if_pos hret, List.length_cons, Nat.add_comm], ?_⟩
    rw [ih2, records_parseMessage_encode hc hm1 _ le_rfl, List.map_cons, List.append_assoc,
      List.singleton_append]

end PacketHandler

/-- **An ITCH file reaches the ring.** For a handler built on an empty ring of capacity `N`, and a
file of order-flow messages (AddOrder, OrderExecuted, OrderCancel, OrderDelete, OrderReplace,
Trade) whose fields fit the wire, each as a 2-byte big-endian length and the message:
`process_itch_file` returns the number of messages; the records handed to `push_message` are
exactly the messages' records, in file order; the ring holds the first `N - 1` of them,
`messages_pushed` counts those and `buffer_full_count` the rest. In the file modes of `main` the
consumer thread is not started, so the records past the first `N - 1` are dropped. -/
theorem itch_file_reaches_ring (msgs : List WireMessage) (hm : ∀ m ∈ msgs, m.Fits) :
    ((PacketHandler.new (RingBuffer.new : RingBuffer NormalizedMessage N)).processItchFile
        (some (itchFile msgs))).2 = msgs.length ∧
      ((PacketHandler.new (RingBuffer.new : RingBuffer NormalizedMessage N)).processItchFile
        (some (itchFile msgs))).1.offers.map Offer.record = msgs.map WireMessage.toRecord ∧
      ((PacketHandler.new (RingBuffer.new : RingBuffer NormalizedMessage N)).processItchFile
        (some (itchFile msgs))).1.outputBuffer.contents =
        (msgs.map WireMessage.toRecord).take (N.val - 1) ∧
      ((PacketHandler.new (RingBuffer.new : RingBuffer NormalizedMessage N)).processItchFile
        (some (itchFile msgs))).1.messagesPushed = UInt64.ofNat (min msgs.length (N.val - 1)) ∧
      ((PacketHandler.new (RingBuffer.new : RingBuffer NormalizedMessage N)).processItchFile
        (some (itchFile msgs))).1.bufferFullCount = UInt64.ofNat (msgs.length - (N.val - 1)) := by
  set h₀ : PacketHandler N := PacketHandler.new RingBuffer.new
  obtain ⟨hcount, hrec⟩ := PacketHandler.replayFrames_itchFile msgs hm [] (h := h₀) rfl
  rw [List.nil_append, List.length_nil] at hcount hrec
  set R := PacketHandler.replayFrames (itchFile msgs) h₀
    (MoldUdp64.lengthPrefixed (itchFile msgs) (itchFile msgs).length 0)
  have hfill : Filling (h₀.processItchFile (some (itchFile msgs))).1 :=
    Filling.ledgerInvariant.itchFileLoop Filling.new (itchFile msgs) _ _ 0 0
  have heq : h₀.processItchFile (some (itchFile msgs)) = (R.1, R.2) := by
    rw [PacketHandler.processItchFile, PacketHandler.processItchFileData,
      PacketHandler.itchFileLoop_eq_replayFrames _ _ _ 0 0 _ (by omega), Nat.zero_add]
  have hrec' : R.1.offers.map Offer.record = msgs.map WireMessage.toRecord :=
    hrec.trans (List.nil_append _)
  have hlen : R.1.offers.length = msgs.length := by
    rw [← List.length_map _ Offer.record, hrec', List.length_map]
  rw [heq] at hfill ⊢
  exact ⟨hcount, hrec', by rw [hfill.contents, hrec'], by rw [hfill.messagesPushed, hlen],
    by rw [hfill.bufferFullCount, hlen]⟩

/-- A file of two OrderDeletes: both records are in the ring, in order. -/
theorem delete_file_reaches_ring :
    ((PacketHandler.new (RingBuffer.new : RingBuffer NormalizedMessage messageBufferCapacity)).processItchFile
      (some (itchFile [⟨1, 2, 3, .orderDelete 7⟩, ⟨1, 2, 4, .orderDelete 8⟩]))).1.outputBuffer.contents =
      [WireMessage.toRecord ⟨1, 2, 3, .orderDelete 7⟩, WireMessage.toRecord ⟨1, 2, 4, .orderDelete 8⟩] :=
  (itch_file_reaches_ring _ (by decide)).2.2.1

variable {N : Capacity}

/-! ### The consumer

`run_consumer` pops records while the feed handler runs and, once `running_` is cleared, drains
the ring: `while (auto msg = message_buffer_.try_pop())` hands each record to `process_message`,
which in this release only counts it in `total_messages_processed_`. The pops of the running
phase are the `tryPop` steps of an interleaving (`System`); the drain is `System.drain`. -/

/-- `process_message(msg)`: `++total_messages_processed_`. -/
def processMessage (totalMessagesProcessed : UInt64) (_msg : NormalizedMessage) : UInt64 :=
  totalMessagesProcessed + 1

namespace System

/-- `total_messages_processed_`: `process_message` on every record the consumer popped, in
order. -/
def totalMessagesProcessed (s : System N) : UInt64 := s.dequeued.foldl processMessage 0

/-- The drain that ends `run_consumer`, `fuel` calls of `try_pop` at most: pop until `try_pop`
finds the ring empty. -/
def drain : Nat → System N → System N
  | 0, s => s
  | fuel + 1, s =>
    if s.handler.outputBuffer.tryPop.1.isSome then (s.step .tryPop).drain fuel else s.step .tryPop

theorem run_append (s : System N) (acts acts' : List Action) :
    s.run (acts ++ acts') = (s.run acts).run acts' :=
  List.foldl_append ..

/-- The drain is a run of `try_pop` calls, and with more fuel than records it empties the ring. -/
theorem drain_eq_run (s : System N) (fuel : Nat) (hf : s.handler.outputBuffer.size < fuel) :
    ∃ k, s.drain fuel = s.run (List.replicate k .tryPop) ∧
      (s.drain fuel).handler.outputBuffer.contents = [] := by
  induction fuel generalizing s with
  | zero => omega
  | succ fuel ih =>
    have hpop := s.handler.outputBuffer.tryPop_fst
    have hrest := s.handler.outputBuffer.contents_tryPop
    have hlen := s.handler.outputBuffer.length_contents
    rw [drain]
    split
    · next hs =>
      have hsize : (s.step .tryPop).handler.outputBuffer.size + 1 =
          s.handler.outputBuffer.size := by
        rw [hpop, Option.isSome_iff_exists] at hs
        obtain ⟨x, hx⟩ := hs
        rw [← RingBuffer.length_contents, ← hlen]
        show s.handler.outputBuffer.tryPop.2.contents.length + 1 = _
        rw [hrest, List.length_tail, Nat.sub_add_cancel
          (List.length_pos_of_ne_nil (fun h => by simp [h] at hx))]
      obtain ⟨k, hk, he⟩ := ih (s.step .tryPop) (by omega)
      exact ⟨k + 1, hk, he⟩
    · next hs =>
      rw [hpop, Option.not_isSome_iff_eq_none, List.head?_eq_none_iff] at hs
      refine ⟨1, rfl, ?_⟩
      show s.handler.outputBuffer.tryPop.2.contents = []
      rw [hrest, hs, List.tail_nil]

/-- `try_pop` leaves the log alone. -/
theorem run_tryPops (s : System N) (k : Nat) :
    (s.run (List.replicate k .tryPop)).handler.offers = s.handler.offers := by
  induction k generalizing s with
  | zero => rfl
  | succ k ih => exact ih (s.step .tryPop)

theorem foldl_processMessage (l : List NormalizedMessage) (t : UInt64) :
    l.foldl processMessage t = t + UInt64.ofNat l.length := by
  induction l generalizing t with
  | nil => exact (add_zero_u64 t).symm
  | cons x l ih =>
    rw [List.foldl_cons, ih, processMessage, List.length_cons, u64_ext]
    simp only [toNat_add_u64, toNat_one_u64, toNat_ofNat_u64]
    omega

theorem totalMessagesProcessed_eq (s : System N) :
    s.totalMessagesProcessed = UInt64.ofNat s.dequeued.length := by
  rw [totalMessagesProcessed, foldl_processMessage, zero_add_u64]

end System

/-- **The consumer processes every pushed record once.** For a handler built on an empty ring
of capacity `N`, after every interleaving of producer calls with the consumer's `try_pop`s, and
then the drain that ends `run_consumer`: the drain ends with the ring empty, the records handed
to `process_message` are exactly the records `push_message` pushed, each once and in the order
offered, and `total_messages_processed_` equals `messages_pushed_`. -/
theorem consumer_processes_pushed_records (acts : List Action) :
    ((System.run (⟨PacketHandler.new RingBuffer.new, []⟩ : System N) acts).drain
        N.val).handler.outputBuffer.contents = [] ∧
      ((System.run (⟨PacketHandler.new RingBuffer.new, []⟩ : System N) acts).drain N.val).dequeued =
        ((System.run (⟨PacketHandler.new RingBuffer.new, []⟩ : System N) acts).handler.offers.filter
          Offer.pushed).map Offer.record ∧
      ((System.run (⟨PacketHandler.new RingBuffer.new, []⟩ : System N) acts).drain
          N.val).totalMessagesProcessed =
        (System.run (⟨PacketHandler.new RingBuffer.new, []⟩ : System N) acts).handler.messagesPushed := by
  set s₀ := System.run (⟨PacketHandler.new RingBuffer.new, []⟩ : System N) acts
  obtain ⟨k, hk, hempty⟩ := s₀.drain_eq_run N.val s₀.handler.outputBuffer.size_lt
  have hoff := s₀.run_tryPops k
  have hc := System.run_conserved (s := (⟨PacketHandler.new RingBuffer.new, []⟩ : System N))
    (conserved_new RingBuffer.new) (acts ++ List.replicate k .tryPop)
  rw [System.run_append, ← hk, RingBuffer.contents_new] at hc
  rw [← hk] at hoff
  have hfifo := hc.fifo
  rw [hempty, List.append_nil, List.nil_append, hoff] at hfifo
  refine ⟨hempty, hfifo, ?_⟩
  rw [System.totalMessagesProcessed_eq, hfifo, (PushCounted.run (PushCounted.new _) acts).pushed,
    List.length_map, ← List.countP_eq_length_filter]

namespace PacketHandler

/-- **The PCAP replay is exact.** On every file, `process_pcap_file` returns `0` and leaves the
handler as it was when the file is shorter than the 24-byte global header or its magic, read as
a host-order `uint32_t`, is neither `0xa1b2c3d4` nor the swapped `0xd4c3b2a1`. Otherwise it is
`process_raw_packet` on the captured bytes of every complete record after the global header, in
order, with `incl_len` read in the file's byte order, up to the first record that the file does
not hold whole; it returns the number of those packets `process_raw_packet` accepted. Either
way the ledger of the ring (`Conserved`) holds after it if it held before. -/
theorem pcap_replay_exact (h : PacketHandler N) (bytes : List UInt8) :
    h.processPcapFile (some bytes) =
        (if 24 ≤ bytes.length ∧ (loadLE bytes 4 = 0xa1b2c3d4 ∨ loadLE bytes 4 = 0xd4c3b2a1) then
          h.replayPackets (pcapPackets (loadLE bytes 4 = 0xd4c3b2a1) (bytes.drop 24))
        else (h, 0)) ∧
      ∀ q dq, Conserved q dq h → Conserved q dq (h.processPcapFile (some bytes)).1 :=
  ⟨processPcapFile_eq h bytes,
    fun _ _ hc => Conserved.ledgerInvariant.processPcapFile hc (some bytes)⟩

end PacketHandler

end Dpdk

end ItchFeedHandler
