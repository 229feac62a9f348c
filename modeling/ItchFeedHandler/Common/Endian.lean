import Mathlib.Data.List.Basic
import Mathlib.Algebra.BigOperators.Group.Finset
import Mathlib.Tactic.Ring

/-!
# Endianness helpers

`common/endian.hpp`: the byte swaps behind `ntoh*`/`hton*` and the big-endian readers that
pull a field out of a borrowed packet buffer.

A pointer into a packet is modelled by the suffix of the buffer it points at, so
`data + offset` is `data.drop offset`, and reading byte `i` through it is `byteAt`. Memory past
the end of the list reads as `0`: the source never reads there on a well-formed call, and
where it can (a length past the end of the buffer) the separate safety theorems say so.

The readers are modelled as the source computes them: `std::memcpy` into a host integer on the
**little-endian** host (`loadLE`), then `__builtin_bswap` (`byteSwap`). The bridge
`byteSwap_loadLE` says that this is the **big-endian** value of the bytes (`loadBE`), which is
what every decoding proof uses.
-/

namespace ItchFeedHandler

namespace Endian

/-- Byte `i` of the memory a pointer designates; memory past the end of the buffer reads `0`. -/
def byteAt (p : List UInt8) (i : Nat) : UInt8 := p.getD i 0

/-- `std::memcpy(&val, ptr, n)` into an unsigned integer on the little-endian host: the first
byte is the least significant one. -/
def loadLE (p : List UInt8) : Nat → Nat
  | 0 => 0
  | n + 1 => (byteAt p 0).toNat + 256 * loadLE (p.drop 1) n

/-- The `n` bytes at a pointer read **most significant first** (network order). -/
def loadBE (p : List UInt8) : Nat → Nat
  | 0 => 0
  | n + 1 => (byteAt p 0).toNat * 256 ^ n + loadBE (p.drop 1) n

/-- `__builtin_bswapN` on the low `w` bytes of `v`: the lowest byte moves to the top. -/
def byteSwap : Nat → Nat → Nat
  | 0, _ => 0
  | w + 1, v => v % 256 * 256 ^ w + byteSwap w (v / 256)

/-- `swap16`, the compiler's `__builtin_bswap16`. -/
def swap16 (val : UInt16) : UInt16 := UInt16.ofNat (byteSwap 2 val.toNat)

/-- `swap32`, the compiler's `__builtin_bswap32`. -/
def swap32 (val : UInt32) : UInt32 := UInt32.ofNat (byteSwap 4 val.toNat)

/-- `swap64`, the compiler's `__builtin_bswap64`. -/
def swap64 (val : UInt64) : UInt64 := UInt64.ofNat (byteSwap 8 val.toNat)

/-- Network to host order; the host is little-endian, so this always swaps. -/
def ntoh16 (net : UInt16) : UInt16 := swap16 net

/-- Network to host order, 32 bits. -/
def ntoh32 (net : UInt32) : UInt32 := swap32 net

/-- Network to host order, 64 bits. -/
def ntoh64 (net : UInt64) : UInt64 := swap64 net

/-- Host to network order, 16 bits. -/
def hton16 (host : UInt16) : UInt16 := swap16 host

/-- Host to network order, 32 bits. -/
def hton32 (host : UInt32) : UInt32 := swap32 host

/-- Host to network order, 64 bits. -/
def hton64 (host : UInt64) : UInt64 := swap64 host

/-- `read_be16`: an unaligned 2-byte load, then a swap. -/
def readBe16 (ptr : List UInt8) : UInt16 := swap16 (UInt16.ofNat (loadLE ptr 2))

/-- `read_be32`: an unaligned 4-byte load, then a swap. -/
def readBe32 (ptr : List UInt8) : UInt32 := swap32 (UInt32.ofNat (loadLE ptr 4))

/-- `read_be64`: an unaligned 8-byte load, then a swap. -/
def readBe64 (ptr : List UInt8) : UInt64 := swap64 (UInt64.ofNat (loadLE ptr 8))

/-- `read_be48`, the 6-byte ITCH timestamp, assembled by shifts and ors as in the source. -/
def readBe48 (ptr : List UInt8) : UInt64 :=
  ((byteAt ptr 0).toUInt64 <<< 40) ||| ((byteAt ptr 1).toUInt64 <<< 32) |||
    ((byteAt ptr 2).toUInt64 <<< 24) ||| ((byteAt ptr 3).toUInt64 <<< 16) |||
    ((byteAt ptr 4).toUInt64 <<< 8) ||| (byteAt ptr 5).toUInt64

/-- `std::memcpy(dst, ptr, n)` into a byte array: the `n` bytes at the pointer. -/
def memcpy (ptr : List UInt8) (n : Nat) : List UInt8 := (List.range n).map (byteAt ptr)

/-- `std::memcpy(ptr, &val, n)` from an unsigned host integer on the little-endian host, which is
also what assigning a field of a packed struct does: the least significant byte goes first. -/
def storeLE : Nat → Nat → List UInt8
  | 0, _ => []
  | n + 1, v => UInt8.ofNat v :: storeLE n (v / 256)

/-- The `n` bytes of `v`, most significant first: a field as the wire carries it. -/
def beBytes : Nat → Nat → List UInt8
  | 0, _ => []
  | n + 1, v => UInt8.ofNat (v / 256 ^ n) :: beBytes n v

/-! ### Reading through pointers -/

theorem toNat_lt_256 (b : UInt8) : b.toNat < 256 := b.toNat_lt_size

@[simp] theorem byteAt_cons_zero (b : UInt8) (p : List UInt8) : byteAt (b :: p) 0 = b := rfl

@[simp] theorem byteAt_cons_succ (b : UInt8) (p : List UInt8) (i : Nat) :
    byteAt (b :: p) (i + 1) = byteAt p i := rfl

@[simp] theorem byteAt_nil (i : Nat) : byteAt [] i = 0 := by cases i <;> rfl

/-- Reading through an advanced pointer `data + k`. -/
@[simp] theorem byteAt_drop (p : List UInt8) (k i : Nat) : byteAt (p.drop k) i = byteAt p (k + i) := by
  simp only [byteAt, List.getD_eq_getElem?_getD, List.getElem?_drop]

/-- Bytes before the end of a prefix are read from the prefix. -/
theorem byteAt_append_of_lt {p : List UInt8} (q : List UInt8) {i : Nat} (h : i < p.length) :
    byteAt (p ++ q) i = byteAt p i := by
  simp only [byteAt, List.getD_eq_getElem?_getD, List.getElem?_append_left h]

theorem byteAt_append (p q : List UInt8) (i : Nat) :
    byteAt (p ++ q) i = if i < p.length then byteAt p i else byteAt q (i - p.length) := by
  split
  · exact byteAt_append_of_lt q ‹_›
  · simp only [byteAt, List.getD_eq_getElem?_getD, List.getElem?_append_right (Nat.le_of_not_lt ‹_›)]

/-- Advancing a pointer past a whole prefix lands in what follows it. -/
theorem drop_append_of_length_le {p q : List UInt8} {n : Nat} (h : p.length ≤ n) :
    (p ++ q).drop n = q.drop (n - p.length) := by
  rw [List.drop_append_eq_append_drop, List.drop_eq_nil_of_le h, List.nil_append]

@[simp] theorem loadLE_zero (p : List UInt8) : loadLE p 0 = 0 := rfl

@[simp] theorem loadBE_zero (p : List UInt8) : loadBE p 0 = 0 := rfl

theorem loadLE_lt (p : List UInt8) (n : Nat) : loadLE p n < 256 ^ n := by
  induction n generalizing p with
  | zero => simp
  | succ n ih =>
    have hb := toNat_lt_256 (byteAt p 0)
    have ih' := ih (p.drop 1)
    rw [loadLE, Nat.pow_succ]
    omega

theorem loadBE_lt (p : List UInt8) (n : Nat) : loadBE p n < 256 ^ n := by
  induction n generalizing p with
  | zero => simp
  | succ n ih =>
    have hb := toNat_lt_256 (byteAt p 0)
    have ih' := ih (p.drop 1)
    have hmul : (byteAt p 0).toNat * 256 ^ n ≤ 255 * 256 ^ n := Nat.mul_le_mul_right _ (by omega)
    rw [loadBE, Nat.pow_succ]
    omega

/-- **The readers decode big-endian**: a little-endian load followed by a byte swap is the
most-significant-first value of the bytes. -/
theorem byteSwap_loadLE (p : List UInt8) (n : Nat) : byteSwap n (loadLE p n) = loadBE p n := by
  induction n generalizing p with
  | zero => rfl
  | succ n ih =>
    have hb := toNat_lt_256 (byteAt p 0)
    have hmod : ((byteAt p 0).toNat + 256 * loadLE (p.drop 1) n) % 256 = (byteAt p 0).toNat := by
      omega
    have hdiv : ((byteAt p 0).toNat + 256 * loadLE (p.drop 1) n) / 256 = loadLE (p.drop 1) n := by
      omega
    rw [loadLE, byteSwap, hmod, hdiv, ih, loadBE]

/-- Reading back bytes written most significant first. -/
theorem loadBE_beBytes (n v : Nat) (rest : List UInt8) :
    loadBE (beBytes n v ++ rest) n = v % 256 ^ n := by
  induction n with
  | zero => simp [Nat.mod_one]
  | succ n ih =>
    have hb : (UInt8.ofNat (v / 256 ^ n)).toNat = v / 256 ^ n % 256 := rfl
    rw [beBytes, List.cons_append, loadBE, byteAt_cons_zero, hb, List.drop_one, List.tail_cons,
      ih, Nat.pow_succ, Nat.mod_mul, Nat.mul_comm (v / 256 ^ n % 256), Nat.add_comm]

theorem length_beBytes (n v : Nat) : (beBytes n v).length = n := by
  induction n <;> simp [beBytes, *]

/-- Only the low `n` bytes of a value are written. -/
theorem beBytes_add_mul (n k v : Nat) : beBytes n (k * 256 ^ n + v) = beBytes n v := by
  induction n generalizing k with
  | zero => rfl
  | succ n ih =>
    have hdiv : (k * 256 ^ (n + 1) + v) / 256 ^ n = v / 256 ^ n + k * 256 := by
      rw [Nat.pow_succ, Nat.mul_comm (256 ^ n), ← Nat.mul_assoc, Nat.add_comm,
        Nat.add_mul_div_right _ _ (Nat.pos_pow_of_pos n (by decide))]
    have hbyte : UInt8.ofNat (v / 256 ^ n + k * 256) = UInt8.ofNat (v / 256 ^ n) :=
      UInt8.toNat.inj (show (v / 256 ^ n + k * 256) % 256 = v / 256 ^ n % 256 by omega)
    rw [beBytes, beBytes, hdiv, hbyte, Nat.pow_succ, Nat.mul_comm (256 ^ n), ← Nat.mul_assoc, ih]

/-- Writing back the big-endian value of `n` bytes gives the bytes: the other way round from
`loadBE_beBytes`. -/
theorem beBytes_loadBE (p : List UInt8) {n : Nat} (h : n ≤ p.length) :
    beBytes n (loadBE p n) = p.take n := by
  induction n generalizing p with
  | zero => rfl
  | succ n ih =>
    obtain ⟨b, q, rfl⟩ : ∃ b q, p = b :: q :=
      List.exists_cons_of_ne_nil (by rintro rfl; simp at h)
    have hdiv : (b.toNat * 256 ^ n + loadBE q n) / 256 ^ n = b.toNat := by
      rw [Nat.add_comm, Nat.add_mul_div_right _ _ (Nat.pos_pow_of_pos n (by decide)),
        Nat.div_eq_of_lt (loadBE_lt q n), Nat.zero_add]
    have hb : UInt8.ofNat b.toNat = b := UInt8.toNat.inj (Nat.mod_eq_of_lt (toNat_lt_256 b))
    rw [loadBE, byteAt_cons_zero, List.drop_one, List.tail_cons, beBytes, hdiv, hb,
      beBytes_add_mul, ih q (by simpa using h), List.take_succ_cons]

/-- `read_be16` is the big-endian value of its two bytes. -/
theorem readBe16_toNat (p : List UInt8) : (readBe16 p).toNat = loadBE p 2 := by
  rw [readBe16, swap16, UInt16.toNat_ofNat_of_lt (loadLE_lt p 2), byteSwap_loadLE,
    UInt16.toNat_ofNat_of_lt (loadBE_lt p 2)]

/-- `read_be32` is the big-endian value of its four bytes. -/
theorem readBe32_toNat (p : List UInt8) : (readBe32 p).toNat = loadBE p 4 := by
  rw [readBe32, swap32, UInt32.toNat_ofNat_of_lt (loadLE_lt p 4), byteSwap_loadLE,
    UInt32.toNat_ofNat_of_lt (loadBE_lt p 4)]

/-- `read_be64` is the big-endian value of its eight bytes. -/
theorem readBe64_toNat (p : List UInt8) : (readBe64 p).toNat = loadBE p 8 := by
  rw [readBe64, swap64, UInt64.toNat_ofNat_of_lt (loadLE_lt p 8), byteSwap_loadLE,
    UInt64.toNat_ofNat_of_lt (loadBE_lt p 8)]

/-! ### Reads below a length -/

theorem byteAt_take_of_lt (p : List UInt8) {m i : Nat} (h : i < m) : byteAt (p.take m) i = byteAt p i := by
  simp only [byteAt, List.getD_eq_getElem?_getD, List.getElem?_take_of_lt h]

/-- A load of `n` bytes reads none past the `n`th. -/
theorem loadLE_take (p : List UInt8) {m n : Nat} (h : n ≤ m) : loadLE (p.take m) n = loadLE p n := by
  induction n generalizing p m with
  | zero => rfl
  | succ n ih =>
    rw [loadLE, loadLE, byteAt_take_of_lt p (by omega), List.drop_take, ih _ (by omega)]

theorem readBe16_take (p : List UInt8) {m : Nat} (h : 2 ≤ m) : readBe16 (p.take m) = readBe16 p := by
  rw [readBe16, readBe16, loadLE_take p h]

theorem readBe64_take (p : List UInt8) {m : Nat} (h : 8 ≤ m) : readBe64 (p.take m) = readBe64 p := by
  rw [readBe64, readBe64, loadLE_take p h]

theorem readBe48_take (p : List UInt8) {m : Nat} (h : 6 ≤ m) : readBe48 (p.take m) = readBe48 p := by
  simp (disch := omega) only [readBe48, byteAt_take_of_lt]

theorem memcpy_take (p : List UInt8) {m n : Nat} (h : n ≤ m) : memcpy (p.take m) n = memcpy p n :=
  List.map_congr_left fun i hi => byteAt_take_of_lt p (by simp at hi; omega)

/-! ### Byte swaps and stores -/

/-- A swap can also be peeled from the top byte of `v`: that byte lands at the bottom. -/
theorem byteSwap_succ_top (n v : Nat) :
    byteSwap (n + 1) v = v / 256 ^ n % 256 + 256 * byteSwap n v := by
  induction n generalizing v with
  | zero => simp [byteSwap]
  | succ n ih =>
    rw [byteSwap, ih (v / 256), byteSwap, Nat.div_div_eq_div_mul, ← Nat.pow_succ']
    ring

/-- Swapping `v` is reading its big-endian bytes little-endian. -/
theorem loadLE_beBytes (n v : Nat) : loadLE (beBytes n v) n = byteSwap n v := by
  induction n with
  | zero => rfl
  | succ n ih =>
    rw [beBytes, loadLE, byteAt_cons_zero, List.drop_one, List.tail_cons, ih, byteSwap_succ_top]
    rfl

theorem byteSwap_lt (n v : Nat) : byteSwap n v < 256 ^ n :=
  loadLE_beBytes n v ▸ loadLE_lt _ n

/-- **A byte swap is an involution** on the low `n` bytes. -/
theorem byteSwap_byteSwap (n v : Nat) : byteSwap n (byteSwap n v) = v % 256 ^ n := by
  rw [← loadLE_beBytes n v, byteSwap_loadLE, ← List.append_nil (beBytes n v), loadBE_beBytes]

theorem length_storeLE (n v : Nat) : (storeLE n v).length = n := by
  induction n generalizing v <;> simp [storeLE, *]

/-- A host-order store read back by a host-order load. -/
theorem loadLE_storeLE (n v : Nat) (rest : List UInt8) :
    loadLE (storeLE n v ++ rest) n = v % 256 ^ n := by
  induction n generalizing v with
  | zero => simp [Nat.mod_one]
  | succ n ih =>
    have hb : (UInt8.ofNat v).toNat = v % 256 := rfl
    rw [storeLE, List.cons_append, loadLE, byteAt_cons_zero, hb, List.drop_one, List.tail_cons, ih,
      Nat.pow_succ', Nat.mod_mul]

/-- Storing the swap of an `n`-byte value and decoding the bytes big-endian gives the value. -/
theorem loadBE_storeLE_byteSwap {n v : Nat} (h : v < 256 ^ n) (rest : List UInt8) :
    loadBE (storeLE n (byteSwap n v) ++ rest) n = v := by
  rw [← byteSwap_loadLE, loadLE_storeLE, Nat.mod_eq_of_lt (byteSwap_lt n v), byteSwap_byteSwap,
    Nat.mod_eq_of_lt h]

theorem ntoh16_hton16 (x : UInt16) : ntoh16 (hton16 x) = x := UInt16.toNat.inj <| by
  rw [ntoh16, hton16, swap16, swap16, UInt16.toNat_ofNat_of_lt (byteSwap_lt 2 _),
    UInt16.toNat_ofNat_of_lt (byteSwap_lt 2 _), byteSwap_byteSwap]
  exact Nat.mod_eq_of_lt x.toNat_lt_size

theorem ntoh32_hton32 (x : UInt32) : ntoh32 (hton32 x) = x := UInt32.toNat.inj <| by
  rw [ntoh32, hton32, swap32, swap32, UInt32.toNat_ofNat_of_lt (byteSwap_lt 4 _),
    UInt32.toNat_ofNat_of_lt (byteSwap_lt 4 _), byteSwap_byteSwap]
  exact Nat.mod_eq_of_lt x.toNat_lt_size

theorem ntoh64_hton64 (x : UInt64) : ntoh64 (hton64 x) = x := UInt64.toNat.inj <| by
  rw [ntoh64, hton64, swap64, swap64, UInt64.toNat_ofNat_of_lt (byteSwap_lt 8 _),
    UInt64.toNat_ofNat_of_lt (byteSwap_lt 8 _), byteSwap_byteSwap]
  exact Nat.mod_eq_of_lt x.toNat_lt_size

theorem readBe16_storeLE_hton16 (x : UInt16) (rest : List UInt8) :
    readBe16 (storeLE 2 (hton16 x).toNat ++ rest) = x := UInt16.toNat.inj <| by
  rw [readBe16_toNat, hton16, swap16, UInt16.toNat_ofNat_of_lt (byteSwap_lt 2 _),
    loadBE_storeLE_byteSwap x.toNat_lt_size]

theorem readBe32_storeLE_hton32 (x : UInt32) (rest : List UInt8) :
    readBe32 (storeLE 4 (hton32 x).toNat ++ rest) = x := UInt32.toNat.inj <| by
  rw [readBe32_toNat, hton32, swap32, UInt32.toNat_ofNat_of_lt (byteSwap_lt 4 _),
    loadBE_storeLE_byteSwap x.toNat_lt_size]

theorem readBe64_storeLE_hton64 (x : UInt64) (rest : List UInt8) :
    readBe64 (storeLE 8 (hton64 x).toNat ++ rest) = x := UInt64.toNat.inj <| by
  rw [readBe64_toNat, hton64, swap64, UInt64.toNat_ofNat_of_lt (byteSwap_lt 8 _),
    loadBE_storeLE_byteSwap x.toNat_lt_size]

/-! ### The 48-bit timestamp -/

private theorem toNat_or_u64 (a b : UInt64) : (a ||| b).toNat = a.toNat ||| b.toNat := by
  show (a.toBitVec ||| b.toBitVec).toNat = _
  rw [BitVec.toNat_or]; rfl

private theorem toNat_shiftLeft_toUInt64 (b : UInt8) (k : UInt64) :
    (b.toUInt64 <<< k).toNat = b.toNat * 2 ^ (k.toNat % 64) % 2 ^ 64 := by
  show (b.toUInt64.toBitVec <<< (k.toBitVec % 64)).toNat = _
  simp only [BitVec.shiftLeft_eq', BitVec.toNat_shiftLeft, BitVec.toNat_umod, Nat.shiftLeft_eq]
  rfl

private theorem toNat_toUInt64_u8 (b : UInt8) : b.toUInt64.toNat = b.toNat := rfl

/-- Bits that do not overlap: an `or` of a multiple of `2 ^ k` with a value below `2 ^ k` adds. -/
private theorem or_eq_add_of_lt {a c k : Nat} (h : c < 2 ^ k) : a * 2 ^ k ||| c = a * 2 ^ k + c := by
  rw [Nat.mul_comm, Nat.mul_add_lt_is_or h]

/-- `read_be48`'s shifts and ors assemble the big-endian value of its six bytes: the shifted
bytes occupy disjoint bits, so each `or` is an addition. -/
theorem readBe48_toNat (p : List UInt8) : (readBe48 p).toNat = loadBE p 6 := by
  simp only [readBe48, toNat_or_u64, toNat_shiftLeft_toUInt64, toNat_toUInt64_u8,
    UInt64.reduceToNat, Nat.reduceMod, Nat.or_assoc]
  have h := fun i => toNat_lt_256 (byteAt p i)
  have := h 0; have := h 1; have := h 2; have := h 3; have := h 4; have := h 5
  simp (disch := omega) only [Nat.mod_eq_of_lt, or_eq_add_of_lt]
  simp only [loadBE, byteAt_drop, List.drop_drop, Nat.reduceAdd]
  omega

/-- The big-endian value of `n` bytes as a positional sum, most significant byte first. -/
theorem loadBE_eq_sum (p : List UInt8) (n : Nat) :
    loadBE p n = ∑ i in Finset.range n, (byteAt p i).toNat * 2 ^ (8 * (n - 1 - i)) := by
  induction n generalizing p with
  | zero => rfl
  | succ n ih =>
    rw [loadBE, ih, Finset.sum_range_succ', Nat.add_comm]
    congr 1
    · refine Finset.sum_congr rfl fun i _ => ?_
      rw [byteAt_drop, Nat.add_comm 1 i]
      congr 3
      omega
    · rw [Nat.add_sub_cancel, Nat.sub_zero, pow_mul]
      rfl

/-! ### Fields written most significant first -/

theorem readBe32_beBytes (v : UInt32) (rest : List UInt8) : readBe32 (beBytes 4 v.toNat ++ rest) = v :=
  UInt32.toNat.inj <| by
    rw [readBe32_toNat, loadBE_beBytes]
    exact Nat.mod_eq_of_lt v.toNat_lt_size

theorem readBe64_beBytes (v : UInt64) (rest : List UInt8) : readBe64 (beBytes 8 v.toNat ++ rest) = v :=
  UInt64.toNat.inj <| by
    rw [readBe64_toNat, loadBE_beBytes]
    exact Nat.mod_eq_of_lt v.toNat_lt_size

theorem readBe48_beBytes {t : Nat} (ht : t < 2 ^ 48) (rest : List UInt8) :
    readBe48 (beBytes 6 t ++ rest) = UInt64.ofNat t :=
  UInt64.toNat.inj <| by
    rw [readBe48_toNat, loadBE_beBytes, Nat.mod_eq_of_lt (by simpa using ht),
      UInt64.toNat_ofNat_of_lt (by show t < 2 ^ 64; omega)]

/-- Copying as many bytes as a prefix holds copies the prefix. -/
theorem memcpy_append (l rest : List UInt8) : memcpy (l ++ rest) l.length = l := by
  refine List.ext_getElem (by simp [memcpy]) fun i _ hi => ?_
  simp only [memcpy, List.getElem_map, List.getElem_range, byteAt, List.getD_eq_getElem?_getD,
    List.getElem?_append_left hi, List.getElem?_eq_getElem hi, Option.getD_some]

theorem memcpy_append_of_length {l : List UInt8} {n : Nat} (h : l.length = n) (rest : List UInt8) :
    memcpy (l ++ rest) n = l := h ▸ memcpy_append l rest

/-- Within the buffer, `memcpy` copies its first `n` bytes. -/
theorem memcpy_eq_take (p : List UInt8) {n : Nat} (h : n ≤ p.length) : memcpy p n = p.take n := by
  conv_lhs => rw [← List.take_append_drop n p]
  exact memcpy_append_of_length (List.length_take_of_le h) _

/-- **The big-endian codec is exact.** On the little-endian host each reader is the positional
big-endian value of its bytes (the 48-bit timestamp stays below `2 ^ 48`), `ntoh` undoes `hton`
at every width, and a value stored in network order reads back unchanged. -/
theorem big_endian_codec_exact :
    (∀ p : List UInt8,
      (readBe16 p).toNat = (byteAt p 0).toNat * 2 ^ 8 + (byteAt p 1).toNat ∧
      (readBe32 p).toNat = ∑ i in Finset.range 4, (byteAt p i).toNat * 2 ^ (8 * (3 - i)) ∧
      (readBe64 p).toNat = ∑ i in Finset.range 8, (byteAt p i).toNat * 2 ^ (8 * (7 - i)) ∧
      (readBe48 p).toNat = ∑ i in Finset.range 6, (byteAt p i).toNat * 2 ^ (8 * (5 - i)) ∧
      (readBe48 p).toNat < 2 ^ 48) ∧
    (∀ (x : UInt16) (rest : List UInt8),
      ntoh16 (hton16 x) = x ∧ readBe16 (storeLE 2 (hton16 x).toNat ++ rest) = x) ∧
    (∀ (x : UInt32) (rest : List UInt8),
      ntoh32 (hton32 x) = x ∧ readBe32 (storeLE 4 (hton32 x).toNat ++ rest) = x) ∧
    (∀ (x : UInt64) (rest : List UInt8),
      ntoh64 (hton64 x) = x ∧ readBe64 (storeLE 8 (hton64 x).toNat ++ rest) = x) := by
  refine ⟨fun p => ⟨?_, ?_, ?_, ?_, ?_⟩, fun x rest => ⟨ntoh16_hton16 x, readBe16_storeLE_hton16 x rest⟩,
    fun x rest => ⟨ntoh32_hton32 x, readBe32_storeLE_hton32 x rest⟩,
    fun x rest => ⟨ntoh64_hton64 x, readBe64_storeLE_hton64 x rest⟩⟩
  · simp only [readBe16_toNat, loadBE, byteAt_drop, Nat.reduceAdd, Nat.reducePow]
    omega
  · exact (readBe32_toNat p).trans (loadBE_eq_sum p 4)
  · exact (readBe64_toNat p).trans (loadBE_eq_sum p 8)
  · exact (readBe48_toNat p).trans (loadBE_eq_sum p 6)
  · exact readBe48_toNat p ▸ loadBE_lt p 6

end Endian

end ItchFeedHandler
