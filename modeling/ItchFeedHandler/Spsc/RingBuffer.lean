import Mathlib.Data.Nat.ModEq
import Mathlib.Logic.Function.Basic

/-!
# The single-producer / single-consumer ring

`spsc/ring_buffer.hpp`: `RingBuffer<T, Capacity>` is a storage array with a producer index
`head` and a consumer index `tail`, both kept below the capacity by masking with
`Capacity - 1`. One slot always stays empty, so `head = tail` means empty and
`increment head = tail` means full.

The capacity carries the two `static_assert`s of the class (`Capacity`); from them
`Capacity.eq_two_pow` recovers that it is a power of two, which is what makes the mask a
remainder (`increment_eq`).

The operations here are the ones a single thread sees, each as one atomic step: the
sequential refinement `run_refines` says the ring behaves as a bounded FIFO list of
`Capacity - 1` elements under every operation sequence, from any state. The interleaving of
the individual loads and stores of `try_push` and `try_pop` is `Spsc/Concurrent.lean`.
-/

namespace ItchFeedHandler

/-- The `Capacity` template argument of `RingBuffer`, with its two `static_assert`s:
`Capacity > 0` and `(Capacity & (Capacity - 1)) == 0`. -/
structure Capacity where
  val : Nat
  pos : 0 < val
  pow2 : val &&& (val - 1) = 0

namespace Capacity

/-- A number between `2 ^ k` and `2 ^ (k + 1)` has bit `k` set. -/
private theorem testBit_of_le_of_lt {x k : Nat} (h1 : 2 ^ k ≤ x) (h2 : x < 2 ^ (k + 1)) :
    x.testBit k = true := by
  obtain ⟨y, rfl⟩ := Nat.exists_eq_add_of_le h1
  rw [Nat.testBit_two_pow_add_eq, Nat.testBit_lt_two_pow (by rw [Nat.pow_succ] at h2; omega)]
  rfl

/-- **The `static_assert`s make the capacity a power of two**: otherwise the top bit of the
capacity is also set in `Capacity - 1`. -/
theorem eq_two_pow (N : Capacity) : N.val = 2 ^ N.val.log2 := by
  have h1 := Nat.log2_self_le (Nat.pos_iff_ne_zero.mp N.pos)
  have h2 := Nat.lt_log2_self (n := N.val)
  by_contra hne
  have hbit : (N.val &&& (N.val - 1)).testBit N.val.log2 = true := by
    rw [Nat.testBit_and, testBit_of_le_of_lt h1 h2, testBit_of_le_of_lt (by omega) (by omega)]
    rfl
  rw [N.pow2, Nat.zero_testBit] at hbit
  exact Bool.false_ne_true hbit

/-- Masking with `Capacity - 1` is reduction modulo the capacity. -/
theorem and_sub_one (N : Capacity) (i : Nat) : i &&& (N.val - 1) = i % N.val := by
  rw [N.eq_two_pow, Nat.and_pow_two_sub_one_eq_mod]

end Capacity

/-- `RingBuffer<T, Capacity>`: the storage array `buffer_` and the indices `head_` (written by
the producer only) and `tail_` (written by the consumer only), both below the capacity. -/
structure RingBuffer (α : Type) (N : Capacity) where
  buffer : Fin N.val → α
  head : Nat
  tail : Nat
  head_lt : head < N.val
  tail_lt : tail < N.val

namespace RingBuffer

variable {α : Type} {N : Capacity}

/-- `increment`: the next index, wrapped by masking with `Capacity - 1`. -/
def increment (N : Capacity) (index : Nat) : Nat := (index + 1) &&& (N.val - 1)

theorem increment_eq (index : Nat) : increment N index = (index + 1) % N.val :=
  N.and_sub_one _

theorem increment_lt (index : Nat) : increment N index < N.val := by
  rw [increment_eq]; exact Nat.mod_lt _ N.pos

/-- `RingBuffer()`: both indices zero and every slot value-initialised (`T{}`). -/
def new [Inhabited α] : RingBuffer α N := ⟨fun _ => default, 0, 0, N.pos, N.pos⟩

/-- `increment` of an index, as an index of the storage. -/
def next (N : Capacity) (index : Nat) : Fin N.val := ⟨increment N index, increment_lt index⟩

/-- `buffer_[i] = item`. -/
def writeSlot (r : RingBuffer α N) (i : Fin N.val) (item : α) : RingBuffer α N :=
  { r with buffer := Function.update r.buffer i item }

/-- `head_.store(h)`. -/
def storeHead (r : RingBuffer α N) (h : Fin N.val) : RingBuffer α N :=
  { r with head := h, head_lt := h.isLt }

/-- `tail_.store(t)`. -/
def storeTail (r : RingBuffer α N) (t : Fin N.val) : RingBuffer α N :=
  { r with tail := t, tail_lt := t.isLt }

/-- `try_push`: fails when the slot after `head` is `tail`; otherwise writes the slot at
`head` and then publishes the incremented `head`. -/
def tryPush (r : RingBuffer α N) (item : α) : Bool × RingBuffer α N :=
  if increment N r.head = r.tail then (false, r)
  else (true, (r.writeSlot ⟨r.head, r.head_lt⟩ item).storeHead (next N r.head))

/-- `try_pop`: empty when `tail = head`; otherwise reads the slot at `tail` and then publishes
the incremented `tail`. -/
def tryPop (r : RingBuffer α N) : Option α × RingBuffer α N :=
  if r.tail = r.head then (none, r)
  else (some (r.buffer ⟨r.tail, r.tail_lt⟩), r.storeTail (next N r.tail))

/-- `peek`: the slot at `tail`, unless the ring is empty. -/
def peek (r : RingBuffer α N) : Option α :=
  if r.tail = r.head then none else some (r.buffer ⟨r.tail, r.tail_lt⟩)

/-- `empty()`. -/
def empty (r : RingBuffer α N) : Bool := r.head = r.tail

/-- `full()`. -/
def full (r : RingBuffer α N) : Bool := increment N r.head = r.tail

/-- `size()`, with its two branches. -/
def size (r : RingBuffer α N) : Nat :=
  if r.head ≥ r.tail then r.head - r.tail else N.val - r.tail + r.head

/-- `available()`: `Capacity - size() - 1`; `available_add_size` says it never wraps. -/
def available (r : RingBuffer α N) : Nat := N.val - r.size - 1

/-- The slot `i` positions into the storage, taken modulo the capacity. -/
def slot (r : RingBuffer α N) (i : Nat) : α := r.buffer ⟨i % N.val, Nat.mod_lt _ N.pos⟩

/-- **Abstraction**: the live records, oldest first — the slots `tail, tail + 1, …` up to
`head`, taken modulo the capacity. -/
def contents (r : RingBuffer α N) : List α := (List.range r.size).map fun i => r.slot (r.tail + i)

/-! ### The size as a distance -/

/-- Two positions less than a capacity apart never share a slot. -/
theorem mod_ne_of_lt {t i j : Nat} (hij : i < j) (hj : j < N.val) :
    (t + i) % N.val ≠ (t + j) % N.val := fun h => by
  have h' : i % N.val = j % N.val := Nat.ModEq.add_left_cancel' t h
  rw [Nat.mod_eq_of_lt (by omega), Nat.mod_eq_of_lt hj] at h'
  omega

theorem size_lt (r : RingBuffer α N) : r.size < N.val := by
  have := r.head_lt; have := r.tail_lt
  unfold size; split <;> omega

/-- `head` is `size` slots past `tail`. -/
theorem tail_add_size (r : RingBuffer α N) : (r.tail + r.size) % N.val = r.head := by
  have := r.head_lt; have := r.tail_lt
  unfold size
  split
  · rw [Nat.add_sub_cancel' ‹_›, Nat.mod_eq_of_lt r.head_lt]
  · rw [show r.tail + (N.val - r.tail + r.head) = r.head + N.val by omega, Nat.add_mod_right,
      Nat.mod_eq_of_lt r.head_lt]

/-- The size is the only distance below the capacity from `tail` to `head`. -/
theorem size_unique (r : RingBuffer α N) {s : Nat} (hs : s < N.val)
    (h : (r.tail + s) % N.val = r.head) : r.size = s := by
  by_contra hne
  rcases Nat.lt_or_gt_of_ne hne with hlt | hlt
  · exact mod_ne_of_lt hlt hs (r.tail_add_size.trans h.symm)
  · exact mod_ne_of_lt hlt r.size_lt (h.trans r.tail_add_size.symm)

@[simp] theorem length_contents (r : RingBuffer α N) : r.contents.length = r.size := by
  simp [contents]

/-- A new ring is empty. -/
@[simp] theorem contents_new [Inhabited α] : (RingBuffer.new : RingBuffer α N).contents = [] := by
  simp [RingBuffer.new, contents, size]

theorem empty_iff (r : RingBuffer α N) : r.tail = r.head ↔ r.size = 0 := by
  constructor
  · intro h; exact r.size_unique N.pos (by rw [Nat.add_zero, Nat.mod_eq_of_lt r.tail_lt, h])
  · intro h; have := r.tail_add_size; rwa [h, Nat.add_zero, Nat.mod_eq_of_lt r.tail_lt] at this

theorem full_iff (r : RingBuffer α N) : increment N r.head = r.tail ↔ r.size = N.val - 1 := by
  have hpos := N.pos
  rw [increment_eq, ← r.tail_add_size, Nat.mod_add_mod, Nat.add_assoc]
  constructor
  · intro h
    by_contra hne
    have hs := r.size_lt
    refine mod_ne_of_lt (N := N) (t := r.tail) (i := 0) (j := r.size + 1) (by omega) (by omega) ?_
    rw [Nat.add_zero, Nat.mod_eq_of_lt r.tail_lt]; exact h.symm
  · intro h
    rw [h, Nat.sub_add_cancel hpos, Nat.add_mod_right, Nat.mod_eq_of_lt r.tail_lt]

/-! ### What each memory operation does to the contents -/

@[simp] theorem writeSlot_head (r : RingBuffer α N) (i : Fin N.val) (x : α) :
    (r.writeSlot i x).head = r.head := rfl

@[simp] theorem writeSlot_tail (r : RingBuffer α N) (i : Fin N.val) (x : α) :
    (r.writeSlot i x).tail = r.tail := rfl

@[simp] theorem writeSlot_size (r : RingBuffer α N) (i : Fin N.val) (x : α) :
    (r.writeSlot i x).size = r.size := rfl

@[simp] theorem storeHead_tail (r : RingBuffer α N) (h : Fin N.val) :
    (r.storeHead h).tail = r.tail := rfl

@[simp] theorem storeTail_head (r : RingBuffer α N) (t : Fin N.val) :
    (r.storeTail t).head = r.head := rfl

@[simp] theorem storeHead_head (r : RingBuffer α N) (h : Fin N.val) :
    (r.storeHead h).head = h.val := rfl

@[simp] theorem storeTail_tail (r : RingBuffer α N) (t : Fin N.val) :
    (r.storeTail t).tail = t.val := rfl

@[simp] theorem next_val (index : Nat) : (next N index).val = increment N index := rfl

theorem slot_writeSlot (r : RingBuffer α N) (i : Fin N.val) (x : α) (j : Nat) :
    (r.writeSlot i x).slot j = if j % N.val = i.val then x else r.slot j := by
  simp only [slot, writeSlot, Function.update_apply, Fin.ext_iff]

@[simp] theorem slot_storeHead (r : RingBuffer α N) (h : Fin N.val) (i : Nat) :
    (r.storeHead h).slot i = r.slot i := rfl

@[simp] theorem slot_storeTail (r : RingBuffer α N) (t : Fin N.val) (i : Nat) :
    (r.storeTail t).slot i = r.slot i := rfl

theorem slot_congr (r : RingBuffer α N) {i j : Nat} (h : i % N.val = j % N.val) :
    r.slot i = r.slot j := by
  simp only [slot, h]

theorem slot_of_lt (r : RingBuffer α N) {i : Nat} (h : i < N.val) : r.slot i = r.buffer ⟨i, h⟩ := by
  simp only [slot, Nat.mod_eq_of_lt h]

/-- The slot at `head` is not live: writing it leaves the contents alone. -/
theorem contents_writeSlot_head (r : RingBuffer α N) (x : α) :
    (r.writeSlot ⟨r.head, r.head_lt⟩ x).contents = r.contents := by
  refine List.map_congr_left fun i hi => ?_
  have hne : (r.tail + i) % N.val ≠ r.head := by
    rw [← r.tail_add_size]; exact mod_ne_of_lt (List.mem_range.mp hi) r.size_lt
  simp only [slot_writeSlot, writeSlot_tail, hne, if_false]

/-- Publishing the incremented `head` makes the slot at `head` the newest record. -/
theorem contents_storeHead_next (r : RingBuffer α N) (h : r.size < N.val - 1) :
    (r.storeHead (next N r.head)).contents = r.contents ++ [r.slot r.head] := by
  have hsize : (r.storeHead (next N r.head)).size = r.size + 1 := by
    refine size_unique _ (by omega) ?_
    rw [storeHead_tail, storeHead_head, next_val, increment_eq, ← r.tail_add_size,
      Nat.mod_add_mod, Nat.add_assoc]
  simp only [contents, hsize, List.range_succ, List.map_append, List.map_cons, List.map_nil,
    slot_storeHead, storeHead_tail]
  rw [r.slot_congr (j := r.head) (by rw [r.tail_add_size, Nat.mod_eq_of_lt r.head_lt])]

/-- Publishing the incremented `tail` of a nonempty ring drops the oldest record. -/
theorem contents_storeTail_next (r : RingBuffer α N) (h : r.tail ≠ r.head) :
    (r.storeTail (next N r.tail)).contents = r.contents.tail := by
  have h0 : r.size ≠ 0 := fun h0 => h ((r.empty_iff).mpr h0)
  obtain ⟨s, hs⟩ : ∃ s, r.size = s + 1 := ⟨r.size - 1, by omega⟩
  have hsize : (r.storeTail (next N r.tail)).size = s := by
    refine size_unique _ (by have := r.size_lt; omega) ?_
    rw [storeTail_head, storeTail_tail, next_val, increment_eq, Nat.mod_add_mod,
      ← r.tail_add_size, hs, Nat.add_assoc, Nat.add_comm 1 s]
  simp only [contents, hsize, hs, List.range_succ_eq_map, List.map_cons, List.tail_cons,
    List.map_map]
  refine List.map_congr_left fun i _ => ?_
  simp only [Function.comp, slot, storeTail, next, increment_eq, Nat.mod_add_mod,
    Nat.succ_eq_add_one, Nat.add_assoc, Nat.add_comm 1 i]

/-- The record at `tail` is the oldest live one. -/
theorem contents_head? (r : RingBuffer α N) :
    r.contents.head? = if r.tail = r.head then none else some (r.slot r.tail) := by
  by_cases h : r.tail = r.head
  · simp [h, contents, (r.empty_iff).mp h]
  · have h0 : r.size ≠ 0 := fun h0 => h ((r.empty_iff).mpr h0)
    obtain ⟨s, hs⟩ : ∃ s, r.size = s + 1 := ⟨r.size - 1, by omega⟩
    simp [h, contents, hs, List.range_succ_eq_map]

/-! ### What each call does to the contents -/

theorem tryPush_fst (r : RingBuffer α N) (x : α) :
    (r.tryPush x).1 = decide (r.size < N.val - 1) := by
  have := r.size_lt
  by_cases hf : increment N r.head = r.tail
  · have := (r.full_iff).mp hf; simp [tryPush, hf]; omega
  · have : r.size ≠ N.val - 1 := fun h => hf ((r.full_iff).mpr h)
    simp [tryPush, hf]; omega

/-- A push appends the item exactly when the ring is not full. -/
theorem contents_tryPush (r : RingBuffer α N) (x : α) :
    (r.tryPush x).2.contents = if r.size < N.val - 1 then r.contents ++ [x] else r.contents := by
  split
  · have hnf : increment N r.head ≠ r.tail := fun hf => by rw [r.full_iff] at hf; omega
    have h1 := contents_storeHead_next (r.writeSlot ⟨r.head, r.head_lt⟩ x) (by rwa [writeSlot_size])
    rw [contents_writeSlot_head, slot_writeSlot, writeSlot_head, Nat.mod_eq_of_lt r.head_lt,
      if_pos rfl] at h1
    rw [tryPush, if_neg hnf]
    exact h1
  · have : increment N r.head = r.tail := (r.full_iff).mpr (by have := r.size_lt; omega)
    simp [tryPush, this]

/-- A push grows the ring by one exactly when it is not full. -/
theorem size_tryPush (r : RingBuffer α N) (x : α) :
    (r.tryPush x).2.size = if r.size < N.val - 1 then r.size + 1 else r.size := by
  rw [← length_contents, contents_tryPush, ← length_contents]
  split <;> simp

theorem tryPop_fst (r : RingBuffer α N) : r.tryPop.1 = r.contents.head? := by
  rw [contents_head?, slot_of_lt r r.tail_lt]; unfold tryPop; split <;> rfl

theorem peek_eq (r : RingBuffer α N) : r.peek = r.contents.head? := by
  rw [contents_head?, slot_of_lt r r.tail_lt]; rfl

/-- A pop drops the oldest record. -/
theorem contents_tryPop (r : RingBuffer α N) : r.tryPop.2.contents = r.contents.tail := by
  by_cases h : r.tail = r.head
  · simp [tryPop, h, contents, (r.empty_iff).mp h]
  · rw [tryPop, if_neg h]
    exact contents_storeTail_next r h

theorem empty_eq (r : RingBuffer α N) : r.empty = r.contents.isEmpty := by
  rw [empty, Bool.eq_iff_iff, decide_eq_true_iff, List.isEmpty_iff, ← List.length_eq_zero,
    length_contents, ← r.empty_iff, eq_comm]

theorem full_eq (r : RingBuffer α N) : r.full = (r.contents.length == N.val - 1) := by
  rw [full, Bool.eq_iff_iff, decide_eq_true_iff, beq_iff_eq, length_contents, r.full_iff]

/-- `available() + size() + 1 = Capacity`: the subtractions in `available` never wrap. -/
theorem available_add_size (r : RingBuffer α N) : r.available + r.size + 1 = N.val := by
  have := r.size_lt; unfold available; omega

/-! ### Sequential refinement of a bounded FIFO queue -/

/-- A call on the ring, one operation of its public interface. -/
inductive Op (α : Type)
  | tryPush (item : α)
  | tryPop
  | peek
  | size
  | empty
  | full
  | available

/-- What a call returns. -/
inductive Result (α : Type)
  | flag (b : Bool)
  | item (x : Option α)
  | count (n : Nat)
  deriving DecidableEq

/-- One call on the ring. -/
def exec : Op α → RingBuffer α N → Result α × RingBuffer α N
  | .tryPush x, r => (.flag (r.tryPush x).1, (r.tryPush x).2)
  | .tryPop, r => (.item r.tryPop.1, r.tryPop.2)
  | .peek, r => (.item r.peek, r)
  | .size, r => (.count r.size, r)
  | .empty, r => (.flag r.empty, r)
  | .full, r => (.flag r.full, r)
  | .available, r => (.count r.available, r)

/-- A sequence of calls, with the results in call order. -/
def run (r : RingBuffer α N) : List (Op α) → List (Result α) × RingBuffer α N
  | [] => ([], r)
  | o :: os => ((exec o r).1 :: (run (exec o r).2 os).1, (run (exec o r).2 os).2)

end RingBuffer

/-- A FIFO list bounded by `cap` elements, in the words of the specification: a push succeeds
iff there is room and appends, a pop returns and drops the head. -/
def BoundedQueue.exec {α : Type} (cap : Nat) : RingBuffer.Op α → List α →
    RingBuffer.Result α × List α
  | .tryPush x, q => if q.length < cap then (.flag true, q ++ [x]) else (.flag false, q)
  | .tryPop, q => (.item q.head?, q.tail)
  | .peek, q => (.item q.head?, q)
  | .size, q => (.count q.length, q)
  | .empty, q => (.flag q.isEmpty, q)
  | .full, q => (.flag (q.length == cap), q)
  | .available, q => (.count (cap - q.length), q)

/-- A sequence of calls on the bounded queue. -/
def BoundedQueue.run {α : Type} (cap : Nat) (q : List α) :
    List (RingBuffer.Op α) → List (RingBuffer.Result α) × List α
  | [] => ([], q)
  | o :: os => ((exec cap o q).1 :: (run cap (exec cap o q).2 os).1, (run cap (exec cap o q).2 os).2)

namespace RingBuffer

variable {α : Type} {N : Capacity}

/-- One call: the ring and the bounded queue of its contents return the same result and
end with the same contents. -/
theorem exec_refines (o : Op α) (r : RingBuffer α N) :
    (exec o r).1 = (BoundedQueue.exec (N.val - 1) o r.contents).1 ∧
      (exec o r).2.contents = (BoundedQueue.exec (N.val - 1) o r.contents).2 := by
  cases o with
  | tryPush x =>
    simp only [exec, BoundedQueue.exec, tryPush_fst, contents_tryPush, length_contents]
    split <;> simp [*]
  | tryPop => exact ⟨by simp [exec, BoundedQueue.exec, tryPop_fst], contents_tryPop r⟩
  | peek => exact ⟨by simp [exec, BoundedQueue.exec, peek_eq], rfl⟩
  | size => exact ⟨by simp [exec, BoundedQueue.exec], rfl⟩
  | empty => exact ⟨by simp [exec, BoundedQueue.exec, empty_eq], rfl⟩
  | full => exact ⟨by simp [exec, BoundedQueue.exec, full_eq], rfl⟩
  | available =>
    refine ⟨?_, rfl⟩
    have := r.available_add_size
    simp only [exec, BoundedQueue.exec, length_contents, Result.count.injEq]
    omega

/-- **Sequential refinement.** From any state, under every sequence of calls, the ring returns
exactly what a FIFO list bounded by `Capacity - 1` returns, its contents stay that list, and
`available() + size() + 1 = Capacity` (so `available` never wraps). -/
theorem run_refines (r : RingBuffer α N) (ops : List (Op α)) :
    (r.run ops).1 = (BoundedQueue.run (N.val - 1) r.contents ops).1 ∧
      (r.run ops).2.contents = (BoundedQueue.run (N.val - 1) r.contents ops).2 ∧
      (r.run ops).2.available + (r.run ops).2.size + 1 = N.val := by
  induction ops generalizing r with
  | nil => exact ⟨rfl, rfl, r.available_add_size⟩
  | cons o os ih =>
    obtain ⟨h1, h2⟩ := exec_refines o r
    obtain ⟨ih1, ih2, ih3⟩ := ih (exec o r).2
    simp only [run, BoundedQueue.run, h1, ← h2, ih1, ih2, ih3, and_self]

end RingBuffer

end ItchFeedHandler
