import ItchFeedHandler.Spsc.RingBuffer

/-!
# Batch operations on the ring

`BatchRingBuffer<T, Capacity>` of `spsc/ring_buffer.hpp` adds two loops over the single calls:
`try_push_batch(items, count)` calls `try_push` on `items[0]`, `items[1]`, ... and stops at the
first call that fails, and `try_pop_batch(items, max_count)` calls `try_pop` at most
`max_count` times, writing each item it gets to `items[i]`, and stops at the first call that
finds the ring empty. Each returns the number of calls that succeeded. The `count` items a
caller passes are a list here, and the items a batch pop writes are the list of them in order.

* `tryPushBatch_contents`: a batch push takes the first `min count available()` items, in
  order, and returns that number; `tryPopBatch_contents`: a batch pop hands over the first
  `min max_count size()` items of the ring, oldest first, and returns that number.
* `batch_agrees_with_single_calls`: a batch does what the single calls do. The early `break`
  of `try_push_batch` loses nothing: once a push fails the ring is full, and every later
  `try_push` of the items would fail too (`contents_run_tryPush`).
-/

namespace ItchFeedHandler

namespace RingBuffer

variable {α : Type} {N : Capacity}

/-- The loop of `try_push_batch` over the items left, with `pushed` counted so far. -/
def tryPushBatchFrom (r : RingBuffer α N) (pushed : Nat) : List α → Nat × RingBuffer α N
  | [] => (pushed, r)
  | item :: items =>
    if !(r.tryPush item).1 then (pushed, (r.tryPush item).2)
    else (r.tryPush item).2.tryPushBatchFrom (pushed + 1) items

/-- `try_push_batch(items, count)`: the number of items pushed and the ring after. -/
def tryPushBatch (r : RingBuffer α N) (items : List α) : Nat × RingBuffer α N :=
  r.tryPushBatchFrom 0 items

/-- The loop of `try_pop_batch` with `n` iterations left, `popped` counted and the items
written to `items[0 .. popped)` so far. -/
def tryPopBatchFrom (r : RingBuffer α N) (popped : Nat) (items : List α) :
    Nat → Nat × List α × RingBuffer α N
  | 0 => (popped, items, r)
  | n + 1 =>
    match r.tryPop with
    | (some item, r') => r'.tryPopBatchFrom (popped + 1) (items ++ [item]) n
    | (none, r') => (popped, items, r')

/-- `try_pop_batch(items, max_count)`: the number of items popped, the items written, and the
ring after. -/
def tryPopBatch (r : RingBuffer α N) (maxCount : Nat) : Nat × List α × RingBuffer α N :=
  r.tryPopBatchFrom 0 [] maxCount

/-! ### What a batch takes -/

theorem tryPushBatchFrom_contents (r : RingBuffer α N) (pushed : Nat) (items : List α) :
    (r.tryPushBatchFrom pushed items).1 = pushed + min items.length r.available ∧
      (r.tryPushBatchFrom pushed items).2.contents = r.contents ++ items.take r.available := by
  induction items generalizing r pushed with
  | nil => simp [tryPushBatchFrom]
  | cons x xs ih =>
    have hr := r.available_add_size
    by_cases hs : r.size < N.val - 1
    · have hr' := (r.tryPush x).2.available_add_size
      rw [size_tryPush r x, if_pos hs] at hr'
      obtain ⟨ih1, ih2⟩ := ih (r.tryPush x).2 (pushed + 1)
      have hav : r.available = (r.tryPush x).2.available + 1 := by omega
      rw [tryPushBatchFrom, tryPush_fst, decide_eq_true hs, Bool.not_true, if_neg Bool.false_ne_true,
        ih1, ih2, contents_tryPush, if_pos hs, hav, List.take_succ_cons, List.length_cons,
        List.append_assoc, List.singleton_append]
      exact ⟨by omega, rfl⟩
    · have hav : r.available = 0 := by omega
      rw [tryPushBatchFrom, tryPush_fst, decide_eq_false hs, Bool.not_false, if_pos rfl,
        contents_tryPush, if_neg hs, hav, List.take_zero, List.append_nil]
      exact ⟨by omega, rfl⟩

/-- **A batch push** takes the first `min count available()` items, in order. -/
theorem tryPushBatch_contents (r : RingBuffer α N) (items : List α) :
    (r.tryPushBatch items).1 = min items.length r.available ∧
      (r.tryPushBatch items).2.contents = r.contents ++ items.take r.available := by
  rw [tryPushBatch, (tryPushBatchFrom_contents r 0 items).1, Nat.zero_add]
  exact ⟨rfl, (tryPushBatchFrom_contents r 0 items).2⟩

theorem tryPopBatchFrom_contents (r : RingBuffer α N) (popped : Nat) (items : List α) (n : Nat) :
    (r.tryPopBatchFrom popped items n).1 = popped + min n r.size ∧
      (r.tryPopBatchFrom popped items n).2.1 = items ++ r.contents.take n ∧
      (r.tryPopBatchFrom popped items n).2.2.contents = r.contents.drop n := by
  induction n generalizing r popped items with
  | zero => simp [tryPopBatchFrom]
  | succ n ih =>
    have hpop := r.tryPop_fst
    have hrest := r.contents_tryPop
    rw [tryPopBatchFrom]
    split
    · next x r' hx =>
      rw [hx] at hpop hrest
      obtain ⟨ih1, ih2, ih3⟩ := ih r' (popped + 1) (items ++ [x])
      obtain ⟨c, cs, hc⟩ : ∃ c cs, r.contents = c :: cs := by
        cases h : r.contents <;> simp_all
      rw [hc, List.head?_cons, Option.some.injEq] at hpop
      rw [hc, List.tail_cons] at hrest
      have hsz : r.size = r'.size + 1 := by
        rw [← length_contents, ← length_contents, hc, hrest, List.length_cons]
      rw [ih1, ih2, ih3, hc, hrest, hsz, hpop, List.take_succ_cons, List.drop_succ_cons,
        List.append_assoc, List.singleton_append]
      exact ⟨by omega, rfl, rfl⟩
    · next r' hx =>
      rw [hx] at hpop hrest
      have he : r.contents = [] := List.head?_eq_none_iff.mp hpop.symm
      have hsz : r.size = 0 := by rw [← length_contents, he, List.length_nil]
      rw [he, List.tail_nil] at hrest
      rw [he, hsz, List.take_nil, List.drop_nil, List.append_nil]
      exact ⟨by simp, rfl, hrest⟩

/-- **A batch pop** hands over the first `min max_count size()` items, oldest first, and
removes them. -/
theorem tryPopBatch_contents (r : RingBuffer α N) (maxCount : Nat) :
    (r.tryPopBatch maxCount).1 = min maxCount r.size ∧
      (r.tryPopBatch maxCount).2.1 = r.contents.take maxCount ∧
      (r.tryPopBatch maxCount).2.2.contents = r.contents.drop maxCount := by
  obtain ⟨h1, h2, h3⟩ := tryPopBatchFrom_contents r 0 [] maxCount
  rw [Nat.zero_add, List.nil_append] at *
  exact ⟨h1, h2, h3⟩

/-! ### A batch is its single calls -/

/-- `try_push` on every item of a list, whether or not the earlier pushes failed. -/
theorem contents_run_tryPush (r : RingBuffer α N) (items : List α) :
    (r.run (items.map Op.tryPush)).2.contents = r.contents ++ items.take r.available := by
  induction items generalizing r with
  | nil => simp [run]
  | cons x xs ih =>
    have hr := r.available_add_size
    simp only [List.map_cons, run, exec, ih]
    by_cases hs : r.size < N.val - 1
    · have hr' := (r.tryPush x).2.available_add_size
      rw [size_tryPush r x, if_pos hs] at hr'
      rw [contents_tryPush, if_pos hs, show r.available = (r.tryPush x).2.available + 1 by omega,
        List.take_succ_cons, List.append_assoc, List.singleton_append]
    · have hr' := (r.tryPush x).2.available_add_size
      have hsz : (r.tryPush x).2.size = r.size := by
        rw [← length_contents, ← length_contents, contents_tryPush, if_neg hs]
      rw [contents_tryPush, if_neg hs, show (r.tryPush x).2.available = 0 by omega,
        show r.available = 0 by omega, List.take_zero, List.take_zero]

/-- `try_pop` called `n` times: the items it returns and the ring after. -/
theorem run_tryPop (r : RingBuffer α N) (n : Nat) :
    (r.run (List.replicate n Op.tryPop)).2.contents = r.contents.drop n ∧
      ((r.run (List.replicate n Op.tryPop)).1.filterMap fun
        | .item x => x
        | _ => none) = r.contents.take n := by
  induction n generalizing r with
  | zero => exact ⟨rfl, rfl⟩
  | succ n ih =>
    obtain ⟨ih1, ih2⟩ := ih r.tryPop.2
    simp only [List.replicate_succ, run, exec, List.filterMap_cons, ih1, ih2, contents_tryPop,
      tryPop_fst]
    cases r.contents <;> simp

/-- **A batch is its single calls.** From any state: `try_push_batch` takes the first
`min count available()` items, in order, and returns that number, and it leaves the ring as
`try_push` on every one of the items would, so its early `break` loses nothing;
`try_pop_batch` writes the first `min max_count size()` items of the ring, oldest first,
returns that number, and leaves the ring, and hands over the items, as `max_count` calls of
`try_pop` would. -/
theorem batch_agrees_with_single_calls (r : RingBuffer α N) (items : List α) (maxCount : Nat) :
    (r.tryPushBatch items).1 = min items.length r.available ∧
      (r.tryPushBatch items).2.contents = r.contents ++ items.take r.available ∧
      (r.tryPushBatch items).2.contents = (r.run (items.map Op.tryPush)).2.contents ∧
      (r.tryPopBatch maxCount).1 = min maxCount r.size ∧
      (r.tryPopBatch maxCount).2.1 = r.contents.take maxCount ∧
      (r.tryPopBatch maxCount).2.2.contents = (r.run (List.replicate maxCount Op.tryPop)).2.contents ∧
      (r.tryPopBatch maxCount).2.1 = ((r.run (List.replicate maxCount Op.tryPop)).1.filterMap fun
        | .item x => x
        | _ => none) := by
  obtain ⟨hp1, hp2⟩ := tryPushBatch_contents r items
  obtain ⟨hq1, hq2, hq3⟩ := tryPopBatch_contents r maxCount
  obtain ⟨hs1, hs2⟩ := run_tryPop r maxCount
  exact ⟨hp1, hp2, hp2.trans (contents_run_tryPush r items).symm, hq1, hq2, hq3.trans hs1.symm,
    hq2.trans hs2.symm⟩

end RingBuffer

end ItchFeedHandler
