import ItchFeedHandler.Spsc.RingBuffer

/-!
# Every interleaving of `try_push` and `try_pop`

The producer's `try_push` and the consumer's `try_pop` are each split into their four atomic
steps, as the source orders them:

* `try_push(item)`: load `head` (relaxed), load `tail` (acquire) and compare with the
  incremented `head`, write `buffer_[current_head]`, store `head` (release);
* `try_pop()`: load `tail` (relaxed), load `head` (acquire) and compare, read
  `buffer_[current_tail]`, store `tail` (release).

Each side keeps its program counter and its locals (`Producer`, `Consumer`), and the shared
memory is a `RingBuffer`. An `Action` picks which side moves next, so a list of actions is an
arbitrary interleaving under sequential consistency. Two ghost logs record what completed
`try_push` calls were given and what completed `try_pop` calls returned.

The invariant `Inv` ties the locals to the shared indices and says that the log of pushes is
the log of pops followed by the live contents of the ring; `fifo_of_interleaving` derives
from it that pops return a prefix of pushes, and that the slot the consumer is about to read
is never the slot the producer is writing or has yet to publish.
-/

namespace ItchFeedHandler

namespace Spsc

open RingBuffer

/-- The producer's position inside `try_push`, with its locals. -/
inductive Producer (α : Type) (N : Capacity)
  /-- not inside `try_push` -/
  | idle
  /-- `current_head` loaded from `head_` -/
  | headLoaded (item : α) (currentHead : Fin N.val)
  /-- `tail_` loaded and found different from `increment(current_head)` -/
  | slotFree (item : α) (currentHead : Fin N.val)
  /-- `buffer_[current_head] = item` done, `head_` not yet stored -/
  | slotWritten (item : α) (currentHead : Fin N.val)

/-- The consumer's position inside `try_pop`, with its locals. -/
inductive Consumer (α : Type) (N : Capacity)
  /-- not inside `try_pop` -/
  | idle
  /-- `current_tail` loaded from `tail_` -/
  | tailLoaded (currentTail : Fin N.val)
  /-- `head_` loaded and found different from `current_tail` -/
  | slotReady (currentTail : Fin N.val)
  /-- `T item = buffer_[current_tail]` done, `tail_` not yet stored -/
  | slotRead (currentTail : Fin N.val) (item : α)

/-- The shared ring, both program counters, and the ghost logs of completed calls. -/
structure State (α : Type) (N : Capacity) where
  ring : RingBuffer α N
  producer : Producer α N
  consumer : Consumer α N
  /-- the items of the `try_push` calls that returned `true`, in order -/
  pushed : List α
  /-- the items returned by `try_pop` calls, in order -/
  popped : List α

/-- Which side takes the next atomic step. -/
inductive Action (α : Type)
  /-- the producer, when idle, calls `try_push(item)` and loads `head` -/
  | push (item : α)
  /-- the producer takes the next step of its current `try_push` -/
  | produce
  /-- the consumer takes the next step of `try_pop`, calling it when idle -/
  | consume

variable {α : Type} {N : Capacity}

namespace State

/-- The state before any call: a fresh ring, both sides idle. -/
def init [Inhabited α] : State α N := ⟨RingBuffer.new, .idle, .idle, [], []⟩

/-- The producer calls `try_push(item)`: `current_head = head_.load(relaxed)`. -/
def startPush (s : State α N) (item : α) : State α N :=
  match s.producer with
  | .idle => { s with producer := .headLoaded item ⟨s.ring.head, s.ring.head_lt⟩ }
  | _ => s

/-- The producer's next atomic step inside `try_push`. -/
def stepProducer (s : State α N) : State α N :=
  match s.producer with
  | .idle => s
  | .headLoaded item h =>
    if increment N h = s.ring.tail then { s with producer := .idle }
    else { s with producer := .slotFree item h }
  | .slotFree item h => { s with ring := s.ring.writeSlot h item, producer := .slotWritten item h }
  | .slotWritten item h =>
    { s with ring := s.ring.storeHead (next N h), producer := .idle, pushed := s.pushed ++ [item] }

/-- The consumer's next atomic step of `try_pop`. -/
def stepConsumer (s : State α N) : State α N :=
  match s.consumer with
  | .idle => { s with consumer := .tailLoaded ⟨s.ring.tail, s.ring.tail_lt⟩ }
  | .tailLoaded t =>
    if t.val = s.ring.head then { s with consumer := .idle } else { s with consumer := .slotReady t }
  | .slotReady t => { s with consumer := .slotRead t (s.ring.buffer t) }
  | .slotRead t item =>
    { s with ring := s.ring.storeTail (next N t), consumer := .idle, popped := s.popped ++ [item] }

/-- One atomic step of the side the action names. -/
def step (s : State α N) : Action α → State α N
  | .push item => s.startPush item
  | .produce => s.stepProducer
  | .consume => s.stepConsumer

/-- An interleaving: the actions in order. -/
def run (s : State α N) (acts : List (Action α)) : State α N := acts.foldl step s

/-- The slot the consumer reads at its next step, if that step is the read. -/
def readSlot (s : State α N) : Option Nat :=
  match s.consumer with
  | .slotReady t => some t.val
  | _ => none

/-- The slot the producer is writing or has written but not yet published. -/
def writeSlot (s : State α N) : Option Nat :=
  match s.producer with
  | .slotFree _ h => some h.val
  | .slotWritten _ h => some h.val
  | _ => none

/-! ### The invariant -/

/-- What the producer's locals know about the shared ring. -/
def ProducerInv (r : RingBuffer α N) : Producer α N → Prop
  | .idle => True
  | .headLoaded _ h => h.val = r.head
  | .slotFree _ h => h.val = r.head ∧ r.size < N.val - 1
  | .slotWritten item h => h.val = r.head ∧ r.size < N.val - 1 ∧ r.slot h = item

/-- What the consumer's locals know about the shared ring. -/
def ConsumerInv (r : RingBuffer α N) : Consumer α N → Prop
  | .idle => True
  | .tailLoaded t => t.val = r.tail
  | .slotReady t => t.val = r.tail ∧ r.tail ≠ r.head
  | .slotRead t item => t.val = r.tail ∧ r.tail ≠ r.head ∧ r.slot t = item

/-- **The invariant**: each side's locals are consistent with the shared indices, and the
pushes are the pops followed by the live contents. -/
structure Inv (s : State α N) : Prop where
  producer : ProducerInv s.ring s.producer
  consumer : ConsumerInv s.ring s.consumer
  log : s.pushed = s.popped ++ s.ring.contents

/-! ### Each step keeps the invariant -/

/-- A producer step keeps what the consumer knows: it leaves `tail` and the slot at a live
`tail` alone, and never empties the ring. -/
private theorem consumerInv_frame {r q : RingBuffer α N} {c : Consumer α N}
    (hc : ConsumerInv r c) (htail : q.tail = r.tail) (hne : r.tail ≠ r.head → q.tail ≠ q.head)
    (hslot : r.tail ≠ r.head → q.slot r.tail = r.slot r.tail) : ConsumerInv q c := by
  cases c with
  | idle => trivial
  | tailLoaded t => exact hc.trans htail.symm
  | slotReady t => exact ⟨hc.1.trans htail.symm, hne hc.2⟩
  | slotRead t item => exact ⟨hc.1.trans htail.symm, hne hc.2.1, by rw [hc.1, hslot hc.2.1, ← hc.1, hc.2.2]⟩

/-- A consumer step keeps what the producer knows: it leaves `head` and the slot at `head`
alone, and never grows the ring. -/
private theorem producerInv_frame {r q : RingBuffer α N} {p : Producer α N}
    (hp : ProducerInv r p) (hhead : q.head = r.head) (hsize : q.size ≤ r.size)
    (hslot : q.slot r.head = r.slot r.head) : ProducerInv q p := by
  cases p with
  | idle => trivial
  | headLoaded item h => exact hp.trans hhead.symm
  | slotFree item h => exact ⟨hp.1.trans hhead.symm, by have := hp.2; omega⟩
  | slotWritten item h =>
    exact ⟨hp.1.trans hhead.symm, by have := hp.2.1; omega, by rw [hp.1, hslot, ← hp.1, hp.2.2]⟩

theorem init_inv [Inhabited α] : (init : State α N).Inv where
  producer := trivial
  consumer := trivial
  log := by simp [init, RingBuffer.new, contents, size]

theorem startPush_inv {s : State α N} (hs : s.Inv) (item : α) : (s.startPush item).Inv := by
  unfold startPush
  split
  · exact ⟨rfl, hs.consumer, hs.log⟩
  · exact hs

theorem stepProducer_inv {s : State α N} (hs : s.Inv) : s.stepProducer.Inv := by
  obtain ⟨r, p, c, ps, pp⟩ := s
  obtain ⟨hP, hC, hlog⟩ := hs
  dsimp only at hP hC hlog
  cases p with
  | idle => exact ⟨hP, hC, hlog⟩
  | headLoaded item h =>
    simp only [stepProducer]
    split
    · exact ⟨trivial, hC, hlog⟩
    · next hnf =>
      have hlt := r.size_lt
      have : r.size ≠ N.val - 1 := fun hf => hnf (by rw [show h.val = r.head from hP]; exact (r.full_iff).mpr hf)
      exact ⟨⟨hP, by dsimp only; omega⟩, hC, hlog⟩
  | slotFree item h =>
    dsimp only [stepProducer]
    obtain ⟨hh, hsize⟩ := hP
    have hw : r.writeSlot h item = r.writeSlot ⟨r.head, r.head_lt⟩ item := by
      rw [show h = ⟨r.head, r.head_lt⟩ from Fin.ext hh]
    refine ⟨⟨hh, hsize, by simp [slot_writeSlot, Nat.mod_eq_of_lt h.isLt]⟩,
      consumerInv_frame (q := r.writeSlot h item) hC rfl id fun hne => ?_, ?_⟩
    · rw [slot_writeSlot, Nat.mod_eq_of_lt r.tail_lt, if_neg (by rw [hh]; exact hne)]
    · show ps = pp ++ (r.writeSlot h item).contents
      rw [hw, contents_writeSlot_head]; exact hlog
  | slotWritten item h =>
    dsimp only [stepProducer]
    obtain ⟨hh, hsize, hslot⟩ := hP
    have hc : (r.storeHead (next N h)).contents = r.contents ++ [item] := by
      rw [hh, contents_storeHead_next r hsize, ← hslot, hh]
    have hne : r.tail ≠ (r.storeHead (next N h)).head := fun he => by
      have := ((r.storeHead (next N h)).empty_iff).mp (by rw [storeHead_tail]; exact he)
      rw [← length_contents, hc] at this; simp at this
    refine ⟨trivial, consumerInv_frame hC rfl (fun _ => hne) fun _ => rfl, ?_⟩
    show ps ++ [item] = pp ++ (r.storeHead (next N h)).contents
    rw [hlog, hc, List.append_assoc]

theorem stepConsumer_inv {s : State α N} (hs : s.Inv) : s.stepConsumer.Inv := by
  obtain ⟨r, p, c, ps, pp⟩ := s
  obtain ⟨hP, hC, hlog⟩ := hs
  dsimp only at hP hC hlog
  cases c with
  | idle => exact ⟨hP, rfl, hlog⟩
  | tailLoaded t =>
    simp only [stepConsumer]
    split
    · exact ⟨hP, trivial, hlog⟩
    · next hne => exact ⟨hP, ⟨hC, by rwa [← show t.val = r.tail from hC]⟩, hlog⟩
  | slotReady t => exact ⟨hP, ⟨hC.1, hC.2, slot_of_lt _ t.isLt⟩, hlog⟩
  | slotRead t item =>
    dsimp only [stepConsumer]
    obtain ⟨ht, hne, hslot⟩ := hC
    have hcon : (r.storeTail (next N t)).contents = r.contents.tail := by
      rw [ht]; exact contents_storeTail_next r hne
    have hsize : (r.storeTail (next N t)).size ≤ r.size := by
      rw [← length_contents, hcon, List.length_tail, length_contents]; omega
    have hhead : r.contents = item :: r.contents.tail := by
      have h1 := r.contents_head?
      rw [if_neg hne, ← ht, hslot] at h1
      obtain ⟨ys, hys⟩ := List.head?_eq_some_iff.mp h1
      rw [hys, List.tail_cons]
    refine ⟨producerInv_frame hP rfl hsize rfl, trivial, ?_⟩
    show ps = (pp ++ [item]) ++ (r.storeTail (next N t)).contents
    rw [hlog, hcon, List.append_assoc, List.singleton_append, ← hhead]

theorem step_inv {s : State α N} (hs : s.Inv) (a : Action α) : (s.step a).Inv := by
  cases a with
  | push item => exact startPush_inv hs item
  | produce => exact stepProducer_inv hs
  | consume => exact stepConsumer_inv hs

theorem run_inv {s : State α N} (hs : s.Inv) (acts : List (Action α)) : (s.run acts).Inv := by
  induction acts generalizing s with
  | nil => exact hs
  | cons a acts ih => exact ih (step_inv hs a)

end State

/-- **FIFO under every interleaving.** From a fresh ring, after any interleaving of the atomic
steps of `try_push` and `try_pop`: the values popped are a prefix of the values pushed, in
order (so none is returned twice); the slot the consumer is about to read holds the oldest
pushed value not yet popped; and it is never the slot the producer is writing or has
written but not yet published. -/
theorem fifo_of_interleaving [Inhabited α] (N : Capacity) (acts : List (Action α)) :
    let s := (State.init : State α N).run acts
    s.popped <+: s.pushed ∧
      (∀ t, s.readSlot = some t → (s.pushed.drop s.popped.length).head? = some (s.ring.slot t)) ∧
      ∀ t h, s.readSlot = some t → s.writeSlot = some h → t ≠ h := by
  intro s
  have hs : s.Inv := State.run_inv State.init_inv acts
  obtain ⟨hP, hC, hlog⟩ := hs
  refine ⟨⟨s.ring.contents, hlog.symm⟩, fun t ht => ?_, fun t h ht hh => ?_⟩
  · unfold State.readSlot at ht
    split at ht <;> simp only [Option.some.injEq, reduceCtorEq] at ht
    next t' hc =>
    rw [hc] at hC
    rw [hlog, List.drop_left, s.ring.contents_head?, if_neg hC.2, ← hC.1, ht]
  · unfold State.readSlot at ht
    split at ht <;> simp only [Option.some.injEq, reduceCtorEq] at ht
    next t' hc =>
    rw [hc] at hC
    unfold State.writeSlot at hh
    split at hh <;> simp only [Option.some.injEq, reduceCtorEq] at hh
    · next item h' hp => rw [hp] at hP; rw [← ht, ← hh, hC.1, hP.1]; exact hC.2
    · next item h' hp => rw [hp] at hP; rw [← ht, ← hh, hC.1, hP.1]; exact hC.2

end Spsc

end ItchFeedHandler
