/-
Module: DeviceWifi.Lib.BoundedQueue
Layer: Lib
Purpose: A FIFO of bounded capacity with a non-blocking put. The bound is a field of the structure, so a
  queue that holds more than its capacity cannot be built. `put?` fails exactly when the queue is full
  and `get?` exactly when it is empty.
Imports: Mathlib.Logic.Basic
Trusted boundary: none (fully proved)
Main exports: BoundedQueue, BoundedQueue.put?, BoundedQueue.get?, BoundedQueue.Full
Open obligations: none
-/
import Mathlib.Logic.Basic

namespace Reactive

/-- A first-in first-out queue of at most `capacity` items, oldest first. -/
structure BoundedQueue (α : Type) (capacity : Nat) where
  items : List α
  bounded : items.length ≤ capacity

namespace BoundedQueue

variable {α : Type} {capacity : Nat}

/-- The queue without items. -/
def empty : BoundedQueue α capacity := ⟨[], Nat.zero_le _⟩

/-- No further item fits. -/
def Full (q : BoundedQueue α capacity) : Prop := q.items.length = capacity

instance (q : BoundedQueue α capacity) : Decidable q.Full :=
  inferInstanceAs (Decidable (q.items.length = capacity))

/-- Put without waiting: `none`, with the queue unchanged, when it is full. -/
def put? (q : BoundedQueue α capacity) (x : α) : Option (BoundedQueue α capacity) :=
  if room : q.items.length < capacity then some ⟨q.items ++ [x], by simpa using Nat.succ_le_of_lt room⟩ else none

/-- Take the oldest item; `none` when the queue is empty. -/
def get? : BoundedQueue α capacity → Option (α × BoundedQueue α capacity)
  | ⟨[], _⟩ => none
  | ⟨x :: xs, bounded⟩ => some (x, ⟨xs, Nat.le_of_succ_le (by simpa using bounded)⟩)

theorem not_full_iff {q : BoundedQueue α capacity} : ¬ q.Full ↔ q.items.length < capacity := by
  have bounded := q.bounded
  unfold Full
  omega

/-- A put fails exactly on a full queue. -/
theorem put?_eq_none_iff {q : BoundedQueue α capacity} {x : α} : q.put? x = none ↔ q.Full := by
  rw [← not_iff_not, not_full_iff]
  by_cases room : q.items.length < capacity <;> simp [put?, room]

/-- An accepted item goes to the back. -/
theorem items_of_put? {q q' : BoundedQueue α capacity} {x : α} (put : q.put? x = some q') :
    q'.items = q.items ++ [x] := by
  unfold put? at put
  split at put
  · simp only [Option.some.injEq] at put
    exact put ▸ rfl
  · simp at put

/-- The item taken is the oldest one. -/
theorem items_of_get? {q q' : BoundedQueue α capacity} {x : α} (got : q.get? = some (x, q')) :
    q.items = x :: q'.items := by
  obtain ⟨items, bounded⟩ := q
  cases items with
  | nil => simp [get?] at got
  | cons y ys =>
      simp only [get?, Option.some.injEq, Prod.mk.injEq] at got
      obtain ⟨rfl, rfl⟩ := got
      rfl

end BoundedQueue

end Reactive
