import Mathlib

/-!
# Bounded channels

A channel is known to its users by three operations: a new buffer, a send that
fails instead of waiting, and a receive that waits while there is nothing to
take. `Channel.Fifo` is what users of a bounded first-in first-out channel rely
on: a queue of contents that sends extend at the back while there is room and
receives take from the front.
-/

namespace Machine

/-- The operations of a channel of these messages. -/
structure Channel (α : Type) where
  /-- The state of a channel. -/
  Buffer : Type
  /-- A channel nothing was sent to. -/
  new : Buffer
  /-- Send without waiting; `none` is the error of a full channel. -/
  trySend : Buffer → α → Option Buffer
  /-- Take a message; `none` keeps the receiver waiting. -/
  receive : Buffer → Option (α × Buffer)

namespace Channel

variable {α : Type}

/-- A channel is a bounded queue: its contents in order, and how each operation
changes them. -/
structure Fifo (channel : Channel α) (capacity : Nat) where
  /-- The queued messages, oldest first. -/
  contents : channel.Buffer → List α
  /-- Nothing is queued at first. -/
  contents_new : contents channel.new = []
  /-- A full channel refuses. -/
  trySend_full : ∀ buffer message, capacity ≤ (contents buffer).length →
    channel.trySend buffer message = none
  /-- A channel with room queues the message last. -/
  trySend_room : ∀ buffer message, (contents buffer).length < capacity →
    ∃ after, channel.trySend buffer message = some after ∧
      contents after = contents buffer ++ [message]
  /-- An empty channel keeps the receiver waiting. -/
  receive_empty : ∀ buffer, contents buffer = [] → channel.receive buffer = none
  /-- Otherwise the oldest message is taken. -/
  receive_head : ∀ buffer message rest, contents buffer = message :: rest →
    ∃ after, channel.receive buffer = some (message, after) ∧ contents after = rest

namespace Fifo

variable {channel : Channel α} {capacity : Nat}

/-- A successful send queued exactly its message, last. -/
theorem contents_of_trySend (fifo : channel.Fifo capacity) {buffer after : channel.Buffer}
    {message : α} (sent : channel.trySend buffer message = some after) :
    fifo.contents after = fifo.contents buffer ++ [message] := by
  by_cases room : (fifo.contents buffer).length < capacity
  · obtain ⟨queued, same, grown⟩ := fifo.trySend_room buffer message room
    rw [sent, Option.some.injEq] at same
    rw [same, grown]
  · rw [fifo.trySend_full buffer message (by omega)] at sent
    contradiction

/-- A send fails exactly when the channel is full. -/
theorem trySend_eq_none_iff (fifo : channel.Fifo capacity) (buffer : channel.Buffer)
    (message : α) :
    channel.trySend buffer message = none ↔ capacity ≤ (fifo.contents buffer).length := by
  constructor
  · intro refused
    by_contra room
    obtain ⟨_, sent, _⟩ := fifo.trySend_room buffer message (by omega)
    rw [refused] at sent
    contradiction
  · exact fifo.trySend_full buffer message

/-- A successful receive took the oldest message and kept the others. -/
theorem contents_of_receive (fifo : channel.Fifo capacity) {buffer after : channel.Buffer}
    {message : α} (taken : channel.receive buffer = some (message, after)) :
    fifo.contents buffer = message :: fifo.contents after := by
  cases queued : fifo.contents buffer with
  | nil =>
    rw [fifo.receive_empty buffer queued] at taken
    contradiction
  | cons first rest =>
    obtain ⟨left, same, kept⟩ := fifo.receive_head buffer first rest queued
    rw [taken, Option.some.injEq, Prod.mk.injEq] at same
    obtain ⟨rfl, rfl⟩ := same
    rw [kept]

end Fifo

/-- The queue itself as a channel of this capacity. -/
def ofList (α : Type) (capacity : Nat) : Channel α where
  Buffer := List α
  new := []
  trySend queue message := if queue.length < capacity then some (queue ++ [message]) else none
  receive
    | [] => none
    | message :: rest => some (message, rest)

/-- The queue as a channel is a bounded queue. -/
def ofListFifo (α : Type) (capacity : Nat) : (ofList α capacity).Fifo capacity where
  contents := fun queue : List α => queue
  contents_new := rfl
  trySend_full := fun (queue : List α) _ full => if_neg (Nat.not_lt.mpr full)
  trySend_room := fun (queue : List α) message room => ⟨queue ++ [message], if_pos room, rfl⟩
  receive_empty := fun (queue : List α) nothing => by
    subst nothing
    rfl
  receive_head := fun (queue : List α) message rest queued => by
    subst queued
    exact ⟨rest, rfl, rfl⟩

end Channel

end Machine
