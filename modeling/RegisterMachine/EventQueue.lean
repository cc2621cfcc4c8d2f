set_option autoImplicit false
set_option relaxedAutoImplicit false

/-!
# Event queues

Named events, first in, first out. Whoever awaits an event discards all events in front of it.

## Main definitions

* `RegisterMachine.EventQueue` — the events not yet delivered.
* `RegisterMachine.EventQueue.push` — queues an event.
* `RegisterMachine.EventQueue.pull` — awaits an event.

## References

* [Spec] The expanded specification of the machine. (§6.2, "Host interface".)
-/

namespace RegisterMachine

/-- The events not yet delivered, the oldest first. -/
structure EventQueue where
  pending : List String := []
  deriving DecidableEq, Repr

namespace EventQueue

/-- The number of events not yet delivered. -/
def size (queue : EventQueue) : Nat :=
  queue.pending.length

/-- The queue with one more event. -/
def push (queue : EventQueue) (name : String) : EventQueue :=
  ⟨queue.pending ++ [name]⟩

/-- What awaiting an event did: the events discarded, whether the event was there, and the queue
that is left. -/
structure Pulled where
  discarded : List String
  delivered : Bool
  rest : EventQueue
  deriving DecidableEq, Repr

/-- Awaits an event: discards the events in front of it and takes it off the queue. If it is not
queued, all events are discarded. [Spec, §6.2] -/
def pull (queue : EventQueue) (name : String) : Pulled :=
  let discarded := queue.pending.takeWhile (· ≠ name)
  match queue.pending.dropWhile (· ≠ name) with
  | [] => ⟨discarded, false, {}⟩
  | _ :: rest => ⟨discarded, true, ⟨rest⟩⟩

end EventQueue

end RegisterMachine
