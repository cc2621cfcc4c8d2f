import RegisterMachine.EventQueue
import Mathlib.Data.List.Induction
import Mathlib.Data.List.TakeWhile
import Mathlib.Tactic.Common

set_option autoImplicit false
set_option relaxedAutoImplicit false

/-!
# Events are neither lost nor reordered

An event that has been queued either has left the queue, in turn, or is still there. Awaiting an
event takes it and all events in front of it off the queue, and nothing else.

## Main definitions

* `RegisterMachine.EventQueue.Call` — the calls of a queue.
* `RegisterMachine.EventQueue.Departure` — what becomes of an event that leaves a queue.
* `RegisterMachine.EventQueue.History` — a queue with all events that have left it.

## Main results

* `RegisterMachine.EventQueue.pull_of_mem`, `RegisterMachine.EventQueue.pull_of_notMem` — what
  awaiting an event does, if it is queued and if it is not.
* `RegisterMachine.EventQueue.events_after` — the events that have left a queue and those still in
  it are the events that have been queued, in order.
-/

namespace RegisterMachine

namespace EventQueue

variable {queue : EventQueue} {name : String} {front back : List String}

/-! ## Awaiting an event -/

/-- **An event that is queued is delivered**: the first one of its name, with the events in front of
it discarded. -/
lemma pull_of_mem (hfront : name ∉ front) (hpending : queue.pending = front ++ name :: back) :
    queue.pull name = ⟨front, true, ⟨back⟩⟩ := by
  have hother : ∀ event ∈ front, decide (event ≠ name) = true := fun event hevent =>
    decide_eq_true (ne_of_mem_of_not_mem hevent hfront)
  have htake : queue.pending.takeWhile (· ≠ name) = front := by
    rw [hpending, List.takeWhile_append_of_pos hother]
    simp
  have hdrop : queue.pending.dropWhile (· ≠ name) = name :: back := by
    rw [hpending, List.dropWhile_append_of_pos hother]
    simp
  simp only [pull, htake, hdrop]

/-- **An event that is not queued is awaited in vain**, and all events are discarded. -/
lemma pull_of_notMem (h : name ∉ queue.pending) :
    queue.pull name = ⟨queue.pending, false, {}⟩ := by
  have hother : ∀ event ∈ queue.pending, decide (event ≠ name) = true := fun event hevent =>
    decide_eq_true (ne_of_mem_of_not_mem hevent h)
  have htake : queue.pending.takeWhile (· ≠ name) = queue.pending :=
    List.takeWhile_eq_self_iff.2 hother
  have hdrop : queue.pending.dropWhile (· ≠ name) = [] := List.dropWhile_eq_nil_iff.2 hother
  simp only [pull, htake, hdrop]

/-- An event is delivered if it is queued. -/
lemma delivered_pull_iff : (queue.pull name).delivered = true ↔ name ∈ queue.pending := by
  by_cases h : name ∈ queue.pending
  · obtain ⟨front, back, hpending, hfront⟩ := List.eq_append_cons_of_mem h
    simp [pull_of_mem hfront hpending, h]
  · simp [pull_of_notMem h, h]

/-- An event that has just been queued is there when it is awaited. -/
lemma delivered_pull_push (queue : EventQueue) (name : String) :
    ((queue.push name).pull name).delivered = true :=
  delivered_pull_iff.2 (by simp [push])

/-- Queueing an event and awaiting it leaves as many events of its name as there were: an older one
is taken in its place. -/
lemma count_pull_push (queue : EventQueue) (name : String) :
    ((queue.push name).pull name).rest.pending.count name = queue.pending.count name := by
  by_cases h : name ∈ queue.pending
  · obtain ⟨front, back, hpending, hfront⟩ := List.eq_append_cons_of_mem h
    have hpush : (queue.push name).pending = front ++ name :: (back ++ [name]) := by
      simp [push, hpending]
    simp [pull_of_mem hfront hpush, hpending, List.count_eq_zero.2 hfront]
  · have hpush : (queue.push name).pending = queue.pending ++ name :: [] := rfl
    simp [pull_of_mem h hpush, List.count_eq_zero.2 h]

/-- Queueing an event in an empty queue and awaiting it leaves the queue empty. -/
lemma pull_push_of_empty (h : queue.pending = []) (name : String) :
    ((queue.push name).pull name).rest.pending = [] := by
  have hpush : (queue.push name).pending = [] ++ name :: [] := by simp [push, h]
  rw [pull_of_mem List.not_mem_nil hpush]

/-! ## Histories -/

/-- A call of a queue. -/
inductive Call
  | push (name : String)
  | pull (name : String)
  deriving DecidableEq, Repr

/-- The event that a call queues. -/
def Call.queued? : Call → Option String
  | .push name => some name
  | .pull _ => none

/-- What becomes of an event that leaves a queue: it is delivered to whoever awaits it, or discarded
in front of another one. -/
inductive Departure
  | delivered (event : String)
  | discarded (event : String)
  deriving DecidableEq, Repr

/-- The event that leaves. -/
def Departure.event : Departure → String
  | .delivered event | .discarded event => event

/-- The events that leave a queue when an event of the given name is awaited. -/
def Pulled.departures (pulled : Pulled) (name : String) : List Departure :=
  pulled.discarded.map .discarded ++ if pulled.delivered then [.delivered name] else []

/-- A queue with all events that have left it, the oldest first. -/
structure History where
  departed : List Departure := []
  queue : EventQueue := {}
  deriving DecidableEq, Repr

namespace History

/-- The history after a call. -/
def call (history : History) : Call → History
  | .push name => { history with queue := history.queue.push name }
  | .pull name =>
    let pulled := history.queue.pull name
    ⟨history.departed ++ pulled.departures name, pulled.rest⟩

/-- All events of a history, in the order in which they leave. -/
def events (history : History) : List String :=
  history.departed.map Departure.event ++ history.queue.pending

end History

/-- The history of some calls of a queue that is empty at first. -/
def after (calls : List Call) : History :=
  calls.foldl History.call {}

/-- What leaves a queue and what stays are what was in it. -/
lemma departures_append_pending (queue : EventQueue) (name : String) :
    ((queue.pull name).departures name).map Departure.event ++ (queue.pull name).rest.pending =
      queue.pending := by
  have hevent : (Departure.event ∘ Departure.discarded) = id := rfl
  by_cases h : name ∈ queue.pending
  · obtain ⟨front, back, hpending, hfront⟩ := List.eq_append_cons_of_mem h
    simp [pull_of_mem hfront hpending, Pulled.departures, hpending, hevent, Departure.event]
  · simp [pull_of_notMem h, Pulled.departures, hevent]

/-- A call adds the event that it queues behind all others, and no other. -/
lemma History.events_call (history : History) (call : Call) :
    (history.call call).events = history.events ++ call.queued?.toList := by
  cases call with
  | push name => simp [History.call, events, push, Call.queued?]
  | pull name =>
    simp [History.call, events, Call.queued?, departures_append_pending, List.append_assoc]

/-- **The events that have left a queue and those still in it are the events that have been queued,
in order.** -/
lemma events_after (calls : List Call) : (after calls).events = calls.filterMap Call.queued? := by
  induction calls using List.reverseRecOn with
  | nil => rfl
  | append_singleton calls call ih =>
    have hafter : after (calls ++ [call]) = (after calls).call call := by simp [after]
    rw [hafter, History.events_call, ih, List.filterMap_append]
    cases call <;> rfl

end EventQueue

end RegisterMachine
