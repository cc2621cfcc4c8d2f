import RegisterMachine.Proofs.Machine.Effect

set_option autoImplicit false
set_option relaxedAutoImplicit false

/-!
# Events of a machine

A machine that awaits an event fails if it is not queued. An instruction that does nothing queues an
event and awaits it, so that it never fails, whatever else is queued.

## Main results

* `RegisterMachine.Machine.pullEvent_eq` — awaiting an event fails if it is not queued.
* `RegisterMachine.Machine.events_are_conserved` — events are neither lost nor reordered, and an
  instruction that does nothing leaves as many of its own as there were.
-/

namespace RegisterMachine

/-- Queueing an event reaches the queue of the host. -/
@[simp]
lemma Host.queue_push (host : Host) (name : String) :
    (host.push name).queue = host.queue.push name := by
  cases host <;> rfl

/-- Awaiting an event is left to the queue of the host. -/
@[simp]
lemma Host.pull_snd (host : Host) (name : String) : (host.pull name).2 = host.queue.pull name := by
  cases host <;> rfl

/-- Awaiting an event leaves what the queue of the host leaves. -/
@[simp]
lemma Host.queue_pull_fst (host : Host) (name : String) :
    (host.pull name).1.queue = (host.queue.pull name).rest := by
  cases host <;> rfl

namespace Machine

variable {machine : Machine} {name : String} {instruction : Instruction}

/-- The machine after it has awaited an event, whether that was there or not. -/
def afterPull (machine : Machine) (name : String) : Machine :=
  let (host, pulled) := machine.host.pull name
  { machine with
    host
    log := machine.log ++ (pulled.discarded.map (Log.Record.discarded · name)).toArray }

/-- The queue after an event has been awaited. -/
@[simp]
lemma queue_afterPull (machine : Machine) (name : String) :
    (machine.afterPull name).host.queue = (machine.host.queue.pull name).rest :=
  Host.queue_pull_fst _ _

/-- **Awaiting an event fails if it is not queued**, and only then. -/
lemma pullEvent_eq (machine : Machine) (name : String) :
    pullEvent name machine =
      if name ∈ machine.host.queue.pending then .ok () (machine.afterPull name)
      else .error (.eventsDrained name) (machine.afterPull name) := by
  by_cases h : name ∈ machine.host.queue.pending <;>
    simp [pullEvent, afterPull, EventQueue.delivered_pull_iff, h]

/-- The queue after an event has been queued and awaited. -/
@[simp]
lemma queue_afterExchange (machine : Machine) (name : String) :
    (machine.afterExchange name).host.queue = ((machine.host.queue.push name).pull name).rest := by
  simp [afterExchange]

/-- An instruction that does nothing queues an event and awaits it. -/
lemma execute_of_nop (h : instruction.mnemonic = "nop") (machine : Machine) :
    execute instruction machine = .ok () (machine.afterExchange "nop") := by
  have hopcode : Opcode.ofMnemonic? instruction.mnemonic = some .nop := by
    rw [h]
    decide +kernel
  simp only [execute_def, hopcode, perform, performOn, exchange_eq_ok]

/-- **Events are neither lost nor reordered.** Whatever the calls of a queue, the events that were
queued are those that have left it, delivered or discarded, and then those still in it, in order.
Awaiting an event delivers the first one of its name, discards those in front of it and leaves those
behind it; if there is none, it discards all and fails. Hence an instruction that does nothing never
fails, whatever is queued, leaves as many of its events as there were, and an empty queue empty. -/
theorem events_are_conserved :
    (∀ calls : List EventQueue.Call,
      calls.filterMap EventQueue.Call.queued? =
        (EventQueue.after calls).departed.map EventQueue.Departure.event ++
          (EventQueue.after calls).queue.pending) ∧
    (∀ (queue : EventQueue) (name : String),
      (∀ front back, queue.pending = front ++ name :: back → name ∉ front →
        queue.pull name = ⟨front, true, ⟨back⟩⟩) ∧
      (name ∉ queue.pending → queue.pull name = ⟨queue.pending, false, {}⟩)) ∧
    (∀ (machine : Machine) (name : String), ∃ next,
      next.host.queue = (machine.host.queue.pull name).rest ∧
      pullEvent name machine =
        if name ∈ machine.host.queue.pending then .ok () next
        else .error (.eventsDrained name) next) ∧
    ∀ (instruction : Instruction) (machine : Machine), instruction.mnemonic = "nop" → ∃ next,
      execute instruction machine = .ok () next ∧
      next = { machine with host := next.host, log := next.log } ∧
      next.host.queue = ((machine.host.queue.push "nop").pull "nop").rest ∧
      next.host.queue.pending.count "nop" = machine.host.queue.pending.count "nop" ∧
      (machine.host.queue.pending = [] → next.host.queue.pending = []) := by
  refine ⟨fun calls => (EventQueue.events_after calls).symm, fun queue name => ⟨?_, ?_⟩,
    fun machine name => ?_, fun instruction machine hnop => ?_⟩
  · exact fun front back hpending hfront => EventQueue.pull_of_mem hfront hpending
  · exact EventQueue.pull_of_notMem
  · exact ⟨machine.afterPull name, queue_afterPull machine name, pullEvent_eq machine name⟩
  · have hqueue := queue_afterExchange machine "nop"
    refine ⟨machine.afterExchange "nop", execute_of_nop hnop machine, rfl, hqueue, ?_,
      fun hempty => ?_⟩
    · rw [hqueue, EventQueue.count_pull_push]
    · rw [hqueue, EventQueue.pull_push_of_empty hempty]

/-- With others queued, an instruction that does nothing takes an older event of its own, and leaves
the one that it has queued. -/
theorem events_are_conserved_among_others :
    let queue : EventQueue := ⟨["tick", "nop", "tock"]⟩
    let machine := fresh .default (.capture { queue }) {}
    let nop : Instruction := ⟨"nop", [], 1, "nop"⟩
    queue.pull "nop" = ⟨["tick"], true, ⟨["tock"]⟩⟩ ∧
      queue.pull "tack" = ⟨queue.pending, false, {}⟩ ∧
      ∃ next, execute nop machine = .ok () next ∧ next.host.queue.pending = ["tock", "nop"] ∧
        next.host.queue.pending.count "nop" = 1 := by
  intro queue machine nop
  obtain ⟨-, hpull, -, hexecute⟩ := events_are_conserved
  obtain ⟨next, hnext, -, hqueue, hcount, -⟩ := hexecute nop machine rfl
  have hnotMem : "tack" ∉ queue.pending := by decide
  refine ⟨(hpull queue "nop").1 ["tick"] ["tock"] rfl (by decide), (hpull queue "tack").2 hnotMem,
    next, hnext, ?_, hcount⟩
  rw [hqueue]
  rfl

end Machine

end RegisterMachine
