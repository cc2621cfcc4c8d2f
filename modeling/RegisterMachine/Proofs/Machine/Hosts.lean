import RegisterMachine.Proofs.Machine.Agreement

set_option autoImplicit false
set_option relaxedAutoImplicit false

/-!
# The two kinds of hosts

A program cannot tell the host that writes a stream from the host that records everything, as long
as no pause is refused: only the first of them really pauses. What is on the stream is what the
other host has recorded, line after line.

## Main definitions

* `RegisterMachine.Capture.transcript` — the recorded texts, each with a line feed.
* `RegisterMachine.Host.Mirrors` — a stream shows what the other host has recorded.
* `RegisterMachine.Machine.refusesPause` — the next step asks for a pause that is refused.

## Main results

* `RegisterMachine.Host.isSimulation_mirrors` — printing and exchanging events keep the two hosts
  alike.
* `RegisterMachine.Machine.hosts_are_interchangeable` — programs do the same on both.
-/

namespace RegisterMachine

/-- The recorded texts as a stream shows them: a line feed follows each. -/
def Capture.transcript (host : Capture) : String :=
  String.join (host.output.toList.map (· ++ "\n"))

/-- One more text is one more line. -/
lemma Capture.transcript_push (host : Capture) (text : String) :
    transcript { host with output := host.output.push text } = host.transcript ++ text ++ "\n" := by
  simp [transcript, String.append_assoc]

namespace Host

/-- What is written on a stream is what the other host has recorded; pauses were made where the
recorded ones are positive; the same events are queued. -/
inductive Mirrors : Host → Host → Prop
  | intro {written : Console} {recorded : Capture}
      (hstream : written.stream = recorded.transcript)
      (hpauses : written.pauses = recorded.sleeps.filter (·.isPositive))
      (hqueue : written.queue = recorded.queue) :
      Mirrors (.console written) (.capture recorded)

/-- Hosts that have done nothing have done the same. -/
lemma mirrors_fresh : Mirrors freshConsole freshCapture :=
  .intro rfl rfl rfl

/-- **Printing and exchanging events keep the two hosts alike.** -/
lemma isSimulation_mirrors : IsSimulation Mirrors where
  write text h := by
    cases h with
    | @intro written recorded hstream hpauses hqueue =>
      refine .intro ?_ hpauses hqueue
      rw [Capture.transcript_push, ← hstream]
  push name h := by
    cases h with
    | @intro written recorded hstream hpauses hqueue =>
      exact .intro hstream hpauses (congrArg (EventQueue.push · name) hqueue)
  pull name h := by
    cases h with
    | @intro written recorded hstream hpauses hqueue =>
      exact .intro hstream hpauses (congrArg (EventQueue.pull · name |>.rest) hqueue)

/-- A pause that the stream's host takes keeps the two hosts alike. -/
lemma Mirrors.pauseAlike {host other next : Host} (h : Mirrors host other) {seconds : Number}
    (hsleep : host.sleep seconds = .ok next) : PauseAlike Mirrors host other seconds := by
  cases h with
  | @intro written recorded hstream hpauses hqueue =>
    refine .taken hsleep rfl ?_
    unfold sleep at hsleep
    dsimp only at hsleep
    split at hsleep
    · next hpositive =>
      cases hsleep
      refine .intro hstream ?_ hqueue
      rw [hpauses, Array.filter_push_of_neg (by simpa using hpositive) (Array.size_push _)]
    · next hpositive =>
      split at hsleep
      · cases hsleep
      · cases hsleep
        refine .intro hstream ?_ hqueue
        simp_all

end Host

namespace Machine

/-- Whether the next step of the machine asks its host for a pause that the host refuses. -/
def refusesPause (machine : Machine) : Bool :=
  machine.pauseRequest?.any fun seconds => !(machine.host.sleep seconds).isOk

/-- A pause that is asked for is taken, if it is not refused. -/
lemma exists_sleep_of_refusesPause {machine : Machine} {seconds : Number}
    (h : machine.refusesPause = false) (hrequest : machine.pauseRequest? = some seconds) :
    ∃ next, machine.host.sleep seconds = .ok next := by
  cases hsleep : machine.host.sleep seconds with
  | ok next => exact ⟨next, rfl⟩
  | error cause => simp [refusesPause, hrequest, hsleep, Except.isOk, Except.toBool] at h

/-- **The two kinds of hosts are interchangeable.** Let a program do so many steps on a fresh host
that writes a stream, none of which asks for a pause that is refused. On a fresh host that records
everything the same number of steps leads to the same state of the run, the same reason for
stopping, the same place, number of steps, store and fault, and no error escapes from a step of
either machine. The same events are queued, and the stream shows what has been recorded.

**Proof sketch.** The two hosts are alike before the first step, and stay so while both print,
exchange events and pause (`Host.isSimulation_mirrors`, `Host.Mirrors.pauseAlike`). Machines on
hosts in such a relation do the same steps (`Agree.iterate_step`). -/
theorem hosts_are_interchangeable {config : Config} {source : String} {program : Program}
    (hlink : Program.link config source = .ok program) (calls : Nat)
    (hpauses : ∀ i < calls, (step^[i] (fresh config .freshConsole program)).refusesPause = false) :
    let console := step^[calls] (fresh config .freshConsole program)
    let capture := step^[calls] (fresh config .freshCapture program)
    capture.state = console.state ∧ capture.stopReason? = console.stopReason? ∧
      capture.pc = console.pc ∧ capture.steps = console.steps ∧ capture.store = console.store ∧
      capture.fault? = console.fault? ∧ capture.escaped? = none ∧ console.escaped? = none ∧
      ∃ written recorded, console.host = .console written ∧ capture.host = .capture recorded ∧
        written.stream = recorded.transcript ∧
        written.pauses = recorded.sleeps.filter (·.isPositive) ∧
        written.queue = recorded.queue := by
  intro console capture
  have hstart : Agree Host.Mirrors (fresh config .freshConsole program)
      (fresh config .freshCapture program) := .intro Host.mirrors_fresh
  have hagree : Agree Host.Mirrors console capture := by
    refine hstart.iterate_step Host.isSimulation_mirrors hlink ?_
    intro i hi seconds host' hrequest h
    obtain ⟨next, hsleep⟩ := exists_sleep_of_refusesPause (hpauses i hi) hrequest
    exact h.pauseAlike hsleep
  have hescaped : console.escaped? = none :=
    (isSound_iterate_step hlink .freshConsole calls).escaped?_eq
  clear_value console capture
  cases hagree with
  | @intro host trace log h =>
    refine ⟨rfl, rfl, rfl, rfl, rfl, rfl, hescaped, hescaped, ?_⟩
    generalize console.host = host' at h
    cases h with
    | @intro written recorded hstream hwritten hqueue =>
      exact ⟨written, recorded, rfl, rfl, hstream, hwritten, hqueue⟩

/-- A pause that is not made, a line, an event and a fault. -/
theorem hosts_are_interchangeable_of_fault :
    let program : Program :=
      { instructions :=
          #[⟨"slp", [.literal "-1" (.int (-1))], 1, "slp -1"⟩,
            ⟨"out", [.literal "7" (.int 7)], 2, "out 7"⟩,
            ⟨"nop", [], 3, "nop"⟩,
            ⟨"div", [.register "r0", .register "zero"], 4, "div r0, zero"⟩] }
    let console := step^[4] (fresh .default .freshConsole program)
    let capture := step^[4] (fresh .default .freshCapture program)
    Program.link .default "slp -1\nout 7\nnop\ndiv r0, zero" = .ok program ∧
      (∀ i < 4, (step^[i] (fresh .default .freshConsole program)).refusesPause = false) ∧
      console.state = .faulted ∧ capture.state = .faulted ∧ capture.fault? = console.fault? ∧
      ∃ recorded, capture.host = .capture recorded ∧
        recorded.transcript = "7\nLine 4: div r0, zero\nAttempt to divide by zero\n" := by
  intro program console capture
  have hlink : Program.link .default "slp -1\nout 7\nnop\ndiv r0, zero" = .ok program := by
    decide +kernel
  have hpauses : ∀ i < 4,
      (step^[i] (fresh .default .freshConsole program)).refusesPause = false := by decide +kernel
  have hfaulted : console.state = .faulted := by decide +kernel
  have hstream : console.host = .console
      { stream := "7\nLine 4: div r0, zero\nAttempt to divide by zero\n" } := by decide +kernel
  obtain ⟨hstate, -, -, -, -, hfault, -, -, written, recorded, hwritten, hrecorded, hshown, -⟩ :=
    hosts_are_interchangeable hlink 4 hpauses
  refine ⟨hlink, hpauses, hfaulted, hstate.trans hfaulted, hfault, recorded, hrecorded, ?_⟩
  obtain rfl := Host.console.inj (hstream.symm.trans hwritten)
  exact hshown.symm

end Machine

end RegisterMachine
