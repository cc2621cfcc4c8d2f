import RegisterMachine.Proofs.Machine.Step
import Mathlib.Logic.Function.Iterate

set_option autoImplicit false
set_option relaxedAutoImplicit false

/-!
# Runs

What holds of a machine after any number of steps. A machine runs within its program, has halted at
an instruction that halts, has ended behind the last instruction, or stands at the instruction that
failed; its store is sound all the time.

## Main definitions

* `RegisterMachine.Machine.Control` — how the program counter, the state of the run, the reason for
  stopping and the fault belong together.
* `RegisterMachine.Machine.IsSound` — the invariant of runs.

## Main results

* `RegisterMachine.Machine.isSound_iterate_step` — the invariant holds after any number of steps.
* `RegisterMachine.Machine.exists_failure_of_fault` — where a fault comes from.
* `RegisterMachine.Machine.runFor_eq_iterate` — a run of limited length is so many steps.
* `RegisterMachine.Machine.fault_changes_nothing` — a step that faults has changed nothing.
* `RegisterMachine.Machine.operands_mean_their_texts` — access by operand is access by text.
-/

namespace RegisterMachine.Machine

variable {machine : Machine} {program : Program} {count calls : Nat}

/-! ## Control -/

/-- How a machine stands after so many steps. -/
inductive Control (calls : Nat) (machine : Machine) : Prop
  /-- It runs: every step has executed an instruction, and the next one is within the program or
  just behind it. -/
  | running (hstate : machine.state = .running) (hreason : machine.stopReason? = none)
      (hfault : machine.fault? = none) (hlower : 0 ≤ machine.pc)
      (hupper : machine.pc ≤ machine.program.size) (hsteps : machine.steps = calls)
  /-- It stands at an instruction that halted it. -/
  | halted {instruction : Instruction} (hstate : machine.state = .halted)
      (hreason : machine.stopReason? = some .halt) (hcurrent : machine.current? = some instruction)
      (hmnemonic : instruction.mnemonic = "hlt")
  /-- It went past the last instruction. -/
  | ended (hstate : machine.state = .halted) (hreason : machine.stopReason? = some .programEnd)
      (hpc : machine.pc = machine.program.size + 1)
  /-- It stands at an instruction that failed. -/
  | faulted {instruction : Instruction} {fault : Fault} (hstate : machine.state = .faulted)
      (hreason : machine.stopReason? = some .fault) (hcurrent : machine.current? = some instruction)
      (hfault : machine.fault? = some fault) (hline : fault.line = instruction.line)
      (hsource : fault.source = instruction.source)

/-- Where a machine that runs stands, and how many instructions it has executed. -/
lemma Control.of_running (h : Control calls machine) (hstate : machine.state = .running) :
    0 ≤ machine.pc ∧ machine.pc ≤ machine.program.size ∧ machine.steps = calls := by
  cases h with
  | running _ _ _ hlower hupper hsteps => exact ⟨hlower, hupper, hsteps⟩
  | halted hstate' | ended hstate' | faulted hstate' => simp [hstate'] at hstate

/-- A machine that runs has not left its program to the front. -/
lemma Control.pc_nonneg (h : Control calls machine) (hrunning : machine.state = .running) :
    0 ≤ machine.pc :=
  (h.of_running hrunning).1

/-- A machine that does not run has a reason for it. -/
lemma Control.exists_stopReason (h : Control calls machine) (hstate : machine.state ≠ .running) :
    ∃ reason, machine.stopReason? = some reason := by
  cases h with
  | running hstate' => exact absurd hstate' hstate
  | halted _ hreason | ended _ hreason | faulted _ hreason => exact ⟨_, hreason⟩

/-- The instruction that the program counter has moved on to. -/
lemma current?_fetched {instruction : Instruction} (hlower : 0 ≤ machine.pc)
    (hle : machine.pc + 1 ≤ machine.program.size)
    (hfetch : machine.program.fetch? (machine.pc + 1) = some instruction) (log : Array Log.Record) :
    (machine.fetched log).current? = some instruction := by
  have hrange : 1 ≤ machine.pc + 1 ∧ machine.pc + 1 ≤ machine.program.size := by omega
  simpa [current?, fetched, hrange] using hfetch

/-- A fault that is given a place takes the place of the instruction. -/
lemma locate_ofCause (cause : Cause) (line : Int) (source : String) :
    ((Fault.ofCause cause).locate line source).line = line ∧
      ((Fault.ofCause cause).locate line source).source = source := by
  simp [Fault.locate, Fault.ofCause]

/-- An instruction that is executed leaves the machine at itself, if it halts, or running within the
program. -/
lemma control_of_effect {instruction : Instruction} {opcode : Opcode} {log : Array Log.Record}
    {next : Machine} (hlinked : machine.program.IsLinked count) (hstate : machine.state = .running)
    (hreason : machine.stopReason? = none) (hfault : machine.fault? = none)
    (hlower : 0 ≤ machine.pc) (hle : machine.pc + 1 ≤ machine.program.size)
    (hfetch : machine.program.fetch? (machine.pc + 1) = some instruction)
    (hopcode : Opcode.ofMnemonic? instruction.mnemonic = some opcode)
    (heffect : Effect (machine.fetched log) opcode instruction.operands next) :
    Control (machine.steps + 1) { next with steps := next.steps + 1 } := by
  obtain ⟨hprogram, -, hsteps, hfault', -⟩ := heffect.frame
  rcases heffect.control with ⟨rfl, rfl⟩ | ⟨hstate', hreason', hpc⟩
  · exact .halted rfl rfl (current?_fetched hlower hle hfetch log) (Opcode.eq_mnemonic hopcode)
  · -- a jump goes to just before its label, and labels point from one to just behind the last
    have hbounds : 0 ≤ next.pc ∧ next.pc ≤ machine.program.size := by
      rcases hpc with hpc | ⟨label, index, hlabel, hpc⟩
      · have hmoved : next.pc = machine.pc + 1 := hpc
        omega
      · have hindex := hlinked.labelIndex?_bounds hlabel
        omega
    have hsize : next.program.size = machine.program.size := by
      rw [hprogram]
      rfl
    refine .running (hstate'.trans hstate) (hreason'.trans hreason) (hfault'.trans hfault)
      hbounds.1 ?_ (congrArg (· + 1) hsteps)
    change next.pc ≤ next.program.size
    rw [hsize]
    exact hbounds.2

/-- **A step keeps control.** -/
lemma control_step (hlinked : machine.program.IsLinked count) (hstore : machine.store.IsSound count)
    (hescaped : machine.escaped? = none) (h : Control calls machine) :
    Control (calls + 1) machine.step := by
  cases h with
  | running hstate hreason hfault hlower hupper hsteps =>
    have hrunning : machine.isRunning := by simp [isRunning, hstate, hescaped]
    have hstepped := stepped hrunning hlower hstore
    generalize machine.step = after at hstepped
    cases hstepped with
    | ended hend => exact .ended rfl rfl (show machine.pc + 1 = machine.program.size + 1 by omega)
    | executed hle hfetch hopcode heffect =>
      rw [← hsteps]
      exact control_of_effect hlinked hstate hreason hfault hlower hle hfetch hopcode heffect
    | @failed instruction cause log hle hfetch herror hcause =>
      obtain ⟨hline, hsource⟩ := locate_ofCause cause instruction.line instruction.source
      exact .faulted rfl rfl (current?_fetched hlower hle hfetch log) rfl hline hsource
  | halted hstate hreason hcurrent hmnemonic =>
    rw [step_of_not_isRunning (by simp [isRunning, hstate])]
    exact .halted hstate hreason hcurrent hmnemonic
  | ended hstate hreason hpc =>
    rw [step_of_not_isRunning (by simp [isRunning, hstate])]
    exact .ended hstate hreason hpc
  | faulted hstate hreason hcurrent hfault hline hsource =>
    rw [step_of_not_isRunning (by simp [isRunning, hstate])]
    exact .faulted hstate hreason hcurrent hfault hline hsource

/-! ## The invariant of runs -/

/-- What holds of a machine after so many steps of a program. -/
structure IsSound (count : Nat) (program : Program) (calls : Nat) (machine : Machine) : Prop where
  /-- It still has its program. -/
  program_eq : machine.program = program
  /-- Its store is sound. -/
  store : machine.store.IsSound count
  /-- No error has escaped from a step. -/
  escaped?_eq : machine.escaped? = none
  /-- The parts of its control belong together. -/
  control : Control calls machine

/-- A fresh machine is sound. -/
lemma isSound_fresh (config : Config) (host : Host) (program : Program) :
    IsSound config.registerCount program 0 (fresh config host program) where
  program_eq := rfl
  store := .fresh _ _ _
  escaped?_eq := rfl
  control := .running rfl rfl rfl (Int.le_refl 0) (Int.natCast_nonneg _) rfl

/-- A fresh machine whose run has been recorded is sound. -/
lemma isSound_begin (config : Config) (host : Host) (program : Program) :
    IsSound config.registerCount program 0 (fresh config host program).begin where
  program_eq := rfl
  store := .fresh _ _ _
  escaped?_eq := rfl
  control := .running rfl rfl rfl (Int.le_refl 0) (Int.natCast_nonneg _) rfl

/-- A step of a sound machine that runs has one of the outcomes of steps. -/
lemma IsSound.stepped (h : IsSound count program calls machine)
    (hstate : machine.state = .running) : Stepped machine machine.step := by
  have hrunning : machine.isRunning := by simp [isRunning, hstate, h.escaped?_eq]
  exact Machine.stepped hrunning (h.control.pc_nonneg hstate) h.store

/-- A step of a sound machine leaves it as it is, or has one of the outcomes of steps. -/
lemma IsSound.step_eq_or_stepped (h : IsSound count program calls machine) :
    machine.step = machine ∨ (machine.state = .running ∧ Stepped machine machine.step) := by
  by_cases hstate : machine.state = .running
  · exact .inr ⟨hstate, h.stepped hstate⟩
  · exact .inl (step_of_not_isRunning (by simp [isRunning, hstate]))

/-- **A step keeps a machine sound.** -/
lemma IsSound.step (hlinked : program.IsLinked count) (h : IsSound count program calls machine) :
    IsSound count program (calls + 1) machine.step := by
  have hstepped := h.step_eq_or_stepped
  obtain ⟨rfl, hstore, hescaped, hcontrol⟩ := h
  suffices hkept : machine.step.program = machine.program ∧ machine.step.store.IsSound count ∧
      machine.step.escaped? = none from
    ⟨hkept.1, hkept.2.1, hkept.2.2, control_step hlinked hstore hescaped hcontrol⟩
  obtain hstay | ⟨-, hstepped⟩ := hstepped
  · rw [hstay]
    exact ⟨rfl, hstore, hescaped⟩
  · generalize machine.step = after at hstepped
    cases hstepped with
    | ended hend => exact ⟨rfl, hstore, hescaped⟩
    | executed hle hfetch hopcode heffect =>
      obtain ⟨hprogram, -, -, -, hescaped'⟩ := heffect.frame
      have hoperands := hlinked.operands _ (Program.mem_of_fetch? hfetch)
      exact ⟨hprogram, heffect.isSound hstore hoperands, hescaped'.trans hescaped⟩
    | failed hle hfetch herror hcause => exact ⟨rfl, hstore, hescaped⟩

/-- Steps keep a machine sound. -/
lemma IsSound.iterate_step (hlinked : program.IsLinked count)
    (h : IsSound count program calls machine) (n : Nat) :
    IsSound count program (calls + n) (Machine.step^[n] machine) := by
  induction n with
  | zero => exact h
  | succ n ih =>
    rw [Function.iterate_succ_apply']
    exact ih.step hlinked

/-- **A machine of a linked program is sound after any number of steps.** -/
lemma isSound_iterate_step {config : Config} {source : String}
    (hlink : Program.link config source = .ok program) (host : Host) (n : Nat) :
    IsSound config.registerCount program n (step^[n] (fresh config host program)) := by
  simpa using (isSound_fresh config host program).iterate_step (Program.isLinked_of_link hlink) n

/-- **A fault in a run is the failure of an instruction in one of its steps.** -/
lemma exists_failure_of_fault {config : Config} {source : String}
    (hlink : Program.link config source = .ok program) (host : Host) (n : Nat) {fault : Fault}
    (hfault : (step^[n] (fresh config host program)).fault? = some fault) :
    ∃ i < n, ∃ instruction ∈ program.instructions, ∃ (cause : Cause) (log : Array Log.Record),
      let before := (step^[i] (fresh config host program)).fetched log
      execute instruction before = .error cause before ∧
        fault = (Fault.ofCause cause).locate instruction.line instruction.source := by
  induction n with
  | zero => cases hfault
  | succ n ih =>
    rw [Function.iterate_succ_apply'] at hfault
    have hsound := isSound_iterate_step hlink host n
    by_cases hearlier : (step^[n] (fresh config host program)).fault? = some fault
    · obtain ⟨i, hi, hfailed⟩ := ih hearlier
      exact ⟨i, Nat.lt_succ_of_lt hi, hfailed⟩
    · -- the fault is new, so that it is the last step that failed
      have hprogram := hsound.program_eq
      obtain hstay | ⟨-, hstepped⟩ := hsound.step_eq_or_stepped
      · rw [hstay] at hfault
        exact absurd hfault hearlier
      · generalize (step^[n] (fresh config host program)).step = after at hstepped hfault
        cases hstepped with
        | ended hend => exact absurd hfault hearlier
        | executed hle hfetch hopcode heffect =>
          obtain ⟨-, -, -, hkept, -⟩ := heffect.frame
          exact absurd (hkept.symm.trans hfault) hearlier
        | @failed instruction cause log hle hfetch herror hcause =>
          have hmem := Program.mem_of_fetch? hfetch
          rw [hprogram] at hmem
          exact ⟨n, Nat.lt_succ_self n, instruction, hmem, cause, log, herror,
            (Option.some.inj hfault).symm⟩

/-- **A run of limited length is so many steps**, on any stack. -/
lemma runForOn_eq_iterate (stack : Stack) (n : Nat) (machine : Machine) :
    runForOn stack n machine = (stepOn stack)^[n] machine := by
  induction n generalizing machine with
  | zero => rfl
  | succ n ih =>
    rw [runForOn, Function.iterate_succ_apply]
    split
    · exact ih _
    · next hrunning =>
      have hstep : stepOn stack machine = machine :=
        stepOn_of_not_isRunning (Bool.eq_false_iff.2 hrunning)
      rw [hstep, Function.iterate_fixed hstep]

lemma runFor_eq_iterate (n : Nat) (machine : Machine) : runFor n machine = step^[n] machine :=
  runForOn_eq_iterate .unbounded n machine

/-- A run that is long enough is as many steps as there are until the machine stops. -/
lemma runForOn_eq_of_not_isRunning {stack : Stack} {n fuel : Nat}
    (h : ((stepOn stack)^[n] machine).isRunning = false) (hfuel : n ≤ fuel) :
    runForOn stack fuel machine = (stepOn stack)^[n] machine := by
  obtain ⟨more, rfl⟩ := Nat.exists_eq_add_of_le' hfuel
  rw [runForOn_eq_iterate, Function.iterate_add_apply,
    Function.iterate_fixed (stepOn_of_not_isRunning h)]

lemma runFor_eq_of_not_isRunning {n fuel : Nat} (h : (step^[n] machine).isRunning = false)
    (hfuel : n ≤ fuel) : runFor fuel machine = step^[n] machine :=
  runForOn_eq_of_not_isRunning h hfuel

/-- A source text denotes a machine if it is linked and the memory can be provided. -/
lemma load_eq_ok_iff {config : Config} {host : Host} {source : String} :
    load config host source = .ok machine ↔
      ∃ program, Program.link config source = .ok program ∧
        (∃ memory, Memory.allocate config.memorySize = .ok memory) ∧
        machine = (fresh config host program).report
          (.linked program.size program.labels.size) := by
  simp only [load, Except.bind_eq_ok, Except.mapError_eq_ok, Except.pure_eq_ok]
  constructor
  · rintro ⟨program, hlink, memory, hmemory, rfl⟩
    exact ⟨program, hlink, ⟨memory, hmemory⟩, rfl⟩
  · rintro ⟨program, hlink, ⟨memory, hmemory⟩, rfl⟩
    exact ⟨program, hlink, memory, hmemory, rfl⟩

/-! ## What runs guarantee -/

/-- An instruction at the program counter is the one at its place in the program. -/
lemma getElem?_of_current? {instruction : Instruction} (h : machine.current? = some instruction) :
    1 ≤ machine.pc ∧ machine.pc ≤ machine.program.size ∧
      machine.program.instructions[(machine.pc - 1).toNat]? = some instruction := by
  simp only [current?, Bool.and_eq_true, decide_eq_true_eq] at h
  split at h
  · next hrange =>
    obtain ⟨hlower, hupper⟩ := hrange
    obtain ⟨found, hfetch, hget⟩ := Program.fetch?_of_pos hlower hupper
    obtain rfl : found = instruction := by simpa [hfetch] using h
    exact ⟨hlower, hupper, hget⟩
  · cases h

/-- **A step that faults has changed nothing** but the program counter, which has moved on to the
failing instruction, and has printed the fault once. The registers, the flags, the memory, the
aliases, the number of steps and the queued events are as before, and so are the pauses and the
events that the host has recorded.

**Proof sketch.** The store is sound after any number of steps (`isSound_iterate_step`), so that a
step has one of its three outcomes (`stepped`). Only the failure of an instruction ends in a fault,
and an instruction that fails has changed nothing. -/
theorem fault_changes_nothing {config : Config} {source : String} {program : Program}
    (hlink : Program.link config source = .ok program) (host : Host) (calls : Nat) :
    let before := step^[calls] (fresh config host program)
    let after := before.step
    before.state = .running → after.state = .faulted →
      ∃ instruction fault, 0 ≤ before.pc ∧
        program.instructions[before.pc.toNat]? = some instruction ∧
        after.fault? = some fault ∧ fault.line = instruction.line ∧
        fault.source = instruction.source ∧
        after.pc = before.pc + 1 ∧ after.store = before.store ∧ after.steps = before.steps ∧
        after.host.queue = before.host.queue ∧
        match before.host with
        | .capture host =>
          after.host = .capture { host with output := host.output.push fault.report }
        | .console host =>
          after.host = .console { host with stream := host.stream ++ fault.report ++ "\n" } := by
  intro before after hrunning hfaulted
  have hsound : IsSound config.registerCount program calls before :=
    isSound_iterate_step hlink host calls
  have hafter : after = before.step := rfl
  clear_value after before
  obtain ⟨rfl, hstore, hescaped, hcontrol⟩ := hsound
  have hlower : 0 ≤ before.pc := hcontrol.pc_nonneg hrunning
  have hstepped := stepped (by simp [isRunning, hrunning, hescaped]) hlower hstore
  rw [← hafter] at hstepped
  cases hstepped with
  | ended hend => cases hfaulted
  | executed hle hfetch hopcode heffect =>
    rcases heffect.control with ⟨-, rfl⟩ | ⟨hstate, -⟩
    · cases hfaulted
    · have hkept : before.state = .faulted := hstate.symm.trans hfaulted
      simp [hrunning] at hkept
  | @failed instruction cause log hle hfetch herror hcause =>
    obtain ⟨found, hfound, hget⟩ := Program.fetch?_of_pos (by omega) hle
    obtain rfl : found = instruction := by simpa [hfetch] using hfound.symm
    obtain ⟨hline, hsource⟩ := locate_ofCause cause found.line found.source
    refine ⟨found, _, hlower, by simpa using hget, rfl, hline, hsource, rfl, rfl, rfl, ?_, ?_⟩
    · cases hhost : before.host <;>
        simp [fail, print, report, stop, fetched, hhost, Host.write, Host.queue]
    · cases hhost : before.host <;> simp [fail, print, report, stop, fetched, hhost, Host.write]

/-- A division by zero faults and leaves the store as it was. -/
theorem fault_changes_nothing_of_division :
    let program : Program :=
      { instructions :=
          #[⟨"div", [.register "r0", .register "zero"], 1, "div r0, zero"⟩] }
    let machine := fresh .default .freshCapture program
    Program.link .default "div r0, zero" = .ok program ∧ machine.state = .running ∧
      machine.step.state = .faulted ∧ machine.step.store = machine.store ∧
      machine.step.pc = machine.pc + 1 := by
  intro program machine
  have hlink : Program.link .default "div r0, zero" = .ok program := by decide +kernel
  have hrunning : machine.state = .running := rfl
  have hfaulted : machine.step.state = .faulted := by decide +kernel
  obtain ⟨_, _, -, -, -, -, -, hpc, hstore, -⟩ :=
    fault_changes_nothing hlink .freshCapture 0 hrunning hfaulted
  exact ⟨hlink, hrunning, hfaulted, hstore, hpc⟩

/-- **Operands mean what their texts mean, each time they are used.** The operands of a program are
classified once, when the program is linked. In every state that the program reaches, a read or a
write through an operand does what it does through the operand's text, which is tried anew as
something in brackets, a register, an alias and a number, in this order: same value, same store
after it, or same failure.

**Proof sketch.** Names of aliases were read as symbols, so that none of them is in brackets, a
register or a number, and targets of aliases are the readings of their texts; the store is sound
after any number of steps (`isSound_iterate_step`). In such a store the order in which a text is
tried does not matter (`Store.read_eq_readText`, `Store.write_eq_writeText`). -/
theorem operands_mean_their_texts {config : Config} {source : String} {program : Program}
    (hlink : Program.link config source = .ok program) (host : Host) (calls : Nat) :
    let store := (step^[calls] (fresh config host program)).store
    store.aliases.IsReading config.registerCount ∧
    ∀ instruction ∈ program.instructions, ∀ operand ∈ instruction.operands,
      Operand.ofText config.registerCount operand.text = .ok operand ∧
      store.read operand = store.readText operand.text ∧
      ∀ value, Store.write operand value store = Store.writeText operand.text value store := by
  intro store
  have hsound : store.IsSound config.registerCount := (isSound_iterate_step hlink host calls).store
  clear_value store
  refine ⟨hsound.aliases, fun instruction hinstruction operand hoperand => ?_⟩
  have hreading : operand.IsReading config.registerCount :=
    (Program.isLinked_of_link hlink).operands instruction hinstruction operand hoperand
  have hsize := hsound.size_eq
  refine ⟨hreading, ?_, fun value => ?_⟩
  · exact Store.read_eq_readText (by rw [hsize]; exact hsound.aliases) (by rwa [hsize])
  · exact Store.write_eq_writeText (by rw [hsize]; exact hsound.aliases) (by rwa [hsize]) value

/-- An alias that a program has defined is found by its text. -/
theorem operands_mean_their_texts_of_alias :
    let program : Program :=
      { instructions :=
          #[⟨"als", [.symbol "x", .indirect "[r1]" (.register "r1")], 1, "als x, [r1]"⟩,
            ⟨"mov", [.symbol "x", .literal "7" (.int 7)], 2, "mov x, 7"⟩] }
    let store := (step^[2] (fresh .default .freshCapture program)).store
    Program.link .default "als x, [r1]\nmov x, 7" = .ok program ∧
      store.read (.symbol "x") = .ok (.int 7) ∧ store.readText "x" = .ok (.int 7) := by
  intro program store
  have hlink : Program.link .default "als x, [r1]\nmov x, 7" = .ok program := by decide +kernel
  have hread : store.read (.symbol "x") = .ok (.int 7) := by decide +kernel
  obtain ⟨-, hoperands⟩ := operands_mean_their_texts hlink .freshCapture 2
  obtain ⟨-, htext, -⟩ :=
    hoperands program.instructions[1] (by simp) (.symbol "x") (by simp [program])
  exact ⟨hlink, hread, htext.symm.trans hread⟩

end RegisterMachine.Machine
