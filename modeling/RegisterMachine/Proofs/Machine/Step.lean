import RegisterMachine.Proofs.Machine.Atomicity
import RegisterMachine.Proofs.Program

set_option autoImplicit false
set_option relaxedAutoImplicit false

/-!
# Steps

What one step does to a machine that runs: it ends the program, executes an instruction, or stops
at an instruction that fails. There is no fourth way on machines that work on a sound store.

## Main definitions

* `RegisterMachine.Machine.fetched` — a machine whose program counter has moved on.
* `RegisterMachine.Machine.Stepped` — the three outcomes of a step.

## Main results

* `RegisterMachine.Machine.stepped` — every step has one of the outcomes.
* `RegisterMachine.Machine.step_of_not_isRunning` — a machine that does not run stays as it is.
-/

namespace RegisterMachine.Machine

variable {machine next : Machine} {count : Nat}

/-- The machine with its program counter moved on, and with what it has recorded about that. -/
def fetched (machine : Machine) (log : Array Log.Record) : Machine :=
  { machine with pc := machine.pc + 1, log }

/-- The outcomes of a step. -/
inductive Stepped (machine : Machine) : Machine → Prop
  /-- The program counter went past the last instruction. -/
  | ended (hend : machine.program.size < machine.pc + 1) :
      Stepped machine ((machine.fetched machine.log).stop .halted .programEnd)
  /-- An instruction was executed. -/
  | executed {instruction : Instruction} {opcode : Opcode} {log : Array Log.Record} {next : Machine}
      (hle : machine.pc + 1 ≤ machine.program.size)
      (hfetch : machine.program.fetch? (machine.pc + 1) = some instruction)
      (hopcode : Opcode.ofMnemonic? instruction.mnemonic = some opcode)
      (heffect : Effect (machine.fetched log) opcode instruction.operands next) :
      Stepped machine { next with steps := next.steps + 1 }
  /-- An instruction failed, and had changed nothing. -/
  | failed {instruction : Instruction} {cause : Cause} {log : Array Log.Record}
      (hle : machine.pc + 1 ≤ machine.program.size)
      (hfetch : machine.program.fetch? (machine.pc + 1) = some instruction)
      (herror : execute instruction (machine.fetched log) = .error cause (machine.fetched log))
      (hfault : cause.isFault) :
      Stepped machine ((machine.fetched log).fail instruction cause)

lemma state_of_isRunning (h : machine.isRunning) : machine.state = .running := by
  simp only [isRunning, Bool.and_eq_true, decide_eq_true_eq] at h
  exact h.1

/-- A machine that does not run stays as it is, on any stack. -/
lemma stepOn_of_not_isRunning {stack : Stack} (h : machine.isRunning = false) :
    stepOn stack machine = machine := by
  simp [stepOn, h]

lemma step_of_not_isRunning (h : machine.isRunning = false) : machine.step = machine :=
  stepOn_of_not_isRunning h

/-- Behind its last instruction a machine ends. -/
lemma step_eq_stop (hrunning : machine.isRunning) (hend : machine.program.size < machine.pc + 1) :
    machine.step = (machine.fetched machine.log).stop .halted .programEnd := by
  rw [step_def, if_pos hrunning]
  exact if_pos hend

/-- Within its program a machine executes the next instruction. -/
lemma step_eq_executeInstruction {instruction : Instruction} (hrunning : machine.isRunning)
    (hle : machine.pc + 1 ≤ machine.program.size)
    (hfetch : machine.program.fetch? (machine.pc + 1) = some instruction) :
    machine.step = (machine.fetched machine.log).executeInstruction instruction := by
  rw [step_def, if_pos hrunning]
  dsimp only
  rw [if_neg (Int.not_lt.2 hle), hfetch]
  rfl

/-- A record in the trace changes the log only. -/
lemma exists_log_of_tracing {traced : Machine} {instruction : Instruction}
    (h : machine.tracing instruction = .ok traced) : ∃ log, traced = { machine with log } := by
  unfold tracing at h
  split at h
  · obtain ⟨registers, -, hreport⟩ := Except.bind_eq_ok.1 h
    cases hreport
    exact ⟨_, rfl⟩
  · cases h
    exact ⟨_, rfl⟩

/-- The registers of a machine with a sound store can be recorded. -/
lemma exists_tracing (hstore : machine.store.IsSound count) (instruction : Instruction) :
    ∃ log, machine.tracing instruction = .ok { machine with log } := by
  obtain ⟨registers, hregisters⟩ := hstore.exists_display
  by_cases htrace : machine.trace
  · refine ⟨machine.log.push
      (.executing machine.pc instruction.line instruction.source registers), ?_⟩
    simp [tracing, htrace, hregisters, report]
  · refine ⟨machine.log, ?_⟩
    rw [tracing, if_neg htrace]
    rfl

/-- Within its program a machine with a sound store records the next instruction, if at all, and
executes it. -/
lemma exists_log_step_eq_executeTraced {instruction : Instruction} (hrunning : machine.isRunning)
    (hle : machine.pc + 1 ≤ machine.program.size)
    (hfetch : machine.program.fetch? (machine.pc + 1) = some instruction)
    (hstore : machine.store.IsSound count) :
    ∃ log, machine.step = (machine.fetched log).executeTraced instruction := by
  have hfetched : (machine.fetched machine.log).store.IsSound count := hstore
  obtain ⟨log, htracing⟩ := exists_tracing hfetched instruction
  refine ⟨log, ?_⟩
  rw [step_eq_executeInstruction hrunning hle hfetch, executeInstruction_def, htracing]
  rfl

/-- Within its program a machine with a sound store executes the next instruction, if that succeeds
whatever has been recorded. -/
lemma exists_log_step_of_execute {instruction : Instruction} {after : Array Log.Record → Machine}
    (hrunning : machine.isRunning) (hle : machine.pc + 1 ≤ machine.program.size)
    (hfetch : machine.program.fetch? (machine.pc + 1) = some instruction)
    (hstore : machine.store.IsSound count)
    (hexecute : ∀ log, execute instruction (machine.fetched log) = .ok () (after log)) :
    ∃ log, machine.step = { after log with steps := (after log).steps + 1 } := by
  obtain ⟨log, hstep⟩ := exists_log_step_eq_executeTraced hrunning hle hfetch hstore
  exact ⟨log, by rw [hstep, executeTraced_def, hexecute]⟩

/-- An instruction that succeeds is known, and has its effect. -/
lemma effect_of_execute {instruction : Instruction}
    (h : execute instruction machine = .ok () next) :
    ∃ opcode, Opcode.ofMnemonic? instruction.mnemonic = some opcode ∧
      Effect machine opcode instruction.operands next := by
  cases hopcode : Opcode.ofMnemonic? instruction.mnemonic with
  | some opcode => exact ⟨opcode, rfl, effect_of_perform (by simpa [execute_def, hopcode] using h)⟩
  | none => simp [execute_def, hopcode] at h

/-- An instruction that is known and has an effect succeeds with it. -/
lemma execute_of_effect {instruction : Instruction} {opcode : Opcode}
    (hopcode : Opcode.ofMnemonic? instruction.mnemonic = some opcode)
    (h : Effect machine opcode instruction.operands next) :
    execute instruction machine = .ok () next := by
  simp only [execute_def, hopcode]
  exact perform_of_effect h

/-- **Every step ends the program, executes an instruction or stops at one that fails**, on machines
that run on a sound store and have not left the program to its front.

**Proof sketch.** The program counter moves on to an instruction of the program, whose registers can
be recorded, unless it goes past the last one. The instruction has its effect if it succeeds
(`effect_of_execute`); if it fails it has changed nothing, and the failure is a fault of the program
(`isAtomicAt_execute`). -/
lemma stepped (hrunning : machine.isRunning) (hpc : 0 ≤ machine.pc)
    (hstore : machine.store.IsSound count) : Stepped machine machine.step := by
  by_cases hend : machine.program.size < machine.pc + 1
  · rw [step_eq_stop hrunning hend]
    exact .ended hend
  · have hle : machine.pc + 1 ≤ machine.program.size := Int.not_lt.1 hend
    obtain ⟨instruction, hfetch, -⟩ := Program.fetch?_of_pos (by omega) hle
    -- recording the registers does not fail, so the instruction is executed
    obtain ⟨log, hstep⟩ := exists_log_step_eq_executeTraced hrunning hle hfetch hstore
    rw [hstep, executeTraced_def]
    cases hexecute : execute instruction (machine.fetched log) with
    | ok u next =>
      obtain ⟨opcode, hopcode, heffect⟩ := effect_of_execute hexecute
      exact .executed hle hfetch hopcode heffect
    | error cause after =>
      have htraced : (machine.fetched log).store.IsSound count := hstore
      obtain ⟨rfl, hfault⟩ := isAtomicAt_execute htraced instruction cause after hexecute
      dsimp only
      rw [if_pos hfault]
      exact .failed hle hfetch hexecute hfault

end RegisterMachine.Machine
