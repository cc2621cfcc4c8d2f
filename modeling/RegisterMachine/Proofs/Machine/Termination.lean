import RegisterMachine.Proofs.Machine.Stack
import Mathlib.Data.Nat.Find

set_option autoImplicit false
set_option relaxedAutoImplicit false

/-!
# Programs that jump forward

A program whose jumps all lead forward stops: each step moves the program counter on, whether it
jumps or not, and the counter stays within the program while the machine runs. No instruction is
executed twice on the way. The stack alone may cut a run short, at an operand that does not fit.

## Main definitions

* `RegisterMachine.Instruction.jumpLabel?` — the label that an instruction may jump to.
* `RegisterMachine.Program.JumpsForward` — the programs whose jumps all lead forward.
* `RegisterMachine.Machine.ExecutesAt` — the number of the instruction that a step executes.

## Main results

* `RegisterMachine.Machine.pc_lt_pc_step` — a step moves the program counter on.
* `RegisterMachine.Machine.pc_add_le_pc_iterate` — so many steps move it on by at least as many
  places.
* `RegisterMachine.Machine.forward_programs_stop` — such a program stops or is broken off, and
  executes no instruction twice.
-/

namespace RegisterMachine

/-! ## Programs -/

/-- The label that an instruction may jump to. -/
def Instruction.jumpLabel? (instruction : Instruction) : Option String :=
  match Opcode.ofMnemonic? instruction.mnemonic, instruction.operands with
  | some (.jump _), label :: _ => some label.text
  | _, _ => none

/-- Every label that an instruction may jump to is bound to a later number than that of the
instruction, if it is bound at all. -/
def Program.JumpsForward (program : Program) : Prop :=
  ∀ i : Fin program.instructions.size, ∀ label ∈ program.instructions[i].jumpLabel?,
    ∀ index ∈ program.labelIndex? label, i.val + 1 < index

instance (program : Program) : Decidable program.JumpsForward :=
  inferInstanceAs <| Decidable <|
    ∀ i : Fin program.instructions.size, ∀ label ∈ program.instructions[i].jumpLabel?,
      ∀ index ∈ program.labelIndex? label, i.val + 1 < index

namespace Machine

variable {stack : Stack} {machine next : Machine} {program : Program} {count calls : Nat}

/-- The next step executes the instruction with a number, whether that succeeds, fails or is broken
off. -/
def ExecutesAt (stack : Stack) (machine : Machine) (number : Int) : Prop :=
  machine.isRunning ∧ machine.pc + 1 = number ∧ ∃ instruction,
    machine.program.fetch? number = some instruction ∧
      stepOn stack machine = executeInstructionOn stack { machine with pc := number } instruction

/-! ## Steps -/

/-- An instruction leaves the program counter where it is, or jumps to its label. -/
lemma Effect.pc_eq_or_jumpLabel {instruction : Instruction} {opcode : Opcode}
    (hopcode : Opcode.ofMnemonic? instruction.mnemonic = some opcode)
    (h : Effect machine opcode instruction.operands next) :
    next.pc = machine.pc ∨ ∃ label index, instruction.jumpLabel? = some label ∧
      machine.program.labelIndex? label = some index ∧ next.pc = index - 1 := by
  generalize hoperands : instruction.operands = operands at h
  cases h with
  | @taken condition label rest index hholds hlabel =>
    refine .inr ⟨label.text, index, ?_, hlabel, rfl⟩
    simp only [Instruction.jumpLabel?, hopcode, hoperands]
  | dbg => exact .inl (by rw [foldl_print])
  | _ => exact .inl rfl

/-- A machine that runs after a step has run before it. -/
lemma state_of_step (h : machine.step.state = .running) : machine.state = .running := by
  by_contra hstate
  rw [step_of_not_isRunning (by simp [isRunning, hstate])] at h
  exact hstate h

/-- **A step of a program that jumps forward moves the program counter on**, unless the machine
stops. -/
lemma pc_lt_pc_step (hforward : program.JumpsForward) (h : IsSound count program calls machine)
    (hafter : machine.step.state = .running) : machine.pc < machine.step.pc := by
  have hstate := state_of_step hafter
  have hlower := h.control.pc_nonneg hstate
  have hstepped := h.stepped hstate
  obtain ⟨rfl, -, -, -⟩ := h
  generalize machine.step = after at hstepped hafter
  cases hstepped with
  | ended => cases hafter
  | failed => cases hafter
  | @executed instruction opcode log next hle hfetch hopcode heffect =>
    change machine.pc < next.pc
    obtain hpc | ⟨label, index, hlabel, hindex, hpc⟩ := heffect.pc_eq_or_jumpLabel hopcode
    · have hmoved : next.pc = machine.pc + 1 := hpc
      omega
    · -- the jump goes to just before a number that is later than its own
      obtain ⟨found, hfound, hget⟩ := Program.fetch?_of_pos (by omega) hle
      obtain rfl : found = instruction := by simpa [hfetch] using hfound.symm
      obtain ⟨hlt, rfl⟩ := Array.getElem?_eq_some_iff.1 hget
      have hlater := hforward ⟨_, hlt⟩ label hlabel index hindex
      dsimp only at hlater
      omega

/-- A step counts no more instructions than the program has, if no more have been counted before it
than the program counter says. -/
lemma steps_step_le (h : IsSound count program calls machine) (hstate : machine.state = .running)
    (hpc : (machine.steps : Int) ≤ machine.pc) : machine.step.steps ≤ program.size := by
  obtain ⟨-, hupper, -⟩ := h.control.of_running hstate
  have hstepped := h.stepped hstate
  obtain ⟨rfl, -, -, -⟩ := h
  generalize machine.step = after at hstepped
  cases hstepped with
  | ended =>
    change machine.steps ≤ machine.program.size
    omega
  | failed hle =>
    change machine.steps ≤ machine.program.size
    omega
  | @executed instruction opcode log next hle hfetch hopcode heffect =>
    obtain ⟨-, -, hsteps, -⟩ := heffect.frame
    have hkept : next.steps = machine.steps := hsteps
    change next.steps + 1 ≤ machine.program.size
    omega

/-! ## Runs -/

/-- **So many steps of a program that jumps forward move the program counter on by at least as many
places**, unless the machine stops. -/
lemma pc_add_le_pc_iterate (hlinked : program.IsLinked count) (hforward : program.JumpsForward)
    (h : IsSound count program calls machine) {n : Nat}
    (hrunning : (step^[n] machine).state = .running) :
    machine.pc + n ≤ (step^[n] machine).pc := by
  induction n with
  | zero => simp
  | succ n ih =>
    rw [Function.iterate_succ_apply'] at hrunning ⊢
    have hbefore := ih (state_of_step hrunning)
    have hmoved := pc_lt_pc_step hforward (h.iterate_step hlinked n) hrunning
    push_cast
    omega

/-- **A program that jumps forward executes its instructions in the order of their numbers.** -/
lemma ExecutesAt.number_lt (hlinked : program.IsLinked count) (hforward : program.JumpsForward)
    (h : IsSound count program calls machine) {i j : Nat} {m n : Int} (hij : i < j)
    (hm : ExecutesAt stack ((stepOn stack)^[i] machine) m)
    (hn : ExecutesAt stack ((stepOn stack)^[j] machine) n) : m < n := by
  obtain ⟨more, rfl⟩ := Nat.exists_eq_add_of_lt hij
  obtain ⟨hearlier, rfl, -⟩ := hm
  obtain ⟨hrunning, rfl, -⟩ := hn
  have hlater : (stepOn stack)^[i + more + 1] machine = step^[more + 1] (step^[i] machine) := by
    rw [iterate_stepOn_of_isRunning hrunning, Nat.add_assoc, Nat.add_comm,
      Function.iterate_add_apply]
  rw [hlater] at hrunning ⊢
  rw [iterate_stepOn_of_isRunning hearlier]
  have hmoved := pc_add_le_pc_iterate hlinked hforward (h.iterate_step hlinked i)
    (state_of_isRunning hrunning)
  push_cast at hmoved
  omega

/-- A program that jumps forward counts no more instructions than it has. -/
lemma steps_iterate_le (hlinked : program.IsLinked count) (hforward : program.JumpsForward)
    (h : IsSound count program 0 machine) (hstate : machine.state = .running) (n : Nat) :
    (step^[n] machine).steps ≤ program.size := by
  induction n with
  | zero =>
    obtain ⟨-, -, hsteps⟩ := h.control.of_running hstate
    exact hsteps.trans_le (Nat.zero_le _)
  | succ n ih =>
    rw [Function.iterate_succ_apply']
    have hsound := h.iterate_step hlinked n
    by_cases hrunning : (step^[n] machine).state = .running
    · refine steps_step_le hsound hrunning ?_
      have hlower := h.control.pc_nonneg hstate
      have hmoved := pc_add_le_pc_iterate hlinked hforward h hrunning
      obtain ⟨-, -, hsteps⟩ := hsound.control.of_running hrunning
      omega
    · rwa [step_of_not_isRunning (by simp [isRunning, hrunning])]

/-- A machine that jumps forward does not run any more after one step more than its program has
instructions. -/
lemma state_iterate_ne_running (hlinked : program.IsLinked count)
    (hforward : program.JumpsForward) (h : IsSound count program calls machine)
    (hlower : 0 ≤ machine.pc) : (step^[program.size + 1] machine).state ≠ .running := by
  intro hrunning
  have hsound := h.iterate_step hlinked (program.size + 1)
  have hmoved := pc_add_le_pc_iterate hlinked hforward h hrunning
  obtain ⟨-, hupper, -⟩ := hsound.control.of_running hrunning
  rw [hsound.program_eq] at hupper
  push_cast at hmoved
  omega

/-- Steps of a program that jumps forward, on any stack, come to an end after one more than it has
instructions. -/
lemma not_isRunning_iterate_stepOn (hlinked : program.IsLinked count)
    (hforward : program.JumpsForward) (h : IsSound count program calls machine)
    (hlower : 0 ≤ machine.pc) :
    ((stepOn stack)^[program.size + 1] machine).isRunning = false := by
  by_contra hrunning
  rw [Bool.not_eq_false] at hrunning
  refine state_iterate_ne_running hlinked hforward h hlower (state_of_isRunning ?_)
  rwa [← iterate_stepOn_of_isRunning hrunning]

/-- A machine that does not run after some steps has run until then. -/
lemma exists_stop {n : Nat} (h : ((stepOn stack)^[n] machine).isRunning = false) :
    ∃ calls ≤ n, (∀ i < calls, ((stepOn stack)^[i] machine).isRunning) ∧
      ((stepOn stack)^[calls] machine).isRunning = false := by
  have hstops : ∃ calls, ((stepOn stack)^[calls] machine).isRunning = false := ⟨n, h⟩
  refine ⟨Nat.find hstops, Nat.find_min' hstops h, fun i hi => ?_, Nat.find_spec hstops⟩
  exact (Bool.not_eq_false _).mp (Nat.find_min hstops hi)

/-- **Programs that jump forward stop.** Take a linked program in which every jump to a label that
is defined leads forward. A run of it comes to an end after at most one step more than the program
has instructions, and counts at most as many steps as there are instructions. It does not matter how
many steps it is allowed beyond that. On the way no instruction is executed twice. At the end the
machine has stopped, with a reason, unless it has been broken off at an instruction with an operand
that does not fit on the stack.

**Proof sketch.** A step that leaves the machine running moves the program counter on: to the next
instruction, or to just before a label that is behind the jump (`pc_lt_pc_step`). So many steps move
it on by at least as many places (`pc_add_le_pc_iterate`), and a machine that runs is within its
program. On a stack the steps are the same until one of them is broken off
(`iterate_stepOn_eq_or_breaksOff`). -/
theorem forward_programs_stop {config : Config} {source : String} {program : Program}
    (hlink : Program.link config source = .ok program) (hforward : program.JumpsForward)
    (host : Host) (stack : Stack) :
    let after := fun n => (stepOn stack)^[n] (fresh config host program).begin
    ∃ calls ≤ program.size + 1,
      (∀ i < calls, (after i).isRunning) ∧
      ((after calls).escaped? = none ∧ (after calls).state ≠ .running ∧
          (∃ reason, (after calls).stopReason? = some reason) ∨
        (after calls).escaped? = some .stackExhausted ∧ (after calls).state = .running ∧
          ∃ instruction operand, program.fetch? (after calls).pc = some instruction ∧
            operand ∈ instruction.operands ∧ ¬ (after calls).store.Fits stack operand) ∧
      (after calls).steps ≤ program.size ∧
      (∀ fuel, calls ≤ fuel →
        (fresh config host program).runOn stack fuel = (after calls).finish) ∧
      ∀ i j number, ExecutesAt stack (after i) number → ExecutesAt stack (after j) number →
        i = j := by
  intro after
  have hlinked := Program.isLinked_of_link hlink
  have hstart := isSound_begin config host program
  have hstate : (fresh config host program).begin.state = .running := rfl
  have hlower := hstart.control.pc_nonneg hstate
  obtain ⟨calls, hle, hruns, hstopped⟩ :=
    exists_stop (not_isRunning_iterate_stepOn hlinked hforward hstart hlower)
  have hsteps := steps_iterate_le hlinked hforward hstart hstate
  refine ⟨calls, hle, hruns, ?_, ?_, fun fuel hfuel => ?_, ?_⟩
  · obtain hsame | ⟨k, -, hbreak⟩ := iterate_stepOn_eq_or_breaksOff stack _ calls
    · have hfinal := hstart.iterate_step hlinked calls
      rw [← hsame] at hfinal
      have hend : (after calls).state ≠ .running := by
        simpa [isRunning, hfinal.escaped?_eq] using hstopped
      exact .inl ⟨hfinal.escaped?_eq, hend, hfinal.control.exists_stopReason hend⟩
    · obtain ⟨-, hescaped, hrunning, -, hfits⟩ := hbreak.stands
      rw [(hstart.iterate_step hlinked k).program_eq] at hfits
      exact .inr ⟨hescaped, hrunning, hfits⟩
  · obtain hsame | ⟨k, -, hbreak⟩ := iterate_stepOn_eq_or_breaksOff stack _ calls
    · exact (congrArg Machine.steps hsame).trans_le (hsteps calls)
    · obtain ⟨-, -, -, hkept, -⟩ := hbreak.stands
      exact hkept.trans_le (hsteps k)
  · rw [runOn, runForOn_eq_of_not_isRunning hstopped hfuel]
  · intro i j number hi hj
    by_contra hne
    obtain hij | hji := Nat.lt_or_gt_of_ne hne
    · exact Int.lt_irrefl _ (ExecutesAt.number_lt hlinked hforward hstart hij hi hj)
    · exact Int.lt_irrefl _ (ExecutesAt.number_lt hlinked hforward hstart hji hj hi)

/-- A jump over an instruction to the end of the program is executed once, and then the program
ends. -/
theorem forward_programs_stop_at_end :
    let jump : Instruction := ⟨"jmp", [.symbol "end"], 1, "jmp end"⟩
    let program : Program :=
      { instructions := #[jump, ⟨"out", [.register "r0"], 2, "out r0"⟩]
        labels := #[⟨"end", 3, 3⟩] }
    let start := (fresh .default .freshCapture program).begin
    Program.link .default "jmp end\nout r0\nend:" = .ok program ∧ program.JumpsForward ∧
      (∃ calls ≤ 3, ((stepOn (.bounded 1000))^[calls] start).state = .halted) ∧
      ExecutesAt (.bounded 1000) start 1 ∧
      ∀ j, ExecutesAt (.bounded 1000) ((stepOn (.bounded 1000))^[j] start) 1 → 0 = j := by
  intro jump program start
  have hlink : Program.link .default "jmp end\nout r0\nend:" = .ok program := by decide +kernel
  have hforward : program.JumpsForward := by decide +kernel
  have hfirst : ExecutesAt (.bounded 1000) start 1 := ⟨rfl, rfl, jump, rfl, rfl⟩
  have hhalted : ((stepOn (.bounded 1000))^[2] start).state = .halted := by decide +kernel
  obtain ⟨-, -, -, -, -, -, honce⟩ :=
    forward_programs_stop hlink hforward .freshCapture (.bounded 1000)
  exact ⟨hlink, hforward, ⟨2, by decide, hhalted⟩, hfirst, fun j => honce 0 j 1 hfirst⟩

/-- A program without a jump whose run does not stop on a stack with room for a thousand frames: a
name stands for itself in fifteen brackets. -/
theorem forward_program_breaks_off :
    let bracket (inner : Operand) : Operand := .indirect ("[" ++ inner.text ++ "]") inner
    let first := "als b, [[[[[[[[[[[[[[[b]]]]]]]]]]]]]]]"
    let program : Program :=
      { instructions :=
          #[⟨"als", [.symbol "b", bracket^[15] (.symbol "b")], 1, first⟩,
            ⟨"mov", [.register "r0", .symbol "b"], 2, "mov r0, b"⟩,
            ⟨"hlt", [], 3, "hlt"⟩] }
    Program.link .default (first ++ "\nmov r0, b\nhlt") = .ok program ∧ program.JumpsForward ∧
      ∀ fuel, 4 ≤ fuel →
        let machine := (fresh .default .freshCapture program).runOn (.bounded 1000) fuel
        machine.state = .running ∧ machine.escaped? = some .stackExhausted := by
  intro bracket first program
  have hlink : Program.link .default (first ++ "\nmov r0, b\nhlt") = .ok program := by
    decide +kernel
  have hforward : program.JumpsForward := by decide +kernel
  refine ⟨hlink, hforward, fun fuel hfuel => ?_⟩
  dsimp only
  have hstopped : ((stepOn (.bounded 1000))^[2]
      (fresh .default .freshCapture program).begin).isRunning = false := by decide +kernel
  rw [runOn, runForOn_eq_of_not_isRunning hstopped (by omega)]
  decide +kernel

end Machine

end RegisterMachine
