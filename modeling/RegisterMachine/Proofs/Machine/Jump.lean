import RegisterMachine.Proofs.Machine.Run
import RegisterMachine.Proofs.Program.Order

set_option autoImplicit false
set_option relaxedAutoImplicit false

/-!
# Jumps

A jump that is taken goes to the line of its label: the instruction executed next is the first one
on the lines below, and if there is none the program ends.

## Main results

* `RegisterMachine.Machine.step_of_jump` — what a jump that is taken changes.
* `RegisterMachine.Machine.jumps_go_to_lines` — where it leads to.
-/

namespace RegisterMachine.Machine

variable {machine : Machine} {instruction : Instruction} {condition : Condition} {label : Operand}
  {rest : List Operand} {index count : Nat}

/-- A jump whose condition holds moves the program counter to just before the number that its label
is bound to. -/
lemma execute_of_jump (hopcode : Opcode.ofMnemonic? instruction.mnemonic = some (.jump condition))
    (hoperands : instruction.operands = label :: rest)
    (hholds : condition.holds machine.store.registers.flags)
    (hlabel : machine.program.labelIndex? label.text = some index) :
    execute instruction machine = .ok () { machine with pc := index - 1 } := by
  simp only [execute_def, hopcode, hoperands, perform, performOn, branch, Action.get_bind, hholds,
    if_true, jumpTo, Action.update_eq_ok, hlabel]

/-- **A jump that is taken moves the program counter and counts as a step**, and changes nothing
else but the log. -/
lemma step_of_jump (hrunning : machine.isRunning) (hpc : 0 ≤ machine.pc)
    (hstore : machine.store.IsSound count)
    (hfetch : machine.program.fetch? (machine.pc + 1) = some instruction)
    (hopcode : Opcode.ofMnemonic? instruction.mnemonic = some (.jump condition))
    (hoperands : instruction.operands = label :: rest)
    (hholds : condition.holds machine.store.registers.flags)
    (hlabel : machine.program.labelIndex? label.text = some index) :
    ∃ log, machine.step =
      { machine with pc := index - 1, steps := machine.steps + 1, log } := by
  have hle := Program.le_size_of_fetch? (by omega) hfetch
  have hexecute : ∀ log, execute instruction (machine.fetched log) =
      .ok () { machine.fetched log with pc := index - 1 } := fun log =>
    execute_of_jump hopcode hoperands hholds hlabel
  exact exists_log_step_of_execute hrunning hle hfetch hstore hexecute

/-- **Jumps go to lines.** A label is defined on a line of the source, and in a state that the
program reaches a jump is taken whose first operand has the label's name for its text. The machine
runs on with the same registers, memory and aliases, and its next step executes the first
instruction on the lines below the label's; if there is none, the machine halts at the end of the
program.

**Proof sketch.** Linking binds the label to the number of the first instruction below its line, or
to the place behind the last one (`Program.isOrdered_of_link`). The jump sets the program counter to
just before this number (`step_of_jump`), and the next step moves it on. -/
theorem jumps_go_to_lines {config : Config} {source : String} {program : Program}
    (hlink : Program.link config source = .ok program) {number : Nat} {line : Line} {name : String}
    (hline : (number, line) ∈ Program.numberedLines source) (hlabel : line.statement = .label name)
    (host : Host) (calls : Nat) {instruction : Instruction} {condition : Condition}
    {operand : Operand} {rest : List Operand} :
    let before := step^[calls] (fresh config host program)
    let after := before.step
    before.state = .running →
    program.fetch? (before.pc + 1) = some instruction →
    Opcode.ofMnemonic? instruction.mnemonic = some (.jump condition) →
    instruction.operands = operand :: rest → operand.text = name →
    condition.holds before.store.registers.flags →
      after.state = .running ∧ after.store = before.store ∧ after.host = before.host ∧
      ((∃ target ∈ program.instructions, number < target.line ∧
          (∀ other ∈ program.instructions, number < other.line → target.line ≤ other.line) ∧
          after.step = executeInstruction { after with pc := after.pc + 1 } target) ∨
        ((∀ other ∈ program.instructions, other.line ≤ number) ∧
          after.step.state = .halted ∧ after.step.stopReason? = some .programEnd)) := by
  intro before after hrunning hfetch hopcode hoperands htext hholds
  have hsound : IsSound config.registerCount program calls before :=
    isSound_iterate_step hlink host calls
  have hafter : after = before.step := rfl
  clear_value after before
  obtain ⟨rfl, hstore, hescaped, hcontrol⟩ := hsound
  obtain ⟨label, hindex, rfl, hseparates⟩ := Program.exists_label_of_link hlink hline hlabel
  have hpos := ((Program.isLinked_of_link hlink).labelIndex?_bounds hindex).1
  have hruns : before.isRunning := by simp [isRunning, hrunning, hescaped]
  rw [← htext] at hindex
  obtain ⟨log, hjumped⟩ := step_of_jump hruns (hcontrol.pc_nonneg hrunning) hstore hfetch hopcode
    hoperands hholds hindex
  rw [hjumped] at hafter
  have hruns' : after.isRunning := by rw [hafter]; exact hruns
  have hprogram : after.program = before.program := by rw [hafter]
  have hpc : after.pc + 1 = label.index := by rw [hafter]; simp
  refine ⟨by rw [hafter]; exact hrunning, by rw [hafter], by rw [hafter], ?_⟩
  by_cases hend : before.program.size < label.index
  · -- the label stands behind the last instruction
    refine .inr ⟨fun other hother => Nat.le_of_lt (hseparates.line_lt hend hother), ?_⟩
    rw [step_eq_stop hruns' (by rw [hprogram, hpc]; exact Int.ofNat_lt.2 hend)]
    exact ⟨rfl, rfl⟩
  · have hle : (label.index : Int) ≤ before.program.size := by omega
    obtain ⟨target, hfetch', hget⟩ := Program.fetch?_of_pos (by omega) hle
    have hget' : before.program.instructions[label.index - 1]? = some target := by
      rwa [show ((label.index : Int) - 1).toNat = label.index - 1 by omega] at hget
    have hordered := Program.isOrdered_of_link hlink
    refine .inl ⟨target, Array.mem_of_getElem? hget', hseparates.below _ _ hget' (by omega),
      fun other => hordered.line_le hseparates hpos hget', ?_⟩
    rw [step_eq_executeInstruction hruns' (by rw [hprogram, hpc]; exact hle)
      (by rw [hprogram, hpc]; exact hfetch')]
    rfl

/-- A jump to the first of two labels, with a comment between them and the next instruction. -/
theorem jumps_go_to_lines_of_comment :
    let source := "jmp r0\nnop\nr0:\nhere:\n; stop\nhlt"
    let program : Program :=
      { instructions :=
          #[⟨"jmp", [.register "r0"], 1, "jmp r0"⟩, ⟨"nop", [], 2, "nop"⟩, ⟨"hlt", [], 6, "hlt"⟩]
        labels := #[⟨"r0", 3, 3⟩, ⟨"here", 3, 4⟩] }
    let before := fresh .default .freshCapture program
    let after := before.step
    Program.link .default source = .ok program ∧ after.state = .running ∧
      after.store = before.store ∧
      after.step = executeInstruction { after with pc := after.pc + 1 } ⟨"hlt", [], 6, "hlt"⟩ := by
  intro source program before after
  have hlink : Program.link .default source = .ok program := by decide +kernel
  have hline : (3, ⟨"r0:", .label "r0"⟩) ∈ Program.numberedLines source := by decide +kernel
  have hfetch : program.fetch? (before.pc + 1) = some ⟨"jmp", [.register "r0"], 1, "jmp r0"⟩ := rfl
  have hopcode : Opcode.ofMnemonic? "jmp" = some (.jump .always) := by decide +kernel
  obtain ⟨hrunning, hstore, -, ⟨target, hmem, hbelow, -, hstep⟩ | ⟨hlines, -⟩⟩ :=
    jumps_go_to_lines hlink hline rfl .freshCapture 0 rfl hfetch hopcode rfl rfl rfl
  · refine ⟨hlink, hrunning, hstore, ?_⟩
    simp only [program, List.mem_toArray, List.mem_cons, List.not_mem_nil, or_false] at hmem
    -- the first two instructions stand above the label
    obtain rfl | rfl | rfl := hmem
    · simp at hbelow
    · simp at hbelow
    · exact hstep
  · exact absurd (hlines ⟨"hlt", [], 6, "hlt"⟩ (by simp [program])) (by simp)

end RegisterMachine.Machine
