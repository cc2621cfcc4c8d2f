import RegisterMachine.Proofs.Machine.Footprint
import RegisterMachine.Proofs.Machine.Jump
import RegisterMachine.Proofs.Number.Order

set_option autoImplicit false
set_option relaxedAutoImplicit false

/-!
# Comparisons and jumps

A jump tests the comparison that was executed last, whatever has been executed in between, as long
as no instruction was told to write to one of the comparison flags. The state may be any, not only
one that a program reaches.

## Main definitions

* `RegisterMachine.Instruction.destination?` — the operand that an instruction stores a number to.
* `RegisterMachine.Instruction.KeepsComparison` — an instruction that leaves the comparison flags.

## Main results

* `RegisterMachine.Machine.holds_step` — such an instruction leaves all conditions.
* `RegisterMachine.Machine.holds_iterate_step` — so does any number of them.
* `RegisterMachine.Machine.comparison_decides_jump` — a jump is taken if and only if the numbers
  compared last are in its relation.
-/

namespace RegisterMachine

/-- The operand that an instruction stores a number to, if it stores one. -/
def Instruction.destination? (instruction : Instruction) : Option Operand :=
  match Opcode.ofMnemonic? instruction.mnemonic with
  | some .mov | some (.binary _) | some (.unary _) => instruction.operands.head?
  | _ => none

/-- The instruction is no comparison, and what it stores a number to is no comparison flag. -/
def Instruction.KeepsComparison (store : Store) (instruction : Instruction) : Prop :=
  instruction.mnemonic ≠ "cmp" ∧
    ∀ target ∈ instruction.destination?, ∀ location, store.locate target = .ok location →
      location.isComparisonFlag = false

/-- Stores that agree in the comparison flags agree in all conditions. -/
lemma Condition.holds_of_content? {store other : Store}
    (h : ∀ location, location.isComparisonFlag → other.content? location = store.content? location)
    (condition : Condition) :
    condition.holds other.registers.flags = condition.holds store.registers.flags := by
  have hflag : ∀ flag, (Location.register (.flag flag)).isComparisonFlag →
      other.registers.flags.get flag = store.registers.flags.get flag := by
    intro flag hcomparison
    have hcontent : some (Number.int (if other.registers.flags.get flag then 1 else 0)) =
        some (Number.int (if store.registers.flags.get flag then 1 else 0)) := h _ hcomparison
    cases hother : other.registers.flags.get flag <;>
      cases hstore : store.registers.flags.get flag <;> simp_all
  exact condition.holds_congr (hflag .eq rfl) (hflag .lt rfl) (hflag .gt rfl)

namespace Machine

variable {machine next : Machine} {instruction : Instruction} {opcode : Opcode} {count : Nat}
  {condition : Condition} {label : Operand} {rest : List Operand} {index : Nat}

/-! ## Steps that execute an instruction -/

/-- An instruction that is found by its number is not behind the last one. -/
lemma le_size_of_fetch? {number : Int}
    (h : machine.program.fetch? number = some instruction) : number ≤ machine.program.size := by
  by_cases hpos : 0 < number
  · exact Program.le_size_of_fetch? hpos h
  · exact Int.le_trans (Int.not_lt.1 hpos) (Int.natCast_nonneg _)

/-- **A step that leaves the machine running has executed an instruction**, in any state. -/
lemma exists_effect_of_isRunning_step (h : machine.step.isRunning) :
    machine.isRunning ∧ ∃ instruction opcode log next,
      machine.program.fetch? (machine.pc + 1) = some instruction ∧
      Opcode.ofMnemonic? instruction.mnemonic = some opcode ∧
      Effect (machine.fetched log) opcode instruction.operands next ∧
      machine.step = { next with steps := next.steps + 1 } := by
  cases hrunning : machine.isRunning with
  | false =>
    rw [step_of_not_isRunning hrunning, hrunning] at h
    cases h
  | true =>
    refine ⟨rfl, ?_⟩
    by_cases hend : machine.program.size < machine.pc + 1
    · rw [step_eq_stop hrunning hend] at h
      cases h
    · cases hfetch : machine.program.fetch? (machine.pc + 1) with
      | none =>
        have hbroken : machine.step =
            (machine.fetched machine.log).breakOff (.noInstruction (machine.pc + 1)) := by
          rw [step_def]
          rw [if_pos hrunning]
          dsimp only
          rw [if_neg hend, hfetch]
          rfl
        rw [hbroken] at h
        simp [isRunning, breakOff] at h
      | some instruction =>
        rw [step_eq_executeInstruction hrunning (Int.not_lt.1 hend) hfetch] at h ⊢
        simp only [isRunning, Bool.and_eq_true, decide_eq_true_eq, Option.isNone_iff_eq_none] at h
        obtain ⟨opcode, log, next, hopcode, heffect, hnext⟩ :=
          exists_effect_of_executeInstruction (by simp [h.1]) h.2
        exact ⟨instruction, opcode, log, next, rfl, hopcode, heffect, hnext⟩

/-- A machine that runs after a number of steps has run before them. -/
lemma isRunning_of_iterate_step {n : Nat} (h : (step^[n] machine).isRunning) :
    machine.isRunning := by
  cases hrunning : machine.isRunning with
  | true => rfl
  | false =>
    rw [Function.iterate_fixed (step_of_not_isRunning hrunning), hrunning] at h
    exact h

/-! ## Conditions between a comparison and a jump -/

/-- **An instruction that keeps the comparison leaves all conditions.** -/
lemma holds_step (hrunning : machine.step.isRunning)
    (hkeeps : ∀ instruction, machine.program.fetch? (machine.pc + 1) = some instruction →
      instruction.KeepsComparison machine.store) (condition : Condition) :
    condition.holds machine.step.store.registers.flags =
      condition.holds machine.store.registers.flags := by
  obtain ⟨-, instruction, opcode, log, next, hfetch, hopcode, heffect, hstep⟩ :=
    exists_effect_of_isRunning_step hrunning
  obtain ⟨hcmp, hdestination⟩ := hkeeps instruction hfetch
  rw [hstep]
  refine Condition.holds_of_content? (fun location hlocation => ?_) condition
  have hfootprint := heffect.footprint
  -- the location that is written to is another one
  have hwritten : ∀ target more written, instruction.operands = target :: more →
      instruction.destination? = instruction.operands.head? →
      machine.store.locate target = .ok written → location ≠ written := by
    rintro target more written hoperands hhead hlocate rfl
    have hother := hdestination target (by rw [hhead, hoperands]; rfl) location hlocate
    rw [hother] at hlocation
    cases hlocation
  cases opcode with
  | mov | binary | unary =>
    obtain ⟨target, more, written, hoperands, hlocate, hkept, -⟩ := hfootprint
    refine hkept location (hwritten target more written hoperands ?_ hlocate)
    simp [Instruction.destination?, hopcode]
  | cmp => exact absurd (Opcode.eq_mnemonic hopcode) hcmp
  | als =>
    obtain ⟨-, -, -, -, hkept, -⟩ := hfootprint
    exact hkept location
  | out | dbg | hlt | slp | nop | jump => exact congrArg (·.content? location) hfootprint

/-- **Any number of instructions that keep the comparison leave all conditions.** -/
lemma holds_iterate_step {n : Nat} (hrunning : (step^[n] machine).isRunning)
    (hkeeps : ∀ i < n, ∀ instruction,
      (step^[i] machine).program.fetch? ((step^[i] machine).pc + 1) = some instruction →
        instruction.KeepsComparison (step^[i] machine).store) (condition : Condition) :
    condition.holds (step^[n] machine).store.registers.flags =
      condition.holds machine.store.registers.flags := by
  induction n with
  | zero => rfl
  | succ n ih =>
    rw [Function.iterate_succ_apply'] at hrunning ⊢
    rw [holds_step hrunning (hkeeps n (Nat.lt_succ_self n))]
    exact ih (exists_effect_of_isRunning_step hrunning).1
      fun i hi => hkeeps i (Nat.lt_succ_of_lt hi)

/-- A comparison that is executed sets the flags to how its operands compare. -/
lemma holds_step_of_cmp {a b : Operand} {x y : Number} (hrunning : machine.step.isRunning)
    (hfetch : machine.program.fetch? (machine.pc + 1) = some instruction)
    (hmnemonic : instruction.mnemonic = "cmp") (hoperands : instruction.operands = a :: b :: rest)
    (hx : machine.store.read a = .ok x) (hy : machine.store.read b = .ok y)
    (condition : Condition) :
    condition.holds machine.step.store.registers.flags ↔ condition.Relates x y := by
  obtain ⟨-, found, opcode, log, next, hfound, hopcode, heffect, hstep⟩ :=
    exists_effect_of_isRunning_step hrunning
  obtain rfl : instruction = found := Option.some.inj (hfetch.symm.trans hfound)
  have hcmp : Opcode.ofMnemonic? "cmp" = some .cmp := by decide +kernel
  rw [hmnemonic, hcmp] at hopcode
  obtain rfl := Option.some.inj hopcode
  rw [hstep]
  rw [hoperands] at heffect
  cases heffect with
  | @cmp _ _ _ u v hu hv =>
    obtain rfl : x = u := Except.ok.inj (hx.symm.trans hu)
    obtain rfl : y = v := Except.ok.inj (hy.symm.trans hv)
    exact condition.holds_compare_iff machine.store.registers.flags x y

/-! ## Jumps -/

/-- A jump to a label that is defined goes there or on, as its condition says, and changes nothing
else. -/
lemma execute_jump (hopcode : Opcode.ofMnemonic? instruction.mnemonic = some (.jump condition))
    (hoperands : instruction.operands = label :: rest)
    (hlabel : machine.program.labelIndex? label.text = some index) :
    execute instruction machine = .ok () { machine with
      pc := if condition.holds machine.store.registers.flags then index - 1 else machine.pc } := by
  cases hholds : condition.holds machine.store.registers.flags with
  | true =>
    rw [execute_of_jump hopcode hoperands hholds hlabel]
    rfl
  | false => simp [execute_def, hopcode, hoperands, perform, performOn, branch, hholds]

/-- A step that executes such a jump, if the registers can be recorded where a trace is. -/
lemma exists_log_step_of_jump (hrunning : machine.isRunning)
    (hfetch : machine.program.fetch? (machine.pc + 1) = some instruction)
    (hopcode : Opcode.ofMnemonic? instruction.mnemonic = some (.jump condition))
    (hoperands : instruction.operands = label :: rest)
    (hlabel : machine.program.labelIndex? label.text = some index)
    (hshown : machine.trace → ∃ shown, machine.store.registers.display = .ok shown) :
    ∃ log, machine.step = { machine with
      pc := if condition.holds machine.store.registers.flags then index - 1 else machine.pc + 1
      steps := machine.steps + 1
      log } := by
  obtain ⟨log, htracing⟩ :
      ∃ log, (machine.fetched machine.log).tracing instruction = .ok (machine.fetched log) := by
    cases htrace : machine.trace with
    | true =>
      obtain ⟨shown, hshown⟩ := hshown htrace
      refine ⟨machine.log.push
        (.executing (machine.pc + 1) instruction.line instruction.source shown), ?_⟩
      simp [tracing, fetched, htrace, hshown, report]
    | false => exact ⟨machine.log, by simp [tracing, fetched, htrace]⟩
  have hbound : (machine.fetched log).program.labelIndex? label.text = some index := hlabel
  have hexecute := execute_jump hopcode hoperands hbound
  refine ⟨log, ?_⟩
  rw [step_eq_executeInstruction hrunning (le_size_of_fetch? hfetch) hfetch, executeInstruction_def,
    htracing]
  change (machine.fetched log).executeTraced instruction = _
  rw [executeTraced_def, hexecute]
  rfl

/-- **A comparison decides the jump that comes after it**, whatever is executed in between. In any
state, a comparison is executed whose operands denote two numbers. Any number of instructions are
executed after it, none of them a comparison, and none of which is told to store a number to a
comparison flag. If the next instruction is a jump to a label that is defined, then it is taken if
and only if the numbers are in the relation that it tests: the values of both, integers and doubles
alike, are compared exactly, and of what is not a number only inequality holds. The step executes
the jump unless the machine records a trace and a register is too long to be shown, which no program
can bring about.

**Proof sketch.** The comparison sets the flags so that they say how the numbers are related
(`holds_step_of_cmp`), and all conditions stay as they are up to the jump, by induction on the
number of instructions (`holds_iterate_step`). -/
theorem comparison_decides_jump {machine : Machine} {comparison jump : Instruction}
    {a b label : Operand} {others more : List Operand} {x y : Number} {condition : Condition}
    {index n : Nat}
    (hcomparison : machine.program.fetch? (machine.pc + 1) = some comparison)
    (hmnemonic : comparison.mnemonic = "cmp") (hoperands : comparison.operands = a :: b :: others)
    (hx : machine.store.read a = .ok x) (hy : machine.store.read b = .ok y)
    (hkeeps : ∀ i < n, ∀ instruction, let between := step^[i] machine.step
      between.program.fetch? (between.pc + 1) = some instruction →
        instruction.KeepsComparison between.store) :
    let later := step^[n] machine.step
    later.isRunning →
    later.program.fetch? (later.pc + 1) = some jump →
    Opcode.ofMnemonic? jump.mnemonic = some (.jump condition) →
    jump.operands = label :: more →
    later.program.labelIndex? label.text = some index →
      (∀ log, execute jump (later.fetched log) = .ok () { later.fetched log with
        pc := if condition.Relates x y then index - 1 else later.pc + 1 }) ∧
      ((later.trace → ∃ shown, later.store.registers.display = .ok shown) →
        ∃ log, later.step = { later with
          pc := if condition.Relates x y then index - 1 else later.pc + 1
          steps := later.steps + 1
          log }) := by
  intro later hrunning hjump hopcode hlabels hlabel
  have hcompared : machine.step.isRunning := isRunning_of_iterate_step hrunning
  have hholds : condition.holds later.store.registers.flags ↔ condition.Relates x y := by
    rw [holds_iterate_step hrunning hkeeps condition]
    exact holds_step_of_cmp hcompared hcomparison hmnemonic hoperands hx hy condition
  simp only [← hholds]
  refine ⟨fun log => ?_, fun hshown => ?_⟩
  · have hbound : (later.fetched log).program.labelIndex? label.text = some index := hlabel
    exact execute_jump hopcode hlabels hbound
  · exact exists_log_step_of_jump hrunning hjump hopcode hlabels hlabel hshown

/-- An integer is greater than the double in front of it, to which it would be rounded. The jump
that tests this is taken, after an instruction that writes to a general register through an
alias. -/
theorem comparison_decides_jump_of_rounding :
    let source := "als f, r0\ncmp 9007199254740993, 9007199254740992.0\nmov f, 7\njg f\nhlt\nf:"
    let x : Number := .int 9007199254740993
    let y : Number := .double (Double.ofMagnitude false 0x4340000000000000)
    let comparison : Instruction :=
      ⟨"cmp", [.literal "9007199254740993" x, .literal "9007199254740992.0" y], 2,
        "cmp 9007199254740993, 9007199254740992.0"⟩
    let written : Instruction :=
      ⟨"mov", [.symbol "f", .literal "7" (.int 7)], 3, "mov f, 7"⟩
    let jump : Instruction := ⟨"jg", [.symbol "f"], 4, "jg f"⟩
    let program : Program :=
      { instructions :=
          #[⟨"als", [.symbol "f", .register "r0"], 1, "als f, r0"⟩, comparison, written, jump,
            ⟨"hlt", [], 5, "hlt"⟩]
        labels := #[⟨"f", 6, 6⟩] }
    let machine := (fresh .default .freshCapture program).step
    let later := step^[1] machine.step
    Program.link .default source = .ok program ∧ Condition.greater.Relates x y ∧
      later.isRunning ∧ ∃ log, later.step = { later with pc := 5, steps := 4, log } := by
  intro source x y comparison written jump program machine later
  have hlink : Program.link .default source = .ok program := by decide +kernel
  have hrelates : Condition.greater.Relates x y := by decide +kernel
  have hrunning : later.isRunning := by decide +kernel
  have hcomparison : machine.program.fetch? (machine.pc + 1) = some comparison := by decide +kernel
  have hwritten : machine.step.program.fetch? (machine.step.pc + 1) = some written := by
    decide +kernel
  have hjump : later.program.fetch? (later.pc + 1) = some jump := by decide +kernel
  have hopcode : Opcode.ofMnemonic? "jg" = some (.jump .greater) := by decide +kernel
  have hlabel : later.program.labelIndex? "f" = some 6 := by decide +kernel
  have hsteps : later.steps + 1 = 4 := by decide +kernel
  have htrace : later.trace = false := by decide +kernel
  have hlocate : machine.step.store.locate (.symbol "f") = .ok (.register (.general 0)) := by
    decide +kernel
  have hdestination : written.destination? = some (.symbol "f") := by decide +kernel
  have hkept : written.KeepsComparison machine.step.store := by
    refine ⟨by decide, fun target htarget location hlocation => ?_⟩
    obtain rfl := Option.some.inj (hdestination.symm.trans htarget)
    obtain rfl := Except.ok.inj (hlocate.symm.trans hlocation)
    rfl
  have hkeeps : ∀ i < 1, ∀ instruction, let between := step^[i] machine.step
      between.program.fetch? (between.pc + 1) = some instruction →
        instruction.KeepsComparison between.store := by
    intro i hi instruction between hfetch
    obtain rfl : i = 0 := Nat.lt_one_iff.1 hi
    obtain rfl := Option.some.inj (hwritten.symm.trans hfetch)
    exact hkept
  obtain ⟨-, hstep⟩ := comparison_decides_jump hcomparison rfl rfl rfl rfl hkeeps hrunning hjump
    hopcode rfl hlabel
  obtain ⟨log, hlog⟩ := hstep fun htraced => absurd (htrace.symm.trans htraced) (by decide)
  rw [if_pos hrelates, hsteps] at hlog
  exact ⟨hlink, hrelates, hrunning, log, hlog⟩

end Machine

end RegisterMachine
