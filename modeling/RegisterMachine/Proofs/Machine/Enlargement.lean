import RegisterMachine.Proofs.Machine.Run
import RegisterMachine.Proofs.Store.Enlargement

set_option autoImplicit false
set_option relaxedAutoImplicit false

/-!
# Runs with larger limits

The size of the memory and the greatest number of hops show in a run only where it hits them. A
machine with a larger store executes the same instructions, prints the same texts and fails for the
same reasons, as long as the smaller machine does not fail because an address is not in its memory
or because there are too many hops.

## Main definitions

* `RegisterMachine.Machine.enlarge` — a machine with a larger store.
* `RegisterMachine.Machine.HitsLimit` — a machine that has failed at a limit.

## Main results

* `RegisterMachine.Machine.scalesAt_execute` — instructions do the same.
* `RegisterMachine.Machine.step_enlarge` — steps do the same.
* `RegisterMachine.Machine.larger_limits_change_nothing` — runs do the same.
-/

namespace RegisterMachine.Machine

variable {larger : Enlargement} {machine next : Machine} {program : Program} {count : Nat}
  {operand : Operand} {instruction : Instruction}

/-- The machine with a larger store. -/
def enlarge (larger : Enlargement) (machine : Machine) : Machine :=
  { machine with store := machine.store.enlarge larger }

/-! ## Instructions -/

/-- An action on the store scales on the machine if it does on the store. -/
lemma scalesAt_onStore {α : Type} {action : Action Store α}
    (h : action.ScalesAt (Store.enlarge larger) machine.store) :
    (onStore action).ScalesAt (enlarge larger) machine where
  of_ok hok := by
    obtain ⟨store, hstore, rfl⟩ := Action.within_eq_ok.1 hok
    exact Action.within_eq_ok.2 ⟨store.enlarge larger, h.of_ok hstore, rfl⟩
  of_error herror := by
    obtain ⟨store, hstore, rfl⟩ := Action.within_eq_error.1 herror
    refine (h.of_error hstore).imp_right fun hsame => ?_
    exact Action.within_eq_error.2 ⟨store.enlarge larger, hsame, rfl⟩

section

variable (hstore : machine.store.IsSound count)
include hstore

/-- A number that is read first is the same. -/
lemma scalesAt_value_bind {β : Type} {next : Number → Action Machine β}
    (hoperand : operand.IsReading count)
    (hnext : ∀ value, (next value).ScalesAt (enlarge larger) machine) :
    (value .unbounded operand >>= next).ScalesAt (enlarge larger) machine :=
  Action.scalesAt_query_bind (hstore.sameBelowLimits_read hoperand) hnext

lemma scalesAt_assign (hoperand : operand.IsReading count) (value : Number) :
    (assign .unbounded operand value).ScalesAt (enlarge larger) machine :=
  scalesAt_onStore (hstore.scalesAt_write hoperand value)

lemma scalesAt_out {operands : List Operand}
    (hoperands : ∀ operand ∈ operands, operand.IsReading count) :
    (out .unbounded operands).ScalesAt (enlarge larger) machine := by
  refine Action.scalesAt_query_bind (.mapM fun operand hmem => ?_) fun texts =>
    Action.scalesAt_modify rfl
  exact (hstore.sameBelowLimits_read (hoperands operand hmem)).bind fun value _ => .refl _

/-- The state of the larger machine is printed as the same texts. -/
lemma scalesAt_showState : showState.ScalesAt (enlarge larger) machine := by
  obtain ⟨registers, hregisters⟩ := hstore.exists_display
  obtain ⟨dump, hdump⟩ := hstore.exists_dump
  have hregisters' : (machine.enlarge larger).store.registers.display = .ok registers := hregisters
  have hdump' : (machine.enlarge larger).store.memory.dump = .ok dump :=
    (Memory.dump_extend machine.store.memory larger.cells).trans hdump
  refine .of_eq_ok (showState_eq_ok hregisters hdump) ?_
  rw [showState_eq_ok hregisters' hdump', foldl_print, foldl_print]
  rfl

end

lemma scalesAt_defineAlias (name target : Operand) :
    (defineAlias name target).ScalesAt (enlarge larger) machine := by
  cases name with
  | symbol text => exact scalesAt_onStore (Action.scalesAt_modify rfl)
  | indirect | register | literal => exact Action.scalesAt_throw _

/-- A pause depends on the host alone. -/
lemma scalesAt_sleep (seconds : Number) : (sleep seconds).ScalesAt (enlarge larger) machine := by
  refine Action.scalesAt_update ?_
  have hhost : (machine.enlarge larger).host = machine.host := rfl
  rw [hhost]
  cases machine.host.sleep seconds <;> rfl

lemma scalesAt_exchange (name : String) : (exchange name).ScalesAt (enlarge larger) machine := by
  refine .of_eq_ok (exchange_eq_ok machine name) ?_
  rw [exchange_eq_ok]
  rfl

/-- A jump depends on the program alone. -/
lemma scalesAt_jumpTo (label : String) : (jumpTo label).ScalesAt (enlarge larger) machine := by
  refine Action.scalesAt_update ?_
  have hprogram : (machine.enlarge larger).program = machine.program := rfl
  rw [hprogram]
  cases machine.program.labelIndex? label <;> rfl

/-- Whether a jump is taken depends on the flags alone. -/
lemma scalesAt_branch (condition : Condition) (label : Operand) :
    (branch condition label).ScalesAt (enlarge larger) machine := by
  have hbranch : ∀ other : Machine, other.store.registers = machine.store.registers →
      branch condition label other =
        (if condition.holds machine.store.registers.flags then jumpTo label.text else pure ())
          other := by
    rintro other hregisters
    rw [branch, Action.get_bind, hregisters]
  refine .congr (hbranch machine rfl) (hbranch (machine.enlarge larger) rfl) ?_
  split
  · exact scalesAt_jumpTo _
  · exact Action.scalesAt_pure ()

/-- **Instructions do the same on a larger machine**, unless they hit a limit. -/
lemma scalesAt_perform (hstore : machine.store.IsSound count) (mnemonic : String) (opcode : Opcode)
    {operands : List Operand} (hoperands : ∀ operand ∈ operands, operand.IsReading count) :
    (perform mnemonic opcode operands).ScalesAt (enlarge larger) machine := by
  unfold perform performOn
  split
  case h_1 => exact scalesAt_out hstore hoperands
  case h_2 =>
    exact scalesAt_value_bind hstore (hoperands _ (by simp)) fun _ =>
      scalesAt_assign hstore (hoperands _ (by simp)) _
  case h_3 => exact scalesAt_defineAlias _ _
  case h_4 => exact scalesAt_showState hstore
  case h_5 => exact Action.scalesAt_modify rfl
  case h_6 => exact scalesAt_value_bind hstore (hoperands _ (by simp)) scalesAt_sleep
  case h_7 => exact scalesAt_exchange _
  case h_8 =>
    exact scalesAt_value_bind hstore (hoperands _ (by simp)) fun _ =>
      scalesAt_value_bind hstore (hoperands _ (by simp)) fun _ =>
        scalesAt_onStore (Action.scalesAt_modify rfl)
  case h_9 => exact scalesAt_branch _ _
  case h_10 =>
    refine scalesAt_value_bind hstore (hoperands _ (by simp)) fun _ =>
      scalesAt_value_bind hstore (hoperands _ (by simp)) fun _ => ?_
    exact Action.scalesAt_query_bind (.refl _) fun _ =>
      scalesAt_assign hstore (hoperands _ (by simp)) _
  case h_11 =>
    refine scalesAt_value_bind hstore (hoperands _ (by simp)) fun _ => ?_
    exact Action.scalesAt_query_bind (.refl _) fun _ =>
      scalesAt_assign hstore (hoperands _ (by simp)) _
  case h_12 => exact Action.scalesAt_throw _

/-- **Instructions do the same on a larger machine**, also those that are not known. -/
lemma scalesAt_execute (hstore : machine.store.IsSound count)
    (hoperands : ∀ operand ∈ instruction.operands, operand.IsReading count) :
    (execute instruction).ScalesAt (enlarge larger) machine := by
  rw [execute_def]
  split
  · exact scalesAt_perform hstore _ _ hoperands
  · exact Action.scalesAt_throw _

/-! ## Steps -/

/-- The machine has failed because an address was not in its memory, or because there were too many
hops. -/
def HitsLimit (machine : Machine) : Prop :=
  ∃ fault, machine.fault? = some fault ∧
    (fault.kind = .memoryOutOfBounds ∨ fault.kind = .aliasCycle)

/-- Limits stop the program. -/
lemma isFault_of_hitsLimit {cause : Cause} (h : cause.HitsLimit) : cause.isFault := by
  cases cause with
  | eventsDrained | noInstruction | stackExhausted => rcases h with h | h <;> cases h
  | _ => rfl

/-- A machine that is stopped by a failure at a limit has hit it. -/
lemma hitsLimit_fail {cause : Cause} (h : cause.HitsLimit) :
    (machine.fail instruction cause).HitsLimit := by
  refine ⟨_, rfl, ?_⟩
  have hkind : ((Fault.ofCause cause).locate instruction.line instruction.source).kind =
      cause.kind := by
    simp [Fault.locate, Fault.ofCause]
  rw [hkind]
  exact h

/-- The trace of the larger machine is the same. -/
lemma tracing_enlarge :
    (machine.enlarge larger).tracing instruction =
      enlarge larger <$> machine.tracing instruction := by
  have hregisters : (machine.enlarge larger).store.registers = machine.store.registers := rfl
  have htrace : (machine.enlarge larger).trace = machine.trace := rfl
  unfold tracing
  rw [hregisters, htrace]
  cases machine.trace with
  | false => rfl
  | true => cases machine.store.registers.display <;> rfl

/-- The larger machine executes an instruction to the same effect, unless it hits a limit. -/
lemma executeTraced_enlarge (hstore : machine.store.IsSound count)
    (hoperands : ∀ operand ∈ instruction.operands, operand.IsReading count) :
    (machine.enlarge larger).executeTraced instruction =
        (machine.executeTraced instruction).enlarge larger ∨
      (machine.executeTraced instruction).HitsLimit := by
  have hscales : (execute instruction).ScalesAt (enlarge larger) machine :=
    scalesAt_execute hstore hoperands
  simp only [executeTraced_def]
  cases hexecute : execute instruction machine with
  | ok u next =>
    rw [hscales.of_ok hexecute]
    exact .inl rfl
  | error cause next =>
    rcases hscales.of_error hexecute with hlimit | hsame
    · refine .inr ?_
      simp only [isFault_of_hitsLimit hlimit, if_true]
      exact hitsLimit_fail hlimit
    · rw [hsame]
      refine .inl ?_
      dsimp only
      split <;> rfl

/-- The same holds of an instruction with its record in the trace. -/
lemma executeInstruction_enlarge (hstore : machine.store.IsSound count)
    (hoperands : ∀ operand ∈ instruction.operands, operand.IsReading count) :
    (machine.enlarge larger).executeInstruction instruction =
        (machine.executeInstruction instruction).enlarge larger ∨
      (machine.executeInstruction instruction).HitsLimit := by
  obtain ⟨log, htracing⟩ := exists_tracing hstore instruction
  simp only [executeInstruction_def]
  rw [tracing_enlarge, htracing]
  have htraced : { machine with log }.store.IsSound count := hstore
  exact executeTraced_enlarge htraced hoperands

/-- **A larger machine does the same step**, unless the step hits a limit.

**Proof sketch.** Both machines move on to the same instruction, and record the same about it; what
the instruction does is the same (`scalesAt_execute`). -/
lemma step_enlarge (hlinked : machine.program.IsLinked count) (hstore : machine.store.IsSound count)
    (hpc : machine.isRunning → 0 ≤ machine.pc) :
    (machine.enlarge larger).step = machine.step.enlarge larger ∨ machine.step.HitsLimit := by
  cases hrunning : machine.isRunning with
  | false =>
    have hlarger : (machine.enlarge larger).isRunning = false := hrunning
    rw [step_of_not_isRunning hrunning, step_of_not_isRunning hlarger]
    exact .inl rfl
  | true =>
    have hlarger : (machine.enlarge larger).isRunning := hrunning
    by_cases hend : machine.program.size < machine.pc + 1
    · have hend' : (machine.enlarge larger).program.size < (machine.enlarge larger).pc + 1 := hend
      rw [step_eq_stop hrunning hend, step_eq_stop hlarger hend']
      exact .inl rfl
    · have hle : machine.pc + 1 ≤ machine.program.size := Int.not_lt.1 hend
      have hlower : 0 ≤ machine.pc := hpc hrunning
      obtain ⟨instruction, hfetch, -⟩ := Program.fetch?_of_pos (by omega) hle
      have hfetch' : (machine.enlarge larger).program.fetch? ((machine.enlarge larger).pc + 1) =
          some instruction := hfetch
      have hmoved : (machine.enlarge larger).fetched (machine.enlarge larger).log =
          (machine.fetched machine.log).enlarge larger := rfl
      have hfetched : (machine.fetched machine.log).store.IsSound count := hstore
      have hoperands := hlinked.operands _ (Program.mem_of_fetch? hfetch)
      rw [step_eq_executeInstruction hrunning hle hfetch,
        step_eq_executeInstruction hlarger hle hfetch', hmoved]
      exact executeInstruction_enlarge hfetched hoperands

/-! ## Runs -/

/-- A machine that has hit a limit stays where it is. -/
lemma step_of_hitsLimit {calls : Nat} (h : IsSound count program calls machine)
    (hlimit : machine.HitsLimit) : machine.step = machine := by
  obtain ⟨fault, hfault, -⟩ := hlimit
  rcases h.step_eq_or_stepped with hstay | ⟨hstate, -⟩
  · exact hstay
  · cases h.control with
    | running _ _ hnone => simp [hnone] at hfault
    | halted hother | ended hother | faulted hother => simp [hother] at hstate

/-- **A larger machine does the same steps**, unless one of them hits a limit.

**Proof sketch.** Induction on the number of steps. The smaller machine is sound after all of them
(`isSound_iterate_step`), so that one more step is the same (`step_enlarge`); and if it has hit a
limit it does not leave it. -/
lemma iterate_step_enlarge {config : Config} {source : String}
    (hlink : Program.link config source = .ok program) (host : Host) (calls : Nat) :
    step^[calls] ((fresh config host program).enlarge larger) =
        (step^[calls] (fresh config host program)).enlarge larger ∨
      (step^[calls] (fresh config host program)).HitsLimit := by
  induction calls with
  | zero => exact .inl rfl
  | succ calls ih =>
    have hsound : IsSound config.registerCount program calls
        (step^[calls] (fresh config host program)) := isSound_iterate_step hlink host calls
    rw [Function.iterate_succ_apply', Function.iterate_succ_apply']
    generalize step^[calls] (fresh config host program) = machine at ih hsound
    rcases ih with hsame | hlimit
    · rw [hsame]
      refine step_enlarge ?_ hsound.store fun hrunning => hsound.control.pc_nonneg ?_
      · rw [hsound.program_eq]
        exact Program.isLinked_of_link hlink
      · simpa [isRunning, hsound.escaped?_eq] using hrunning
    · rw [step_of_hitsLimit hsound hlimit]
      exact .inr hlimit

/-! ### The size of the memory -/

/-- An instruction leaves the memory as large as it was. -/
lemma Effect.capacity_eq {opcode : Opcode} {operands : List Operand}
    (h : Effect machine opcode operands next) :
    next.store.memory.capacity = machine.store.memory.capacity := by
  cases h with
  | mov _ hwrite | binary _ _ _ hwrite | unary _ _ hwrite =>
    obtain ⟨_, _, -, -, rfl⟩ := Store.exists_location_of_write hwrite
    exact Store.capacity_put _
  | dbg => rw [foldl_print]
  | _ => rfl

/-- A run leaves the memory as large as it was. -/
lemma capacity_iterate_step {config : Config} {source : String}
    (hlink : Program.link config source = .ok program) (host : Host) (calls : Nat) :
    (step^[calls] (fresh config host program)).store.memory.capacity = config.memorySize := by
  induction calls with
  | zero => rfl
  | succ calls ih =>
    have hsound : IsSound config.registerCount program calls
        (step^[calls] (fresh config host program)) := isSound_iterate_step hlink host calls
    rw [Function.iterate_succ_apply', ← ih]
    generalize step^[calls] (fresh config host program) = machine at hsound
    rcases hsound.step_eq_or_stepped with hstay | ⟨-, hstepped⟩
    · rw [hstay]
    · generalize machine.step = after at hstepped
      cases hstepped with
      | executed _ _ _ heffect => exact heffect.capacity_eq
      | ended | failed => rfl

/-! ### Larger limits -/

/-- A machine of larger limits is the enlarged machine of smaller ones. -/
lemma fresh_eq_enlarge {config config' : Config}
    (hregisters : config'.registerCount = config.registerCount)
    (htrace : config'.trace = config.trace) (hmemory : config.memorySize ≤ config'.memorySize)
    (haliases : config.aliasDepthLimit ≤ config'.aliasDepthLimit) (host : Host)
    (program : Program) :
    fresh config' host program =
      (fresh config host program).enlarge
        ⟨config'.memorySize - config.memorySize,
          config'.aliasDepthLimit - config.aliasDepthLimit⟩ := by
  have hcells : (Memory.fresh config.memorySize).extend (config'.memorySize - config.memorySize) =
      Memory.fresh config'.memorySize := by
    rw [Memory.fresh_extend, Nat.add_sub_cancel' hmemory]
  have hhops : (config.aliasDepthLimit : Int) +
      (config'.aliasDepthLimit - config.aliasDepthLimit : Nat) = config'.aliasDepthLimit := by
    omega
  simp only [fresh, enlarge, Store.fresh, Store.enlarge, hcells, hhops, hregisters, htrace]

/-- **Larger limits change nothing** in a run that does not hit the smaller ones. If a program does
not fail because an address is not in the memory or because there are too many hops, then with more
memory and with more hops it is in the same state after as many steps, at the same instruction,
with the same registers, flags and aliases; it has printed the same, paused for as long and
exchanged the same events; and it has failed for the same reason, if it has. The cells that both
machines have hold the same, and the others are zero.

**Proof sketch.** A fresh machine of the larger limits is the enlarged one of the smaller limits
(`fresh_eq_enlarge`), and both do the same steps (`iterate_step_enlarge`). -/
theorem larger_limits_change_nothing {config config' : Config} {source : String}
    {program : Program} (hlink : Program.link config source = .ok program)
    (hregisters : config'.registerCount = config.registerCount)
    (htrace : config'.trace = config.trace) (hmemory : config.memorySize ≤ config'.memorySize)
    (haliases : config.aliasDepthLimit ≤ config'.aliasDepthLimit) (host : Host) (calls : Nat) :
    let small := step^[calls] (fresh config host program)
    let large := step^[calls] (fresh config' host program)
    (∀ fault, small.fault? = some fault →
      fault.kind ≠ .memoryOutOfBounds ∧ fault.kind ≠ .aliasCycle) →
    Program.link config' source = .ok program ∧
      large.state = small.state ∧ large.stopReason? = small.stopReason? ∧ large.pc = small.pc ∧
      large.steps = small.steps ∧ large.store.registers = small.store.registers ∧
      large.store.aliases = small.store.aliases ∧ large.fault? = small.fault? ∧
      large.escaped? = small.escaped? ∧ large.host = small.host ∧ large.log = small.log ∧
      small.store.memory.cells.size = config.memorySize ∧
      large.store.memory.cells.size = config'.memorySize ∧
      (∀ i < config.memorySize,
        large.store.memory.cells[i]? = small.store.memory.cells[i]?) ∧
      ∀ i, config.memorySize ≤ i → i < config'.memorySize →
        large.store.memory.cells[i]? = some .zero := by
  intro small large hfault
  have hlink' : Program.link config' source = .ok program := by
    rw [← hlink, Program.link, Program.link, hregisters]
  have hlarge : large = small.enlarge ⟨config'.memorySize - config.memorySize,
      config'.aliasDepthLimit - config.aliasDepthLimit⟩ := by
    rcases iterate_step_enlarge hlink host calls with hsame | ⟨fault, hsome, hkind⟩
    · rw [← hsame, ← fresh_eq_enlarge hregisters htrace hmemory haliases]
    · obtain ⟨hbounds, hcycle⟩ := hfault fault hsome
      exact (hkind.elim hbounds hcycle).elim
  have hsize : small.store.memory.cells.size = config.memorySize := by
    rw [Memory.size_eq, capacity_iterate_step hlink host calls, Int.toNat_natCast]
  have hsize' : large.store.memory.cells.size = config'.memorySize := by
    rw [Memory.size_eq, capacity_iterate_step hlink' host calls, Int.toNat_natCast]
  refine ⟨hlink', ?_⟩
  clear_value small large
  subst hlarge
  refine ⟨rfl, rfl, rfl, rfl, rfl, rfl, rfl, rfl, rfl, rfl, hsize, hsize', fun i hi => ?_,
    fun i hi hi' => ?_⟩
  · exact Memory.getElem?_extend_of_lt (by omega)
  · have hlt : i < small.store.memory.cells.size + (config'.memorySize - config.memorySize) := by
      omega
    exact Memory.getElem?_extend_of_le (by omega) hlt

/-- An alias of the last cell, with no hop to spare: with more of both the run is the same, and the
cell behind the last one is zero. -/
theorem larger_limits_change_nothing_of_last_cell :
    let config : Config := { memorySize := 8, aliasDepthLimit := 1 }
    let config' : Config := { memorySize := 16, aliasDepthLimit := 2 }
    let source := "als p, [7]\nmov p, 5\ndbg\nhlt"
    let program : Program :=
      { instructions :=
          #[⟨"als", [.symbol "p", .indirect "[7]" (.literal "7" (.int 7))], 1, "als p, [7]"⟩,
            ⟨"mov", [.symbol "p", .literal "5" (.int 5)], 2, "mov p, 5"⟩,
            ⟨"dbg", [], 3, "dbg"⟩, ⟨"hlt", [], 4, "hlt"⟩] }
    let small := step^[4] (fresh config .freshCapture program)
    let large := step^[4] (fresh config' .freshCapture program)
    Program.link config source = .ok program ∧ small.fault? = none ∧
      large.stopReason? = some .halt ∧ large.host = small.host ∧
      large.store.memory.cells[7]? = some (.int 5) ∧
      large.store.memory.cells[8]? = some .zero := by
  intro config config' source program small large
  have hlink : Program.link config source = .ok program := by decide +kernel
  have hfault : small.fault? = none := by decide +kernel
  have hhalt : small.stopReason? = some .halt := by decide +kernel
  have hcell : small.store.memory.cells[7]? = some (.int 5) := by decide +kernel
  have hregisters : config'.registerCount = config.registerCount := rfl
  have hlimits : ∀ fault, small.fault? = some fault →
      fault.kind ≠ .memoryOutOfBounds ∧ fault.kind ≠ .aliasCycle := by
    intro fault hsome
    rw [hfault] at hsome
    cases hsome
  obtain ⟨-, -, hreason, -, -, -, -, -, -, hhost, -, -, -, hcells, hzero⟩ :=
    larger_limits_change_nothing hlink hregisters rfl (by decide) (by decide) .freshCapture 4
      hlimits
  -- the machines are not to be computed any more
  have hsmall : small = step^[4] (fresh config .freshCapture program) := rfl
  have hlarge : large = step^[4] (fresh config' .freshCapture program) := rfl
  rw [← hsmall, ← hlarge] at hreason hhost hcells
  rw [← hlarge] at hzero
  clear_value small large
  exact ⟨hlink, hfault, hreason.trans hhalt, hhost, (hcells 7 (by decide)).trans hcell,
    hzero 8 (by decide) (by decide)⟩

end RegisterMachine.Machine
