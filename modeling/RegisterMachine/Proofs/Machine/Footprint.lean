import RegisterMachine.Proofs.Machine.Run

set_option autoImplicit false
set_option relaxedAutoImplicit false

/-!
# Footprints of instructions

What an instruction that is executed can change. An instruction that stores a number changes the
location that its first operand denotes before it is executed; a comparison changes three flags; a
definition of an alias changes one entry of the alias table; all others leave the store as it is.
The program counter, the state of the run and the parts of the host have one kind of instruction
each that changes them.

## Main definitions

* `RegisterMachine.Location.isComparisonFlag` — the flags that comparisons set.
* `RegisterMachine.Store.Footprint` — what an instruction leaves as it is in a store.
* `RegisterMachine.Host.SamePrints`, `RegisterMachine.Host.SamePauses`,
  `RegisterMachine.Host.SameEvents` — hosts that agree in one of their parts.

## Main results

* `RegisterMachine.Machine.Effect.footprint` — an instruction stays within its footprint.
* `RegisterMachine.Machine.Effect.pc_eq` — only a jump that is taken moves the program counter.
* `RegisterMachine.Machine.exists_effect_of_executeInstruction` — an instruction that is executed
  has its effect.
* `RegisterMachine.Machine.instructions_keep_to_their_footprints` — what the instructions of running
  programs leave as it is.
-/

namespace RegisterMachine

/-! ## Alias tables with one more definition -/

namespace AliasTable

variable {aliases : AliasTable} {name other : String} {target : Operand}

/-- A definition leaves what other names stand for. -/
lemma lookup_define_of_ne (h : other ≠ name) :
    (aliases.define name target).lookup other = aliases.lookup other := by
  obtain ⟨entries⟩ := aliases
  change (defineIn name target entries).lookup other = entries.lookup other
  have hother : (other == name) = false := beq_false_of_ne h
  induction entries with
  | nil => simp [defineIn, List.lookup_cons, hother]
  | cons entry rest ih =>
    obtain ⟨first, old⟩ := entry
    by_cases hname : first = name
    · subst hname
      simp [defineIn, List.lookup_cons, hother]
    · simp only [defineIn, if_neg hname, List.lookup_cons, ih]

/-- A definition leaves the entries of other names, in their order. -/
lemma filter_define (aliases : AliasTable) (name : String) (target : Operand) :
    (aliases.define name target).entries.filter (·.1 ≠ name) =
      aliases.entries.filter (·.1 ≠ name) := by
  obtain ⟨entries⟩ := aliases
  change (defineIn name target entries).filter (·.1 ≠ name) = entries.filter (·.1 ≠ name)
  induction entries with
  | nil => simp [defineIn]
  | cons entry rest ih =>
    by_cases hname : entry.1 = name
    · simp [defineIn, hname]
    · simp only [defineIn, if_neg hname, List.filter_cons, ih]

end AliasTable

/-! ## Footprints in the store -/

/-- Whether a location is one of the flags that comparisons set. -/
def Location.isComparisonFlag : Location → Bool
  | .register (.flag .eq) | .register (.flag .lt) | .register (.flag .gt) => true
  | _ => false

/-- What an instruction leaves as it is in the store `before` when it turns it into `after`:
everything but the location of its first operand if it stores a number, but the comparison flags if
it compares, and but one alias if it defines one; everything otherwise. -/
def Store.Footprint (before : Store) (opcode : Opcode) (operands : List Operand) (after : Store) :
    Prop :=
  match opcode with
  | .mov | .binary _ | .unary _ => ∃ target rest location, operands = target :: rest ∧
      before.locate target = .ok location ∧
      (∀ other ≠ location, after.content? other = before.content? other) ∧
      after.aliases = before.aliases
  | .cmp =>
      (∀ other, other.isComparisonFlag = false →
        after.content? other = before.content? other) ∧
      after.aliases = before.aliases
  | .als => ∃ name target rest, operands = .symbol name :: target :: rest ∧
      (∀ location, after.content? location = before.content? location) ∧
      (∀ other ≠ name, after.aliases.lookup other = before.aliases.lookup other) ∧
      after.aliases.entries.filter (·.1 ≠ name) = before.aliases.entries.filter (·.1 ≠ name)
  | .out | .dbg | .hlt | .slp | .nop | .jump _ => after = before

/-! ## Parts of a host -/

namespace Host

variable {host next : Host}

/-- Both hosts are of one kind and have printed the same. -/
def SamePrints : Host → Host → Prop
  | .capture host, .capture other => other.output = host.output
  | .console host, .console other => other.stream = host.stream
  | _, _ => False

/-- Both hosts are of one kind and have paused alike. -/
def SamePauses : Host → Host → Prop
  | .capture host, .capture other => other.sleeps = host.sleeps
  | .console host, .console other => other.pauses = host.pauses
  | _, _ => False

/-- Both hosts are of one kind, with the same events queued and the same record of events. -/
def SameEvents : Host → Host → Prop
  | .capture host, .capture other => other.events = host.events ∧ other.queue = host.queue
  | .console host, .console other => other.queue = host.queue
  | _, _ => False

@[simp]
lemma SamePrints.refl (host : Host) : host.SamePrints host := by
  cases host <;> rfl

@[simp]
lemma SamePauses.refl (host : Host) : host.SamePauses host := by
  cases host <;> rfl

@[simp]
lemma SameEvents.refl (host : Host) : host.SameEvents host := by
  cases host with
  | capture host => exact ⟨rfl, rfl⟩
  | console host => exact rfl

/-- What a host prints one text after the other changes neither pauses nor events. -/
lemma foldl_write (host : Host) (texts : List String) :
    host.SamePauses (texts.foldl write host) ∧ host.SameEvents (texts.foldl write host) := by
  induction texts generalizing host with
  | nil => simp
  | cons text texts ih =>
    have hrest := ih (host.write text)
    rw [List.foldl_cons]
    generalize texts.foldl write (host.write text) = after at hrest
    cases host <;> cases after <;> simp_all [write, SamePauses, SameEvents]

/-- A pause prints nothing and leaves the events. -/
lemma of_sleep {seconds : Number} (h : host.sleep seconds = .ok next) :
    host.SamePrints next ∧ host.SameEvents next := by
  cases host with
  | capture host =>
    cases h
    exact ⟨rfl, rfl, rfl⟩
  | console host =>
    unfold sleep at h
    dsimp only at h
    split at h
    · cases h
      exact ⟨rfl, rfl⟩
    · split at h
      · cases h
      · cases h
        exact ⟨rfl, rfl⟩

/-- An exchange of an event prints nothing and does not pause. -/
lemma pull_push (host : Host) (name : String) :
    host.SamePrints ((host.push name).pull name).1 ∧
      host.SamePauses ((host.push name).pull name).1 := by
  cases host <;> exact ⟨rfl, rfl⟩

end Host

/-! ## Effects and footprints -/

namespace Machine

variable {machine next : Machine} {opcode : Opcode} {operands : List Operand} {count : Nat}
  {instruction : Instruction}

/-- A write that succeeds changes the location that the operand denotes before it. -/
lemma footprint_of_write {store after : Store} {target : Operand} {value : Number}
    (h : Store.write target value store = .ok () after) :
    ∃ location, store.locate target = .ok location ∧
      (∀ other ≠ location, after.content? other = store.content? other) ∧
      after.aliases = store.aliases := by
  obtain ⟨location, old, hlocate, hold, rfl⟩ := Store.exists_location_of_write h
  refine ⟨location, hlocate, fun other hother => ?_, Store.aliases_put value⟩
  rw [Store.content?_put hold, if_neg hother]

/-- A comparison sets the comparison flags and leaves all other locations. -/
lemma content?_compare (store : Store) (x y : Number) {location : Location}
    (h : location.isComparisonFlag = false) :
    { store with registers := store.registers.compare x y }.content? location =
      store.content? location := by
  cases location with
  | cell index => rfl
  | register name =>
    cases name with
    | general index => rfl
    | flag flag =>
      cases flag with
      | eq | lt | gt => simp [Location.isComparisonFlag] at h
      | carry | overflow | negative => rfl
    | zero => rfl

namespace Effect

/-- **An instruction stays within its footprint.** -/
lemma footprint (h : Effect machine opcode operands next) :
    machine.store.Footprint opcode operands next.store := by
  cases h with
  | mov _ hwrite | binary _ _ _ hwrite | unary _ _ hwrite =>
    obtain ⟨location, hlocation⟩ := footprint_of_write hwrite
    exact ⟨_, _, location, rfl, hlocation⟩
  | cmp => exact ⟨fun location => content?_compare _ _ _, rfl⟩
  | als =>
    refine ⟨_, _, _, rfl, fun location => ?_, fun other => AliasTable.lookup_define_of_ne,
      AliasTable.filter_define _ _ _⟩
    cases location <;> rfl
  | dbg =>
    rw [foldl_print]
    exact rfl
  | _ => exact rfl

/-- **Only a jump that is taken moves the program counter**, to just before where its label
points. -/
lemma pc_eq (h : Effect machine opcode operands next) :
    next.pc = machine.pc ∨ ∃ condition label rest index, opcode = .jump condition ∧
      operands = label :: rest ∧ condition.holds machine.store.registers.flags ∧
      machine.program.labelIndex? label.text = some index ∧ next.pc = index - 1 := by
  cases h with
  | taken hholds hlabel => exact .inr ⟨_, _, _, _, rfl, rfl, hholds, hlabel, rfl⟩
  | dbg => exact .inl (by simp [foldl_print])
  | _ => exact .inl rfl

/-- **Only printing instructions print.** -/
lemma samePrints (h : Effect machine opcode operands next) (hout : opcode ≠ .out)
    (hdbg : opcode ≠ .dbg) : machine.host.SamePrints next.host := by
  cases h with
  | out => exact absurd rfl hout
  | dbg => exact absurd rfl hdbg
  | slp _ hsleep => exact (Host.of_sleep hsleep).1
  | nop => exact (Host.pull_push _ _).1
  | _ => exact .refl _

/-- **Only a pause pauses.** -/
lemma samePauses (h : Effect machine opcode operands next) (hslp : opcode ≠ .slp) :
    machine.host.SamePauses next.host := by
  cases h with
  | out => exact (Host.foldl_write machine.host [_]).1
  | dbg =>
    rw [foldl_print]
    exact (Host.foldl_write machine.host _).1
  | slp => exact absurd rfl hslp
  | nop => exact (Host.pull_push _ _).2
  | _ => exact .refl _

/-- **Only an exchange touches the events.** -/
lemma sameEvents (h : Effect machine opcode operands next) (hnop : opcode ≠ .nop) :
    machine.host.SameEvents next.host := by
  cases h with
  | out => exact (Host.foldl_write machine.host [_]).2
  | dbg =>
    rw [foldl_print]
    exact (Host.foldl_write machine.host _).2
  | slp _ hsleep => exact (Host.of_sleep hsleep).2
  | nop => exact absurd rfl hnop
  | _ => exact .refl _

end Effect

/-! ## Instructions that are executed -/

/-- **An instruction that is executed has its effect**, and is counted as a step: it is executed if
it does not fault and no error escapes from it. -/
lemma exists_effect_of_executeInstruction
    (hstate : (machine.executeInstruction instruction).state ≠ .faulted)
    (hescaped : (machine.executeInstruction instruction).escaped? = none) :
    ∃ opcode log next, Opcode.ofMnemonic? instruction.mnemonic = some opcode ∧
      Effect { machine with log } opcode instruction.operands next ∧
      machine.executeInstruction instruction = { next with steps := next.steps + 1 } := by
  simp only [executeInstruction_def] at *
  cases htraced : machine.tracing instruction with
  | error e => simp [htraced, breakOff] at hescaped
  | ok traced =>
    obtain ⟨log, rfl⟩ := exists_log_of_tracing htraced
    simp only [htraced] at hstate hescaped ⊢
    simp only [executeTraced_def] at *
    cases hexecute : execute instruction { machine with log } with
    | ok u next =>
      obtain ⟨opcode, hopcode, heffect⟩ := effect_of_execute hexecute
      exact ⟨opcode, log, next, hopcode, heffect, rfl⟩
    | error cause after =>
      -- a failure either faults or escapes
      cases hfault : cause.isFault with
      | true => simp [hexecute, hfault, fail, print, report, stop] at hstate
      | false => simp [hexecute, hfault, breakOff] at hescaped

/-- No error escapes from an instruction on a sound store. -/
lemma escaped?_executeInstruction (hstore : machine.store.IsSound count)
    (hescaped : machine.escaped? = none) (instruction : Instruction) :
    (machine.executeInstruction instruction).escaped? = none := by
  obtain ⟨log, htraced⟩ := exists_tracing hstore instruction
  have htracedStore : { machine with log }.store.IsSound count := hstore
  simp only [executeInstruction_def, htraced, executeTraced_def]
  cases hexecute : execute instruction { machine with log } with
  | ok u next =>
    obtain ⟨opcode, -, heffect⟩ := effect_of_execute hexecute
    obtain ⟨-, -, -, -, hescaped'⟩ := heffect.frame
    exact hescaped'.trans hescaped
  | error cause after =>
    obtain ⟨rfl, hfault⟩ := isAtomicAt_execute htracedStore instruction cause after hexecute
    simpa [hfault, fail, print, report, stop] using hescaped

/-- **Instructions keep to their footprints.** Take a state that a program reaches, and any
instruction that is executed in it without a fault, such as the next one of the program. Of
registers, flags, memory cells and aliases it changes at most the one location that its first
operand denoted before, if it stores a number, the three comparison flags if it is a comparison, the
alias of its first operand if it defines one, and nothing otherwise. Only a jump that is taken moves
the program counter on from the instruction, only a halt changes the state of the run, only `out`
and `dbg` print, only `slp` pauses and only `nop` touches the events.

**Proof sketch.** No error escapes from an instruction on the sound store of a run
(`escaped?_executeInstruction`), so an instruction that does not fault has its effect
(`exists_effect_of_executeInstruction`). Each part is then by cases on the effect. -/
theorem instructions_keep_to_their_footprints {config : Config} {source : String}
    {program : Program} (hlink : Program.link config source = .ok program) (host : Host)
    (calls : Nat) (instruction : Instruction) :
    let before := step^[calls] (fresh config host program)
    let after := executeInstruction { before with pc := before.pc + 1 } instruction
    before.state = .running → after.state ≠ .faulted →
      (program.fetch? (before.pc + 1) = some instruction → before.step = after) ∧
      ∃ opcode, Opcode.ofMnemonic? instruction.mnemonic = some opcode ∧
        before.store.Footprint opcode instruction.operands after.store ∧
        (after.pc = before.pc + 1 ∨ ∃ condition label rest index, opcode = .jump condition ∧
          instruction.operands = label :: rest ∧
          condition.holds before.store.registers.flags ∧
          program.labelIndex? label.text = some index ∧ after.pc = index - 1) ∧
        (opcode ≠ .hlt → after.state = before.state ∧ after.stopReason? = before.stopReason?) ∧
        (opcode ≠ .out → opcode ≠ .dbg → before.host.SamePrints after.host) ∧
        (opcode ≠ .slp → before.host.SamePauses after.host) ∧
        (opcode ≠ .nop → before.host.SameEvents after.host) := by
  intro before after hrunning hfaulted
  have hsound : IsSound config.registerCount program calls before :=
    isSound_iterate_step hlink host calls
  have hafter : after = executeInstruction { before with pc := before.pc + 1 } instruction := rfl
  clear_value after before
  obtain ⟨rfl, hstore, hescaped, hcontrol⟩ := hsound
  have hpc := hcontrol.pc_nonneg hrunning
  refine ⟨fun hfetch => ?_, ?_⟩
  · have hruns : before.isRunning := by simp [isRunning, hrunning, hescaped]
    rw [hafter, step_eq_executeInstruction hruns (Program.le_size_of_fetch? (by omega) hfetch)
      hfetch]
    rfl
  · have hmoved : { before with pc := before.pc + 1 }.store.IsSound config.registerCount := hstore
    rw [hafter] at hfaulted
    obtain ⟨opcode, log, next, hopcode, heffect, hnext⟩ :=
      exists_effect_of_executeInstruction hfaulted
        (escaped?_executeInstruction hmoved hescaped instruction)
    rw [hnext] at hafter
    subst hafter
    refine ⟨opcode, hopcode, heffect.footprint, heffect.pc_eq, fun hhlt => ?_, heffect.samePrints,
      heffect.samePauses, heffect.sameEvents⟩
    obtain ⟨rfl, -⟩ | ⟨hstate, hreason, -⟩ := heffect.control
    · exact absurd rfl hhlt
    · exact ⟨hstate, hreason⟩

/-- A write to the cell whose address it overwrites changes that cell and no other. -/
theorem instructions_keep_to_their_footprints_of_cell :
    let zero : Operand := .literal "0" (.int 0)
    let cell : Operand := .indirect "[[0]]" (.indirect "[0]" zero)
    let written : Instruction := ⟨"mov", [cell, .literal "9" (.int 9)], 1, "mov [[0]], 9"⟩
    let program : Program := { instructions := #[written] }
    let before := fresh .default .freshConsole program
    let after := before.step
    Program.link .default "mov [[0]], 9" = .ok program ∧ before.state = .running ∧
      after.state ≠ .faulted ∧ after.store.content? (.cell 0) = some (.int 9) ∧
      (∀ other ≠ .cell 0, after.store.content? other = before.store.content? other) ∧
      after.pc = before.pc + 1 := by
  intro zero cell written program before after
  have hlink : Program.link .default "mov [[0]], 9" = .ok program := by decide +kernel
  have hlocate : before.store.locate cell = .ok (.cell 0) := by decide +kernel
  have hopcode : Opcode.ofMnemonic? "mov" = some .mov := by decide +kernel
  have hfaulted : (executeInstruction { before with pc := before.pc + 1 } written).state ≠
      .faulted := by decide +kernel
  obtain ⟨hstep, opcode, hopcode', hfootprint, hpc, -⟩ :=
    instructions_keep_to_their_footprints hlink .freshConsole 0 written rfl hfaulted
  have hafter : after = executeInstruction { before with pc := before.pc + 1 } written := hstep rfl
  obtain rfl : .mov = opcode := Option.some.inj (hopcode.symm.trans hopcode')
  obtain ⟨target, rest, location, hoperands, hlocation, hkept, -⟩ := hfootprint
  obtain ⟨rfl, -⟩ := List.cons.inj hoperands
  obtain rfl : .cell 0 = location := Except.ok.inj (hlocate.symm.trans hlocation)
  refine ⟨hlink, rfl, by rw [hafter]; exact hfaulted, by decide +kernel,
    by rw [hafter]; exact hkept, ?_⟩
  rw [hafter]
  obtain hpc | ⟨condition, _, _, _, hjump, -⟩ := hpc
  · exact hpc
  · cases hjump

end Machine

end RegisterMachine
