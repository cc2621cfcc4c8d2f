import RegisterMachine.Machine
import RegisterMachine.Proofs.EventQueue
import RegisterMachine.Proofs.Store.Sound
import Mathlib.Tactic.Common

set_option autoImplicit false
set_option relaxedAutoImplicit false

/-!
# Effects of instructions

What an instruction does to the machine when it succeeds, with all that it looked at: the numbers it
read, the location it wrote to, the label it went to. Everything that a machine keeps while its
instructions succeed follows by cases on the effect.

## Main definitions

* `RegisterMachine.Machine.Effect` — the effects, by instruction code.

## Main results

* `RegisterMachine.Machine.effect_of_perform`, `RegisterMachine.Machine.perform_of_effect` — an
  instruction succeeds if it has an effect, and has that effect.
* `RegisterMachine.Machine.Effect.frame` — what no instruction changes.
* `RegisterMachine.Machine.Effect.control` — what instructions do to the program counter and to the
  state of the run.
-/

namespace RegisterMachine

namespace Machine

variable {machine next : Machine} {opcode : Opcode} {operands : List Operand}

/-- What the host prints to show the state of the machine: the registers, the aliases, and the
memory unless it is all zero. -/
def stateTexts (machine : Machine) (registers dump : String) : List String :=
  ("Registers: " ++ registers) :: aliasLines machine.store.aliases ++
    if dump.isEmpty then [] else ["Memory:\n" ++ dump]

/-- The machine after an event of its host has been queued and awaited. -/
def afterExchange (machine : Machine) (name : String) : Machine :=
  let (host, pulled) := (machine.host.push name).pull name
  { machine with
    host
    log := machine.log ++ (pulled.discarded.map (Log.Record.discarded · name)).toArray }

/-- What instructions do when they succeed, by their codes. -/
inductive Effect (machine : Machine) : Opcode → List Operand → Machine → Prop
  /-- The host prints the operands. -/
  | out {operands : List Operand} {texts : List String}
      (hread : operands.mapM (printed .unbounded machine.store) = .ok texts) :
      Effect machine .out operands (machine.print ("\t".intercalate texts))
  /-- The number that the source denotes is written to the target. -/
  | mov {target source : Operand} {rest : List Operand} {value : Number} {store : Store}
      (hread : machine.store.read source = .ok value)
      (hwrite : Store.write target value machine.store = .ok () store) :
      Effect machine .mov (target :: source :: rest) { machine with store }
  /-- A symbol is given a meaning. -/
  | als {name : String} {target : Operand} {rest : List Operand} :
      Effect machine .als (.symbol name :: target :: rest)
        { machine with store :=
          { machine.store with aliases := machine.store.aliases.define name target } }
  /-- The host prints the state of the machine. -/
  | dbg {operands : List Operand} {registers dump : String}
      (hregisters : machine.store.registers.display = .ok registers)
      (hdump : machine.store.memory.dump = .ok dump) :
      Effect machine .dbg operands ((machine.stateTexts registers dump).foldl print machine)
  /-- The machine halts. -/
  | hlt {operands : List Operand} : Effect machine .hlt operands (machine.stop .halted .halt)
  /-- The host pauses for the number of seconds that the operand denotes. -/
  | slp {operand : Operand} {rest : List Operand} {seconds : Number} {host : Host}
      (hread : machine.store.read operand = .ok seconds)
      (hsleep : machine.host.sleep seconds = .ok host) :
      Effect machine .slp (operand :: rest) { machine with host }
  /-- The host queues an event and awaits it. -/
  | nop {operands : List Operand} : Effect machine .nop operands (machine.afterExchange "nop")
  /-- The flags say how two numbers compare. -/
  | cmp {a b : Operand} {rest : List Operand} {x y : Number}
      (ha : machine.store.read a = .ok x) (hb : machine.store.read b = .ok y) :
      Effect machine .cmp (a :: b :: rest)
        { machine with store :=
          { machine.store with registers := machine.store.registers.compare x y } }
  /-- A jump is taken, to just before the instruction that the label is bound to. -/
  | taken {condition : Condition} {label : Operand} {rest : List Operand} {index : Nat}
      (hholds : condition.holds machine.store.registers.flags = true)
      (hlabel : machine.program.labelIndex? label.text = some index) :
      Effect machine (.jump condition) (label :: rest) { machine with pc := index - 1 }
  /-- A jump is not taken. -/
  | notTaken {condition : Condition} {label : Operand} {rest : List Operand}
      (hholds : condition.holds machine.store.registers.flags = false) :
      Effect machine (.jump condition) (label :: rest) machine
  /-- The result of an operation on two numbers is written to where the first one came from. -/
  | binary {op : BinaryOp} {a b : Operand} {rest : List Operand} {x y result : Number}
      {store : Store} (ha : machine.store.read a = .ok x) (hb : machine.store.read b = .ok y)
      (hresult : op.apply x y = .ok result)
      (hwrite : Store.write a result machine.store = .ok () store) :
      Effect machine (.binary op) (a :: b :: rest) { machine with store }
  /-- The result of an operation on a number is written to where the number came from. -/
  | unary {op : UnaryOp} {a : Operand} {rest : List Operand} {x result : Number} {store : Store}
      (ha : machine.store.read a = .ok x) (hresult : op.apply x = .ok result)
      (hwrite : Store.write a result machine.store = .ok () store) :
      Effect machine (.unary op) (a :: rest) { machine with store }

/-! ## Instructions that succeed -/

@[simp]
lemma store_print (text : String) : (machine.print text).store = machine.store := rfl

/-- Printing texts one after the other changes the host only. -/
lemma foldl_print (texts : List String) :
    texts.foldl print machine = { machine with host := texts.foldl Host.write machine.host } := by
  induction texts generalizing machine with
  | nil => rfl
  | cons text texts ih => exact ih

/-- Queueing an event and awaiting it succeeds, whatever is queued before. -/
lemma exchange_eq_ok (machine : Machine) (name : String) :
    exchange name machine = .ok () (machine.afterExchange name) := by
  have hdelivered : ((machine.host.push name).pull name).2.delivered = true := by
    cases hhost : machine.host <;> exact EventQueue.delivered_pull_push _ _
  simp [exchange, pushEvent, pullEvent, afterExchange, hdelivered]

/-- A jump goes to where its label points, if its condition holds. -/
lemma effect_of_branch {condition : Condition} {label : Operand} {rest : List Operand}
    (h : branch condition label machine = .ok () next) :
    Effect machine (.jump condition) (label :: rest) next := by
  simp only [branch, Action.get_bind] at h
  cases hholds : condition.holds machine.store.registers.flags with
  | true =>
    simp only [hholds, if_true, jumpTo, Action.update_eq_ok] at h
    split at h
    · next hlabel =>
      cases h
      exact .taken hholds hlabel
    · cases h
  | false =>
    obtain rfl : next = machine := by simpa [hholds] using h
    exact .notTaken hholds

/-- The state of the machine is printed text by text, if all of it can be shown. -/
lemma showState_eq_ok {registers dump : String}
    (hregisters : machine.store.registers.display = .ok registers)
    (hdump : machine.store.memory.dump = .ok dump) :
    showState machine = .ok () ((machine.stateTexts registers dump).foldl print machine) := by
  simp only [showState, Action.bind_eq_ok, Action.query_eq_ok, Action.modify_eq_ok,
    Except.mapError_eq_ok]
  refine ⟨registers, machine, ⟨hregisters, rfl⟩, (), _, rfl, (), _, rfl, dump, _, ⟨?_, rfl⟩, ?_⟩
  · rw [foldl_print]
    exact hdump
  · cases hempty : dump.isEmpty <;> simp [stateTexts, hempty]

/-- Printing the state of the machine succeeds only if all of it can be shown. -/
lemma effect_of_showState (h : showState machine = .ok () next) :
    Effect machine .dbg operands next := by
  have h' := h
  simp only [showState, Action.bind_eq_ok, Action.query_eq_ok, Action.modify_eq_ok,
    Except.mapError_eq_ok, foldl_print] at h'
  obtain ⟨registers, shown, ⟨hregisters, hshown⟩, _, _, rfl, _, _, rfl, dump, _, ⟨hdump, -⟩, -⟩ :=
    h'
  subst shown
  rw [showState_eq_ok hregisters hdump] at h
  cases h
  exact .dbg hregisters hdump

/-- **An instruction that succeeds has its effect.** -/
lemma effect_of_perform {mnemonic : String}
    (h : perform mnemonic opcode operands machine = .ok () next) :
    Effect machine opcode operands next := by
  unfold perform performOn at h
  split at h
  case h_1 =>
    simp only [out, Action.bind_eq_ok, Action.query_eq_ok, Action.modify_eq_ok] at h
    obtain ⟨texts, _, ⟨hread, rfl⟩, rfl⟩ := h
    exact .out hread
  case h_2 =>
    simp only [move, value, assign, Store.readOn_unbounded, Store.writeOn_unbounded, onStore,
      Action.bind_eq_ok, Action.query_eq_ok, Action.within_eq_ok] at h
    obtain ⟨x, _, ⟨hread, rfl⟩, store, hwrite, rfl⟩ := h
    exact .mov hread hwrite
  case h_3 name target rest =>
    cases name with
    | symbol text =>
      simp only [defineAlias, onStore, Action.within_eq_ok, Action.modify_eq_ok] at h
      obtain ⟨store, rfl, rfl⟩ := h
      exact .als
    | indirect | register | literal => simp [defineAlias] at h
  case h_4 => exact effect_of_showState h
  case h_5 =>
    obtain rfl := Action.modify_eq_ok.1 h
    exact .hlt
  case h_6 =>
    simp only [pause, value, Store.readOn_unbounded, sleep, Action.bind_eq_ok, Action.query_eq_ok,
      Action.update_eq_ok, Except.bind_eq_ok, Except.pure_eq_ok] at h
    obtain ⟨seconds, _, ⟨hread, rfl⟩, host, hsleep, rfl⟩ := h
    exact .slp hread hsleep
  case h_7 =>
    rw [exchange_eq_ok] at h
    cases h
    exact .nop
  case h_8 =>
    simp only [compare, value, Store.readOn_unbounded, onStore, Action.bind_eq_ok,
      Action.query_eq_ok, Action.within_eq_ok, Action.modify_eq_ok] at h
    obtain ⟨x, _, ⟨hx, rfl⟩, y, _, ⟨hy, rfl⟩, store, rfl, rfl⟩ := h
    exact .cmp hx hy
  case h_9 => exact effect_of_branch h
  case h_10 =>
    simp only [applyBinary, value, assign, Store.readOn_unbounded, Store.writeOn_unbounded, onStore,
      Action.bind_eq_ok, Action.query_eq_ok, Action.within_eq_ok] at h
    obtain ⟨x, _, ⟨hx, rfl⟩, y, _, ⟨hy, rfl⟩, result, _, ⟨hresult, rfl⟩, store, hwrite, rfl⟩ := h
    exact .binary hx hy hresult hwrite
  case h_11 =>
    simp only [applyUnary, value, assign, Store.readOn_unbounded, Store.writeOn_unbounded, onStore,
      Action.bind_eq_ok, Action.query_eq_ok, Action.within_eq_ok] at h
    obtain ⟨x, _, ⟨hx, rfl⟩, result, _, ⟨hresult, rfl⟩, store, hwrite, rfl⟩ := h
    exact .unary hx hresult hwrite
  case h_12 => simp at h

/-- **An instruction that has an effect succeeds with it.** -/
lemma perform_of_effect {mnemonic : String} (h : Effect machine opcode operands next) :
    perform mnemonic opcode operands machine = .ok () next := by
  cases h with
  | out hread => simp [perform, performOn, out, hread]
  | mov hread hwrite => simp [perform, performOn, move, value, assign, onStore, hread, hwrite]
  | als => simp [perform, performOn, defineAlias, onStore]
  | dbg hregisters hdump => exact showState_eq_ok hregisters hdump
  | hlt => rfl
  | slp hread hsleep => simp [perform, performOn, pause, sleep, value, hread, hsleep]
  | nop => exact exchange_eq_ok machine "nop"
  | cmp ha hb => simp [perform, performOn, compare, value, onStore, ha, hb]
  | taken hholds hlabel => simp [perform, performOn, branch, jumpTo, hholds, hlabel]
  | notTaken hholds => simp [perform, performOn, branch, hholds]
  | binary ha hb hresult hwrite =>
    simp [perform, performOn, applyBinary, value, assign, onStore, ha, hb, hresult, hwrite]
  | unary ha hresult hwrite =>
    simp [perform, performOn, applyUnary, value, assign, onStore, ha, hresult, hwrite]

/-! ## What effects have in common -/

namespace Effect

/-- **No instruction changes the program, whether a trace is recorded, the number of steps, or the
record of a fault.** -/
lemma frame (h : Effect machine opcode operands next) :
    next.program = machine.program ∧ next.trace = machine.trace ∧ next.steps = machine.steps ∧
      next.fault? = machine.fault? ∧ next.escaped? = machine.escaped? := by
  cases h with
  | dbg => simp [foldl_print]
  | _ => exact ⟨rfl, rfl, rfl, rfl, rfl⟩

/-- **Only a halt stops the machine, and only a jump moves the program counter**, to just before
where a label points. -/
lemma control (h : Effect machine opcode operands next) :
    (opcode = .hlt ∧ next = machine.stop .halted .halt) ∨
    (next.state = machine.state ∧ next.stopReason? = machine.stopReason? ∧
      (next.pc = machine.pc ∨
        ∃ label index, machine.program.labelIndex? label = some index ∧ next.pc = index - 1)) := by
  cases h with
  | hlt => exact .inl ⟨rfl, rfl⟩
  | taken _ hlabel => exact .inr ⟨rfl, rfl, .inr ⟨_, _, hlabel, rfl⟩⟩
  | dbg => exact .inr (by simp [foldl_print])
  | _ => exact .inr ⟨rfl, rfl, .inl rfl⟩

/-- **Instructions keep the store sound**, if their operands were read from texts. -/
lemma isSound {count : Nat} (h : Effect machine opcode operands next)
    (hstore : machine.store.IsSound count)
    (hoperands : ∀ operand ∈ operands, operand.IsReading count) : next.store.IsSound count := by
  cases h with
  | mov hread hwrite =>
    exact hstore.write (hstore.inRange_of_read (hoperands _ (by simp)) hread) hwrite
  | als => exact hstore.define (hoperands _ (by simp)) (hoperands _ (by simp))
  | cmp => exact hstore.compare _ _
  | binary ha hb hresult hwrite =>
    have hx := hstore.inRange_of_read (hoperands _ (by simp)) ha
    have hy := hstore.inRange_of_read (hoperands _ (by simp)) hb
    exact hstore.write (BinaryOp.inRange_of_apply hx hy hresult) hwrite
  | unary ha hresult hwrite => exact hstore.write (UnaryOp.isWord_of_apply hresult).inRange hwrite
  | dbg => rwa [foldl_print]
  | _ => exact hstore

end Effect

end Machine

end RegisterMachine
