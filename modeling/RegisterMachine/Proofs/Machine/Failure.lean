import RegisterMachine.Proofs.Machine.Effect

set_option autoImplicit false
set_option relaxedAutoImplicit false

/-!
# Failures of instructions

Why an instruction fails, with all that it looked at: the operand that could not be read or written,
the numbers that have no result, the label that is not defined. What a program cannot fail for
follows by cases on the failure.

## Main definitions

* `RegisterMachine.Machine.Failure` — the failures, by instruction code.

## Main results

* `RegisterMachine.Machine.failure_of_perform` — an instruction that fails has one of the failures.
-/

namespace RegisterMachine.Machine

variable {machine after : Machine} {mnemonic : String} {opcode : Opcode} {operands : List Operand}
  {cause : Cause}

/-- Why instructions fail, by their codes. -/
inductive Failure (machine : Machine) (mnemonic : String) :
    Opcode → List Operand → Cause → Prop
  /-- An operand denotes no number. -/
  | read {opcode : Opcode} {operands : List Operand} {operand : Operand} {cause : Cause}
      (hmem : operand ∈ operands) (hread : machine.store.read operand = .error cause) :
      Failure machine mnemonic opcode operands cause
  /-- The first operand denotes no location. -/
  | write {opcode : Opcode} {target : Operand} {rest : List Operand} {value : Number}
      {store : Store} {cause : Cause}
      (hwrite : Store.write target value machine.store = .error cause store) :
      Failure machine mnemonic opcode (target :: rest) cause
  /-- The number that an operand denotes cannot be printed. -/
  | print {operands : List Operand} {operand : Operand} {value : Number} {e : RangeError}
      (hmem : operand ∈ operands) (hread : machine.store.read operand = .ok value)
      (hprint : value.printed = .error e) : Failure machine mnemonic .out operands (.outOfRange e)
  /-- What is to become an alias is no symbol. -/
  | notAliasable {name target : Operand} {rest : List Operand} (hname : name.isSymbol = false) :
      Failure machine mnemonic .als (name :: target :: rest) (.notAliasable name.text)
  /-- The registers cannot be shown. -/
  | showRegisters {operands : List Operand} {e : RangeError}
      (hregisters : machine.store.registers.display = .error e) :
      Failure machine mnemonic .dbg operands (.outOfRange e)
  /-- The memory cannot be shown. -/
  | showMemory {operands : List Operand} {e : RangeError}
      (hdump : machine.store.memory.dump = .error e) :
      Failure machine mnemonic .dbg operands (.outOfRange e)
  /-- The host refuses a pause. -/
  | pause {operand : Operand} {rest : List Operand} {seconds : Number} {cause : Cause}
      (hread : machine.store.read operand = .ok seconds)
      (hsleep : machine.host.sleep seconds = .error cause) :
      Failure machine mnemonic .slp (operand :: rest) cause
  /-- A jump that is to be taken goes to a label that is not defined. -/
  | jump {condition : Condition} {label : Operand} {rest : List Operand}
      (hholds : condition.holds machine.store.registers.flags = true)
      (hlabel : machine.program.labelIndex? label.text = none) :
      Failure machine mnemonic (.jump condition) (label :: rest) (.undefinedLabel label.text)
  /-- An operation on two numbers has no result. -/
  | binary {op : BinaryOp} {a b : Operand} {rest : List Operand} {x y : Number} {cause : Cause}
      (ha : machine.store.read a = .ok x) (hb : machine.store.read b = .ok y)
      (hresult : op.apply x y = .error cause) :
      Failure machine mnemonic (.binary op) (a :: b :: rest) cause
  /-- An operation on a number has no result. -/
  | unary {op : UnaryOp} {a : Operand} {rest : List Operand} {x : Number} {cause : Cause}
      (ha : machine.store.read a = .ok x) (hresult : op.apply x = .error cause) :
      Failure machine mnemonic (.unary op) (a :: rest) cause
  /-- There are too few operands. -/
  | missing {opcode : Opcode} {operands : List Operand} (hlength : operands.length < opcode.arity) :
      Failure machine mnemonic opcode operands
        (.missingOperand mnemonic opcode.arity operands.length)

/-- Printing fails at an operand that cannot be read or printed. -/
lemma failure_of_out (h : out .unbounded operands machine = .error cause after) :
    Failure machine mnemonic .out operands cause := by
  simp only [out, Action.bind_eq_error, Action.query_eq_error, Action.modify_eq_error, and_false,
    exists_false, or_false] at h
  obtain ⟨hmap, -⟩ := h
  obtain ⟨operand, hmem, hprinted⟩ := Except.exists_of_mapM_eq_error hmap
  simp only [printed, Store.readOn_unbounded, Except.bind_eq_error,
    Except.mapError_eq_error] at hprinted
  obtain hread | ⟨value, hread, e, hprint, rfl⟩ := hprinted
  · exact .read hmem hread
  · exact .print hmem hread hprint

/-- Printing the state of the machine fails at registers or memory that cannot be shown. -/
lemma failure_of_showState (h : showState machine = .error cause after) :
    Failure machine mnemonic .dbg operands cause := by
  simp only [showState, Action.bind_eq_error, Action.query_eq_error, Action.query_eq_ok,
    Action.modify_eq_ok, Action.modify_eq_error, Except.mapError_eq_error, foldl_print,
    false_or] at h
  obtain ⟨⟨e, hregisters, rfl⟩, -⟩ |
    ⟨registers, shown, ⟨-, rfl⟩, _, _, rfl, _, _, rfl, ⟨⟨e, hdump, rfl⟩, -⟩ | ⟨dump, _, -, h⟩⟩ := h
  · exact .showRegisters hregisters
  · exact .showMemory hdump
  · -- what is printed last cannot fail
    split at h
    · exact (Action.pure_eq_error.1 h).elim
    · simp at h

/-- **An instruction that fails has one of the failures.** -/
lemma failure_of_perform (h : perform mnemonic opcode operands machine = .error cause after) :
    Failure machine mnemonic opcode operands cause := by
  unfold perform performOn at h
  split at h
  case h_1 => exact failure_of_out h
  case h_2 target source rest =>
    simp only [move, value, assign, Store.readOn_unbounded, Store.writeOn_unbounded, onStore,
      Action.bind_eq_error, Action.query_eq_error, Action.query_eq_ok, Action.within_eq_error] at h
    obtain ⟨hread, -⟩ | ⟨x, _, ⟨-, rfl⟩, store, hwrite, -⟩ := h
    · exact .read (by simp) hread
    · exact .write hwrite
  case h_3 name target rest =>
    cases name with
    | symbol text => simp [defineAlias, onStore] at h
    | indirect | register | literal =>
      obtain ⟨rfl, -⟩ := Action.throw_eq_error.1 h
      exact .notAliasable rfl
  case h_4 => exact failure_of_showState h
  case h_5 => exact (Action.modify_eq_error.1 h).elim
  case h_6 =>
    simp only [pause, value, Store.readOn_unbounded, sleep, Action.bind_eq_error,
      Action.query_eq_error, Action.query_eq_ok, Action.update_eq_error, bind_pure_comp,
      Except.map_eq_error] at h
    obtain ⟨hread, -⟩ | ⟨seconds, _, ⟨hread, rfl⟩, hsleep, -⟩ := h
    · exact .read (by simp) hread
    · exact .pause hread hsleep
  case h_7 =>
    rw [exchange_eq_ok] at h
    cases h
  case h_8 =>
    simp only [compare, value, Store.readOn_unbounded, onStore, Action.bind_eq_error,
      Action.query_eq_error, Action.query_eq_ok, Action.within_eq_error, Action.modify_eq_error,
      false_and, exists_false, and_false, or_false] at h
    obtain ⟨hx, -⟩ | ⟨x, _, ⟨-, rfl⟩, hy, -⟩ := h
    · exact .read (by simp) hx
    · exact .read (by simp) hy
  case h_9 condition label rest =>
    simp only [branch, Action.get_bind] at h
    split at h
    · next hholds =>
      obtain ⟨hjump, -⟩ := Action.update_eq_error.1 h
      split at hjump
      · cases hjump
      · next hlabel =>
        cases hjump
        exact .jump hholds hlabel
    · exact (Action.pure_eq_error.1 h).elim
  case h_10 =>
    simp only [applyBinary, value, assign, Store.readOn_unbounded, Store.writeOn_unbounded, onStore,
      Action.bind_eq_error, Action.query_eq_error, Action.query_eq_ok, Action.within_eq_error] at h
    obtain ⟨hx, -⟩ | ⟨x, _, ⟨hx, rfl⟩, ⟨hy, -⟩ | ⟨y, _, ⟨hy, rfl⟩, ⟨hresult, -⟩ |
      ⟨result, _, ⟨-, rfl⟩, store, hwrite, -⟩⟩⟩ := h
    · exact .read (by simp) hx
    · exact .read (by simp) hy
    · exact .binary hx hy hresult
    · exact .write hwrite
  case h_11 =>
    simp only [applyUnary, value, assign, Store.readOn_unbounded, Store.writeOn_unbounded, onStore,
      Action.bind_eq_error, Action.query_eq_error, Action.query_eq_ok, Action.within_eq_error] at h
    obtain ⟨hx, -⟩ | ⟨x, _, ⟨hx, rfl⟩, ⟨hresult, -⟩ | ⟨result, _, ⟨-, rfl⟩, store, hwrite, -⟩⟩ := h
    · exact .read (by simp) hx
    · exact .unary hx hresult
    · exact .write hwrite
  case h_12 =>
    obtain ⟨rfl, -⟩ := Action.throw_eq_error.1 h
    refine .missing ?_
    rcases operands with _ | ⟨first, _ | ⟨second, rest⟩⟩ <;> cases opcode <;> grind [Opcode.arity]

end RegisterMachine.Machine
