import RegisterMachine.Proofs.Machine.Effect

set_option autoImplicit false
set_option relaxedAutoImplicit false

/-!
# Atomicity of instructions

An instruction that fails has changed nothing: everything that can fail comes before the first
change. Printing the state of the machine is the one exception, since it prints the registers before
it looks at the memory; but a sound store can always be shown.

## Main definitions

* `RegisterMachine.Action.IsAtomicAt` — where an action fails, it has changed nothing, and the
  failure is a fault of the program.

## Main results

* `RegisterMachine.Action.isAtomicAt_query_bind` — whatever is computed from the state first may
  fail.
* `RegisterMachine.Machine.isAtomicAt_execute` — instructions are atomic on machines with a sound
  store.
-/

namespace RegisterMachine

namespace Action

variable {σ τ α β : Type} {s : σ}

/-- If the action fails in this state, it has changed nothing, and the failure is a fault of the
program. -/
def IsAtomicAt (action : Action σ α) (s : σ) : Prop :=
  ∀ cause after, action s = .error cause after → after = s ∧ cause.isFault

/-- A refusal changes nothing. -/
lemma isAtomicAt_throw {cause : Cause} (h : cause.isFault) :
    (throw cause : Action σ α).IsAtomicAt s := by
  intro cause' after herror
  obtain ⟨rfl, rfl⟩ := throw_eq_error.1 herror
  exact ⟨rfl, h⟩

/-- A change that cannot fail is atomic. -/
lemma isAtomicAt_modify (f : σ → σ) : (modify f : Action σ Unit).IsAtomicAt s := by
  intro cause after herror
  exact (modify_eq_error.1 herror).elim

/-- A change that may be refused is atomic. -/
lemma isAtomicAt_update {f : σ → Except Cause σ}
    (h : ∀ cause, f s = .error cause → cause.isFault) : (update f).IsAtomicAt s := by
  intro cause after herror
  obtain ⟨hf, rfl⟩ := update_eq_error.1 herror
  exact ⟨rfl, h cause hf⟩

/-- **What is computed from the state first may fail**, and an atomic action may come after it. -/
lemma isAtomicAt_query_bind {f : σ → Except Cause α} {next : α → Action σ β}
    (hf : ∀ cause, f s = .error cause → cause.isFault)
    (hnext : ∀ a, f s = .ok a → (next a).IsAtomicAt s) :
    (query f >>= next).IsAtomicAt s := by
  intro cause after herror
  rcases bind_eq_error.1 herror with hquery | ⟨a, r, hquery, hrest⟩
  · obtain ⟨hcause, rfl⟩ := query_eq_error.1 hquery
    exact ⟨rfl, hf cause hcause⟩
  · obtain ⟨ha, rfl⟩ := query_eq_ok.1 hquery
    exact hnext a ha cause after hrest

end Action

namespace Machine

variable {machine : Machine} {count : Nat} {operand : Operand}

/-- An action on the store is atomic on the machine if it is on the store. -/
lemma isAtomicAt_onStore {α : Type} {action : Action Store α}
    (h : action.IsAtomicAt machine.store) : (onStore action).IsAtomicAt machine := by
  intro cause after herror
  obtain ⟨store, hstore, rfl⟩ := Action.within_eq_error.1 herror
  obtain ⟨rfl, hfault⟩ := h cause store hstore
  exact ⟨rfl, hfault⟩

/-- A number is read before anything is changed. -/
lemma isAtomicAt_value_bind {β : Type} {next : Number → Action Machine β}
    (hnext : ∀ value, (next value).IsAtomicAt machine) :
    (value .unbounded operand >>= next).IsAtomicAt machine :=
  Action.isAtomicAt_query_bind (fun _ => Store.isFault_of_read) fun value _ => hnext value

/-- A write is atomic. -/
lemma isAtomicAt_assign (value : Number) :
    (assign .unbounded operand value).IsAtomicAt machine :=
  isAtomicAt_onStore fun _ _ => Store.eq_and_isFault_of_write

/-- All operands are read before anything is printed. -/
lemma isAtomicAt_out (operands : List Operand) :
    (out .unbounded operands).IsAtomicAt machine := by
  refine Action.isAtomicAt_query_bind (fun cause herror => ?_) fun _ _ => Action.isAtomicAt_modify _
  obtain ⟨operand, -, hprinted⟩ := Except.exists_of_mapM_eq_error herror
  simp only [printed, Store.readOn_unbounded, Except.bind_eq_error,
    Except.mapError_eq_error] at hprinted
  obtain hread | ⟨_, -, e, -, rfl⟩ := hprinted
  · exact Store.isFault_of_read hread
  · rfl

/-- A symbol takes a new meaning, and other operands are refused. -/
lemma isAtomicAt_defineAlias (name target : Operand) :
    (defineAlias name target).IsAtomicAt machine := by
  cases name with
  | symbol text => exact isAtomicAt_onStore (Action.isAtomicAt_modify _)
  | indirect | register | literal => exact Action.isAtomicAt_throw rfl

/-- The state of a machine with a sound store is printed without failure. -/
lemma isAtomicAt_showState (hstore : machine.store.IsSound count) :
    showState.IsAtomicAt machine := by
  obtain ⟨registers, hregisters⟩ := hstore.exists_display
  obtain ⟨dump, hdump⟩ := hstore.exists_dump
  intro cause after herror
  rw [showState_eq_ok hregisters hdump] at herror
  cases herror

/-- A pause that the host refuses changes nothing. -/
lemma isAtomicAt_pause (operand : Operand) :
    (pause .unbounded operand).IsAtomicAt machine := by
  refine isAtomicAt_value_bind fun seconds => Action.isAtomicAt_update fun cause herror => ?_
  simp only [bind_pure_comp, Except.map_eq_error] at herror
  unfold Host.sleep at herror
  split at herror
  · cases herror
  · split at herror
    · cases herror
    · split at herror <;> cases herror
      rfl

/-- An exchange of events does not fail. -/
lemma isAtomicAt_exchange (name : String) : (exchange name).IsAtomicAt machine := by
  intro cause after herror
  rw [exchange_eq_ok] at herror
  cases herror

/-- A jump to a label that is not defined changes nothing. -/
lemma isAtomicAt_branch (condition : Condition) (label : Operand) :
    (branch condition label).IsAtomicAt machine := by
  intro cause after herror
  simp only [branch, Action.get_bind] at herror
  split at herror
  · refine Action.isAtomicAt_update (fun cause herror => ?_) cause after herror
    split at herror <;> cases herror
    rfl
  · exact (Action.pure_eq_error.1 herror).elim

/-- **Instructions are atomic on machines with a sound store.** -/
lemma isAtomicAt_perform (hstore : machine.store.IsSound count) (mnemonic : String)
    (opcode : Opcode) (operands : List Operand) :
    (perform mnemonic opcode operands).IsAtomicAt machine := by
  unfold perform performOn
  split
  case h_1 => exact isAtomicAt_out _
  case h_2 => exact isAtomicAt_value_bind isAtomicAt_assign
  case h_3 => exact isAtomicAt_defineAlias _ _
  case h_4 => exact isAtomicAt_showState hstore
  case h_5 => exact Action.isAtomicAt_modify _
  case h_6 => exact isAtomicAt_pause _
  case h_7 => exact isAtomicAt_exchange _
  case h_8 =>
    exact isAtomicAt_value_bind fun _ => isAtomicAt_value_bind fun _ =>
      isAtomicAt_onStore (Action.isAtomicAt_modify _)
  case h_9 => exact isAtomicAt_branch _ _
  case h_10 =>
    refine isAtomicAt_value_bind fun _ => isAtomicAt_value_bind fun _ => ?_
    exact Action.isAtomicAt_query_bind (fun _ => BinaryOp.isFault_of_apply) fun _ _ =>
      isAtomicAt_assign _
  case h_11 =>
    refine isAtomicAt_value_bind fun _ => ?_
    exact Action.isAtomicAt_query_bind (fun _ => UnaryOp.isFault_of_apply) fun _ _ =>
      isAtomicAt_assign _
  case h_12 => exact Action.isAtomicAt_throw rfl

/-- **Instructions are atomic on machines with a sound store**, also those that are not known. -/
lemma isAtomicAt_execute (hstore : machine.store.IsSound count) (instruction : Instruction) :
    (execute instruction).IsAtomicAt machine := by
  rw [execute_def]
  split
  · exact isAtomicAt_perform hstore _ _ _
  · exact Action.isAtomicAt_throw rfl

end Machine

end RegisterMachine
