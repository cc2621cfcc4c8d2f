import RegisterMachine.Proofs.Machine.Run

set_option autoImplicit false
set_option relaxedAutoImplicit false

/-!
# Writing to flags

Which instructions write to a flag, and what. A comparison sets three of them, and a flag takes any
number that is stored in it, be it by a move or by an operation on the flag itself; programs change
no flag in any other way.

## Main definitions

* `RegisterMachine.Store.DenotesFlag` — operands that come down to the name of a flag.
* `RegisterMachine.Machine.WritesFlag` — the instructions that write to a flag, and what they write.

## Main results

* `RegisterMachine.Store.locate_eq_flag_iff` — the operands whose location is a flag.
* `RegisterMachine.Machine.Effect.flag_eq_or_writesFlag` — only these instructions change flags.
* `RegisterMachine.Machine.flags_change_only_when_written` — what programs do to flags.
* `RegisterMachine.Machine.increments_set_flags` — they need neither a comparison nor a move for it.
-/

namespace RegisterMachine

/-! ## Flags as locations -/

namespace Store

variable {store after : Store} {operand : Operand} {flag : Flag} {value : Number}

/-- When the aliases of the operand have been followed, the name of the flag is left, in any letter
case. -/
def DenotesFlag (store : Store) (operand : Operand) (flag : Flag) : Prop :=
  ∃ text, store.leaf operand = .register text ∧ Text.lower text = flag.text

/-- A flag has its name in every machine, in any letter case. -/
lemma find?_lower_eq_flag_iff (count : Nat) {text : String} :
    RegisterName.find? count (Text.lower text) = some (.flag flag) ↔
      Text.lower text = flag.text := by
  rw [RegisterName.find?_eq_some_iff, Text.lower_lower, RegisterName.mem_all_iff]
  exact ⟨fun h => h.2.symm, fun h => ⟨rfl, h.symm⟩⟩

/-- **The location of an operand is a flag if it comes down to the name of the flag.** -/
lemma locate_eq_flag_iff :
    store.locate operand = .ok (.register (.flag flag)) ↔ store.DenotesFlag operand flag := by
  unfold locate DenotesFlag leaf
  generalize store.follow store.hops operand = followed
  obtain ⟨hops, leaf⟩ := followed
  cases leaf with
  | indirect text inner => simp [locateLeaf]
  | register text =>
    simp only [locateLeaf, Operand.register.injEq, exists_eq_left']
    rw [← find?_lower_eq_flag_iff store.registers.general.size]
    split
    · next name hname => simp [hname]
    · next hname => simp [hname]
  | literal text number => simp [locateLeaf]
  | symbol name => cases hlookup : store.aliases.lookup name <;> simp [locateLeaf, hlookup]

/-- A flag changes by a write to it, to whether the number differs from zero, and by no other. -/
lemma get_flags_put (value : Number) (location : Location) (flag : Flag) :
    (store.put value location).registers.flags.get flag =
      if location = .register (.flag flag) then !value.isZero
      else store.registers.flags.get flag := by
  cases location with
  | cell index => simp [put]
  | register name =>
    cases name with
    | general index =>
      by_cases hindex : index < store.registers.general.size <;>
        simp [put, Registers.set?, hindex]
    | flag other => simp [put, Registers.set?, Flags.get_set, eq_comm]
    | zero => simp [put, Registers.set?]

/-- What a write through an operand does to a flag. -/
lemma get_flags_of_write (h : write operand value store = .ok () after) (flag : Flag) :
    (store.DenotesFlag operand flag ∧ after.registers.flags.get flag = !value.isZero) ∨
      (¬ store.DenotesFlag operand flag ∧
        after.registers.flags.get flag = store.registers.flags.get flag) := by
  obtain ⟨location, old, hlocate, -, rfl⟩ := exists_location_of_write h
  rw [get_flags_put, ← locate_eq_flag_iff, hlocate, Except.ok.injEq]
  split
  · next hflag => exact .inl ⟨hflag, rfl⟩
  · next hflag => exact .inr ⟨hflag, rfl⟩

end Store

namespace Machine

variable {machine next : Machine} {opcode : Opcode} {operands : List Operand} {flag : Flag}
  {value : Bool} {count calls : Nat} {program : Program}

/-! ## Instructions that write to flags -/

/-- An instruction writes to a flag, and what it writes. -/
inductive WritesFlag (store : Store) (flag : Flag) : Opcode → List Operand → Bool → Prop
  /-- A comparison sets the flags of comparisons to its outcome. -/
  | cmp {a b : Operand} {rest : List Operand} {x y : Number} (hflag : flag ∈ [.eq, .lt, .gt])
      (ha : store.read a = .ok x) (hb : store.read b = .ok y) :
      WritesFlag store flag .cmp (a :: b :: rest) ((store.registers.flags.compare x y).get flag)
  /-- A move stores a number in the flag. -/
  | mov {target source : Operand} {rest : List Operand} {x : Number}
      (htarget : store.DenotesFlag target flag) (hsource : store.read source = .ok x) :
      WritesFlag store flag .mov (target :: source :: rest) (!x.isZero)
  /-- An operation on the flag and another number stores its result in the flag. -/
  | binary {op : BinaryOp} {a b : Operand} {rest : List Operand} {x y result : Number}
      (htarget : store.DenotesFlag a flag) (ha : store.read a = .ok x) (hb : store.read b = .ok y)
      (hresult : op.apply x y = .ok result) :
      WritesFlag store flag (.binary op) (a :: b :: rest) (!result.isZero)
  /-- An operation on the flag stores its result in the flag. -/
  | unary {op : UnaryOp} {a : Operand} {rest : List Operand} {x result : Number}
      (htarget : store.DenotesFlag a flag) (ha : store.read a = .ok x)
      (hresult : op.apply x = .ok result) :
      WritesFlag store flag (.unary op) (a :: rest) (!result.isZero)

/-- A comparison leaves the flags that are not for comparisons. -/
lemma get_compare_of_not_mem {flags : Flags} {x y : Number} (h : flag ∉ [.eq, .lt, .gt]) :
    (flags.compare x y).get flag = flags.get flag := by
  cases flag with
  | eq | lt | gt => simp at h
  | carry | overflow | negative => rfl

/-- **An instruction that changes a flag writes to it.** -/
lemma Effect.flag_eq_or_writesFlag (h : Effect machine opcode operands next) (flag : Flag) :
    next.store.registers.flags.get flag = machine.store.registers.flags.get flag ∨
      WritesFlag machine.store flag opcode operands (next.store.registers.flags.get flag) := by
  cases h with
  | @mov target source rest x store hsource hwrite =>
    obtain ⟨hdenotes, hget⟩ | ⟨-, hget⟩ := Store.get_flags_of_write hwrite flag
    · exact .inr (hget ▸ .mov hdenotes hsource)
    · exact .inl hget
  | @binary op a b rest x y result store ha hb hresult hwrite =>
    obtain ⟨hdenotes, hget⟩ | ⟨-, hget⟩ := Store.get_flags_of_write hwrite flag
    · exact .inr (hget ▸ .binary hdenotes ha hb hresult)
    · exact .inl hget
  | @unary op a rest x result store ha hresult hwrite =>
    obtain ⟨hdenotes, hget⟩ | ⟨-, hget⟩ := Store.get_flags_of_write hwrite flag
    · exact .inr (hget ▸ .unary hdenotes ha hresult)
    · exact .inl hget
  | cmp ha hb =>
    by_cases hflag : flag ∈ [.eq, .lt, .gt]
    · exact .inr (.cmp hflag ha hb)
    · exact .inl (get_compare_of_not_mem hflag)
  | dbg => exact .inl (by rw [foldl_print])
  | _ => exact .inl rfl

/-- **An instruction that writes to a flag leaves there what it writes.** -/
lemma Effect.flag_eq_of_writesFlag (h : Effect machine opcode operands next)
    (hwrites : WritesFlag machine.store flag opcode operands value) :
    next.store.registers.flags.get flag = value := by
  have hwrite : ∀ {target : Operand} {number : Number} {store : Store},
      machine.store.DenotesFlag target flag →
      Store.write target number machine.store = .ok () store →
      store.registers.flags.get flag = !number.isZero := fun hdenotes hwrite =>
    ((Store.get_flags_of_write hwrite flag).resolve_right fun hkept => hkept.1 hdenotes).2
  cases hwrites with
  | cmp _ ha hb =>
    cases h with
    | cmp ha' hb' =>
      cases ha.symm.trans ha'
      cases hb.symm.trans hb'
      rfl
  | mov htarget hsource =>
    cases h with
    | mov hsource' hwritten =>
      cases hsource.symm.trans hsource'
      exact hwrite htarget hwritten
  | binary htarget ha hb hresult =>
    cases h with
    | binary ha' hb' hresult' hwritten =>
      cases ha.symm.trans ha'
      cases hb.symm.trans hb'
      cases hresult.symm.trans hresult'
      exact hwrite htarget hwritten
  | unary htarget ha hresult =>
    cases h with
    | unary ha' hresult' hwritten =>
      cases ha.symm.trans ha'
      cases hresult.symm.trans hresult'
      exact hwrite htarget hwritten

/-! ## Steps of programs -/

/-- The instruction that the next step of a machine executes, if it does not fail. -/
def Executes (machine : Machine) (opcode : Opcode) (operands : List Operand) : Prop :=
  ∃ instruction, machine.program.fetch? (machine.pc + 1) = some instruction ∧
    Opcode.ofMnemonic? instruction.mnemonic = some opcode ∧ instruction.operands = operands

/-- **A step that changes a flag executes an instruction that writes to it.** -/
lemma IsSound.flag_step_eq_or_writesFlag (h : IsSound count program calls machine) (flag : Flag) :
    machine.step.store.registers.flags.get flag = machine.store.registers.flags.get flag ∨
      ∃ opcode operands, machine.Executes opcode operands ∧
        WritesFlag machine.store flag opcode operands
          (machine.step.store.registers.flags.get flag) := by
  obtain hstay | ⟨-, hstepped⟩ := h.step_eq_or_stepped
  · exact .inl (by rw [hstay])
  · generalize machine.step = after at hstepped
    cases hstepped with
    | ended hend => exact .inl rfl
    | @executed instruction opcode log next hle hfetch hopcode heffect =>
      refine (heffect.flag_eq_or_writesFlag flag).imp_right fun hwrites => ?_
      exact ⟨opcode, _, ⟨instruction, hfetch, hopcode, rfl⟩, hwrites⟩
    | failed hle hfetch herror hcause => exact .inl rfl

/-- **A step that executes an instruction that writes to a flag leaves there what it writes**,
unless the instruction fails. -/
lemma IsSound.flag_step_eq_of_writesFlag (h : IsSound count program calls machine)
    (hstate : machine.state = .running) (hfaulted : machine.step.state ≠ .faulted)
    (hexecutes : machine.Executes opcode operands)
    (hwrites : WritesFlag machine.store flag opcode operands value) :
    machine.step.store.registers.flags.get flag = value := by
  obtain ⟨instruction, hfetch, hopcode, rfl⟩ := hexecutes
  have hpc := h.control.pc_nonneg hstate
  have hle := Program.le_size_of_fetch? (by omega) hfetch
  have hstepped := h.stepped hstate
  generalize machine.step = after at hstepped hfaulted
  cases hstepped with
  | ended hend => omega
  | executed _ hfetch' hopcode' heffect =>
    cases hfetch.symm.trans hfetch'
    cases hopcode.symm.trans hopcode'
    exact heffect.flag_eq_of_writesFlag hwrites
  | failed => exact absurd rfl hfaulted

/-- **Flags change only when they are written.** Whenever a step of a program changes a flag, it
executes an instruction that writes to this flag, and leaves there what the instruction writes: a
comparison, for one of its three flags; a move whose destination denotes the flag; or an operation
on what its first operand denotes, which is the flag, and which takes whether the result differs
from zero. Every such instruction that is executed without a fault writes to the flag.

**Proof sketch.** What is stored through an operand changes a flag if the operand comes down to its
name, and no other flag (`Store.get_flags_of_write`). The rest is by cases on the effect of the
instruction (`Effect.flag_eq_or_writesFlag`, `Effect.flag_eq_of_writesFlag`), since a step that ends
the program or fails changes nothing in the store. -/
theorem flags_change_only_when_written {config : Config} {source : String} {program : Program}
    (hlink : Program.link config source = .ok program) (host : Host) (calls : Nat) (flag : Flag) :
    let before := step^[calls] (fresh config host program)
    let after := before.step
    (after.store.registers.flags.get flag ≠ before.store.registers.flags.get flag →
      ∃ opcode operands, before.Executes opcode operands ∧
        WritesFlag before.store flag opcode operands (after.store.registers.flags.get flag)) ∧
    ∀ opcode operands value, before.state = .running → after.state ≠ .faulted →
      before.Executes opcode operands → WritesFlag before.store flag opcode operands value →
        after.store.registers.flags.get flag = value := by
  intro before after
  have hsound : IsSound config.registerCount program calls before :=
    isSound_iterate_step hlink host calls
  refine ⟨fun hchange => ?_, fun opcode operands value => ?_⟩
  · exact (hsound.flag_step_eq_or_writesFlag flag).resolve_left hchange
  · exact hsound.flag_step_eq_of_writesFlag

/-- A move changes a flag through an alias of its name in capital letters. -/
theorem flags_change_only_when_written_of_alias :
    let operands : List Operand := [.symbol "c", .literal "3" (.int 3)]
    let program : Program :=
      { instructions :=
          #[⟨"als", [.symbol "c", .register "CARRY"], 1, "als c, CARRY"⟩,
            ⟨"mov", operands, 2, "mov c, 3"⟩] }
    let before := step^[1] (fresh .default .freshCapture program)
    let after := before.step
    Program.link .default "als c, CARRY\nmov c, 3" = .ok program ∧
      before.store.registers.flags.get .carry = false ∧
      before.Executes .mov operands ∧ before.store.DenotesFlag (.symbol "c") .carry ∧
      after.store.registers.flags.get .carry = true ∧
      ∃ opcode operands, before.Executes opcode operands ∧
        WritesFlag before.store .carry opcode operands true := by
  intro operands program before after
  have hlink : Program.link .default "als c, CARRY\nmov c, 3" = .ok program := by decide +kernel
  have hclear : before.store.registers.flags.get .carry = false := by decide +kernel
  have hdenotes : before.store.DenotesFlag (.symbol "c") .carry :=
    ⟨"CARRY", by decide +kernel, by decide +kernel⟩
  have hexecutes : before.Executes .mov operands :=
    ⟨⟨"mov", operands, 2, "mov c, 3"⟩, by decide +kernel, by decide +kernel, rfl⟩
  have hsource : before.store.read (.literal "3" (.int 3)) = .ok (.int 3) := by decide +kernel
  have hstate : before.state = .running := by decide +kernel
  have hfaulted : before.step.state ≠ .faulted := by decide +kernel
  obtain ⟨hchanges, hwritten⟩ := flags_change_only_when_written hlink .freshCapture 1 .carry
  have hset : before.step.store.registers.flags.get .carry = true :=
    hwritten .mov operands true hstate hfaulted hexecutes (.mov hdenotes hsource)
  obtain ⟨opcode, written, hwriter⟩ := hchanges (by
    change before.step.store.registers.flags.get .carry ≠ before.store.registers.flags.get .carry
    simp [hset, hclear])
  rw [hset] at hwriter
  exact ⟨hlink, hclear, hexecutes, hdenotes, hset, opcode, written, hwriter⟩

/-- **Increments set flags.** A program without comparisons and moves sets a flag that is set by no
comparison, and one that is. -/
theorem increments_set_flags :
    let program : Program :=
      { instructions :=
          #[⟨"inc", [.register "carry"], 1, "inc carry"⟩, ⟨"inc", [.register "eq"], 2, "inc eq"⟩] }
    let machine := fresh .default .freshCapture program
    Program.link .default "inc carry\ninc eq" = .ok program ∧
      (∀ instruction ∈ program.instructions, instruction.mnemonic ≠ "mov" ∧
        instruction.mnemonic ≠ "cmp") ∧
      machine.store.registers.flags.get .carry = false ∧
      machine.step.store.registers.flags.get .carry = true ∧
      machine.step.store.registers.flags.get .eq = false ∧
      machine.step.step.store.registers.flags.get .eq = true := by
  decide +kernel

end Machine

end RegisterMachine
