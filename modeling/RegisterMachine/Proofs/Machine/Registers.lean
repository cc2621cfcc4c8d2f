import RegisterMachine.Proofs.Machine.Numbers

set_option autoImplicit false
set_option relaxedAutoImplicit false

/-!
# Registers are never missing

Three places decide what the name of a register is: the operand is a register if the lower-case
spelling of its text is one of the names of the machine, its name is that spelling, and the
registers look the name up in lower case once more. They agree on every text and every number of
registers. Programs thus meet no register that is missing, not even through aliases, whose targets
are operands that were read for the same machine.

## Main definitions

* `RegisterMachine.Operand.Reaches` — what an access to an operand may come to.
* `RegisterMachine.Registers.Accepts` — names that can be read and written.

## Main results

* `RegisterMachine.Operand.Reaches.isReading` — what is reached was read for the same machine.
* `RegisterMachine.Registers.accepts_of_find?` — registers of the right number accept every name.
* `RegisterMachine.Machine.Failure.kind_ne_invalidRegister` — no instruction fails for a missing
  register.
* `RegisterMachine.Machine.registers_are_never_missing` — no program does, on any host.
-/

namespace RegisterMachine

/-! ## What an access to an operand comes to -/

namespace Operand

/-- What an access to an operand may come to: the operand itself, what stands in its brackets, and
the target of the alias that it names, any number of times. -/
inductive Reaches (aliases : AliasTable) : Operand → Operand → Prop
  /-- An operand reaches itself. -/
  | refl (operand : Operand) : Reaches aliases operand operand
  /-- A cell reaches what its address does. -/
  | inner {text : String} {inner other : Operand} (h : Reaches aliases inner other) :
      Reaches aliases (.indirect text inner) other
  /-- A symbol reaches what its target does. -/
  | target {name : String} {target other : Operand} (hlookup : aliases.lookup name = some target)
      (h : Reaches aliases target other) : Reaches aliases (.symbol name) other

/-- **What an operand reaches was read for the same machine**, if the operand and the targets of all
aliases were. -/
lemma Reaches.isReading {aliases : AliasTable} {count : Nat} {operand other : Operand}
    (haliases : aliases.IsReading count) (h : Reaches aliases operand other)
    (hoperand : operand.IsReading count) : other.IsReading count := by
  induction h with
  | refl operand => exact hoperand
  | inner h ih => exact ih (isReading_indirect_iff.1 hoperand).2
  | target hlookup h ih => exact ih (haliases _ (AliasTable.mem_of_lookup hlookup)).2

end Operand

/-! ## Names that registers accept -/

namespace Registers

/-- Registers can be read and written under a name. -/
def Accepts (registers : Registers) (name : String) : Prop :=
  (∃ value, registers.read name = .ok value) ∧
    ∀ value, ∃ after, registers.write name value = .ok after

/-- **Registers accept every name of a register that is within their number.** -/
lemma accepts_of_find? {registers : Registers} {text : String} {name : RegisterName}
    (h : RegisterName.find? registers.general.size text = some name) : registers.Accepts text := by
  obtain ⟨value, hvalue⟩ := exists_get?_of_find? h
  refine ⟨⟨value, by simp [read, h, hvalue]⟩, fun number => ?_⟩
  obtain ⟨after, hafter, -⟩ := exists_set?_of_get? hvalue number
  exact ⟨after, by simp [write, h, hafter]⟩

end Registers

/-! ## Failures of instructions -/

/-- A host refuses only pauses that have no representation. -/
lemma Host.exists_eq_outOfRange_of_sleep {host : Host} {seconds : Number} {cause : Cause}
    (h : host.sleep seconds = .error cause) : ∃ e, cause = .outOfRange e := by
  unfold sleep at h
  split at h
  · cases h
  · split at h
    · cases h
    · split at h
      · next e _ =>
        cases h
        exact ⟨e, rfl⟩
      · cases h

namespace Machine

variable {machine : Machine} {mnemonic : String} {opcode : Opcode} {operands : List Operand}
  {cause : Cause} {count : Nat}

/-- **No instruction fails for a missing register**, on a machine with a sound store, if its
operands were read from texts. -/
lemma Failure.kind_ne_invalidRegister (h : Failure machine mnemonic opcode operands cause)
    (hstore : machine.store.IsSound count)
    (hoperands : ∀ operand ∈ operands, operand.IsReading count) :
    cause.kind ≠ .invalidRegister := by
  have hinaccessible : Store.Inaccessible cause → cause.kind ≠ .invalidRegister := by
    rintro ⟨⟩ ⟨⟩
  have hundefined : Number.Undefined cause → cause.kind ≠ .invalidRegister := by
    rintro ⟨⟩ ⟨⟩
  cases h with
  | read hmem hread => exact hinaccessible (hstore.inaccessible_of_read (hoperands _ hmem) hread)
  | write hwrite =>
    exact hinaccessible (hstore.inaccessible_of_write (hoperands _ List.mem_cons_self) hwrite)
  | pause _ hsleep =>
    obtain ⟨e, rfl⟩ := Host.exists_eq_outOfRange_of_sleep hsleep
    rintro ⟨⟩
  | binary ha hb hresult =>
    have hx := hstore.inRange_of_read (hoperands _ (by simp)) ha
    have hy := hstore.inRange_of_read (hoperands _ (by simp)) hb
    exact hundefined (BinaryOp.undefined_of_apply hx hy hresult)
  | unary ha hresult =>
    have hx := hstore.inRange_of_read (hoperands _ (by simp)) ha
    exact hundefined (UnaryOp.undefined_of_apply hx hresult)
  | print | notAliasable | showRegisters | showMemory | jump | missing => rintro ⟨⟩

/-- **Registers are never missing.** No program stops at a register that is missing, in any
configuration, on any host, after any number of steps. An operand that is reached from one that was
read for the machine, through brackets and aliases to any depth, names a register of the machine by
its lower-case spelling if it is a register at all; all registers of the machine's number can be
read and written under that name.

**Proof sketch.** A fault in a run is the failure of an instruction on a sound store
(`exists_failure_of_fault`), and such instructions do not fail for a missing register
(`Failure.kind_ne_invalidRegister`). Targets of aliases in a sound store were read for the machine,
and so was everything reached (`Operand.Reaches.isReading`). That the operand is a register means
that its text denotes one (`RegisterName.find?_eq_some_iff`), in any spelling
(`RegisterName.find?_lower`). -/
theorem registers_are_never_missing {config : Config} {source : String} {program : Program}
    (hlink : Program.link config source = .ok program) (host : Host) (calls : Nat) :
    let machine := step^[calls] (fresh config host program)
    (∀ fault, machine.fault? = some fault → fault.kind ≠ .invalidRegister) ∧
    machine.store.registers.general.size = config.registerCount ∧
    (∀ instruction ∈ program.instructions, ∀ operand ∈ instruction.operands,
      Operand.ofText config.registerCount operand.text = .ok operand) ∧
    ∀ token operand, Operand.ofText config.registerCount token = .ok operand →
      ∀ text, operand.Reaches machine.store.aliases (.register text) →
        (∃ name ∈ RegisterName.all config.registerCount, name.text = Text.lower text) ∧
        ∀ registers : Registers, registers.general.size = config.registerCount →
          registers.Accepts (Text.lower text) := by
  intro machine
  have hlinked := Program.isLinked_of_link hlink
  have hsound : IsSound config.registerCount program calls machine :=
    isSound_iterate_step hlink host calls
  refine ⟨fun fault hfault => ?_, hsound.store.size_eq, hlinked.operands, ?_⟩
  · obtain ⟨i, -, instruction, hmem, cause, log, herror, rfl⟩ :=
      exists_failure_of_fault hlink host calls hfault
    have hkind : ((Fault.ofCause cause).locate instruction.line instruction.source).kind =
        cause.kind := by simp [Fault.locate, Fault.ofCause]
    rw [hkind]
    rcases failure_of_execute herror with ⟨-, rfl⟩ | ⟨opcode, -, hfailure⟩
    · rintro ⟨⟩
    · have hstore := (isSound_iterate_step hlink host i).store
      exact hfailure.kind_ne_invalidRegister hstore (hlinked.operands instruction hmem)
  · intro token operand hoperand text hreaches
    have hregister : (Operand.register text).IsReading config.registerCount :=
      hreaches.isReading hsound.store.aliases (Operand.isReading_of_ofText hoperand)
    obtain ⟨name, hname⟩ :=
      Option.isSome_iff_exists.1 (Operand.isReading_register_iff.1 hregister).2
    refine ⟨⟨name, RegisterName.find?_eq_some_iff.1 hname⟩, fun registers hsize => ?_⟩
    have hlower : RegisterName.find? registers.general.size (Text.lower text) = some name := by
      rw [hsize]
      exact RegisterName.find?_lower hname
    exact Registers.accepts_of_find? hlower

/-- A register in brackets, behind an alias, in capital letters. -/
theorem registers_are_never_missing_of_alias :
    let target : Operand := .indirect "[R1]" (.register "R1")
    let program : Program :=
      { instructions :=
          #[⟨"als", [.symbol "x", target], 1, "als x, [R1]"⟩,
            ⟨"mov", [.symbol "x", .literal "7" (.int 7)], 2, "mov x, 7"⟩] }
    let machine := step^[3] (fresh .default .freshConsole program)
    Program.link .default "als x, [R1]\nmov x, 7" = .ok program ∧
      Operand.ofText 16 "x" = .ok (.symbol "x") ∧
      (Operand.symbol "x").Reaches machine.store.aliases (.register "R1") ∧
      (∃ name ∈ RegisterName.all 16, name.text = Text.lower "R1") ∧
      machine.store.registers.Accepts (Text.lower "R1") := by
  intro target program machine
  have hlink : Program.link .default "als x, [R1]\nmov x, 7" = .ok program := by decide +kernel
  have htoken : Operand.ofText Config.default.registerCount "x" = .ok (.symbol "x") := by
    decide +kernel
  have hlookup : machine.store.aliases.lookup "x" = some target := by decide +kernel
  have hmachine : machine = step^[3] (fresh .default .freshConsole program) := rfl
  obtain ⟨-, hsize, -, hoperands⟩ := registers_are_never_missing hlink .freshConsole 3
  rw [← hmachine] at hsize hoperands
  clear_value machine
  have hreaches : (Operand.symbol "x").Reaches machine.store.aliases (.register "R1") :=
    .target hlookup (.inner (.refl _))
  obtain ⟨hname, haccepts⟩ := hoperands "x" (.symbol "x") htoken "R1" hreaches
  exact ⟨hlink, htoken, hreaches, hname, haccepts machine.store.registers hsize⟩

end Machine

end RegisterMachine
