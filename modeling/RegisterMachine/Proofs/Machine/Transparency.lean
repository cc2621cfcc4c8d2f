import RegisterMachine.Machine
import RegisterMachine.Proofs.Store.Expansion
import Mathlib.Data.List.Forall2

set_option autoImplicit false
set_option relaxedAutoImplicit false

/-!
# Transparency of aliases

Most instructions work on the numbers that their operands denote, and on the locations to write them
to. Such an instruction does the same through other operands, if reading and writing do not tell
them apart; in particular through the expansions of its operands. An alias is thus as good as what
it stands for.

## Main definitions

* `RegisterMachine.Opcode.worksOnNumbers` — the instructions that look at operands in no other way.

## Main results

* `RegisterMachine.Machine.perform_of_sameAccess` — such an instruction does the same.
* `RegisterMachine.Machine.aliases_are_transparent` — so does its execution with expanded operands.
-/

namespace RegisterMachine

/-- Whether an instruction works on the numbers that its operands denote. The other instructions
take an operand by its text, or take none. -/
def Opcode.worksOnNumbers : Opcode → Bool
  | .out | .mov | .slp | .cmp | .binary _ | .unary _ => true
  | .als | .dbg | .hlt | .nop | .jump _ => false

/-- Computations that give the same on the elements of two lists give the same on the lists. -/
lemma Except.mapM_congr {ε α β : Type} {f : α → Except ε β} {as bs : List α}
    (h : List.Forall₂ (fun a b => f b = f a) as bs) : bs.mapM f = as.mapM f := by
  induction h with
  | nil => rfl
  | cons hhead htail ih => rw [List.mapM_cons, List.mapM_cons, hhead, ih]

namespace Machine

open Store (SameAccess)

variable {machine : Machine} {opcode : Opcode} {operand other : Operand}
  {operands others : List Operand}

/-- A read gives the same number to what comes after it. -/
lemma value_bind_of_sameAccess {next next' : Number → Action Machine Unit}
    (h : machine.store.SameAccess operand other)
    (hnext : ∀ x, next x machine = next' x machine) :
    (value .unbounded other >>= next) machine = (value .unbounded operand >>= next') machine :=
  Action.query_bind_congr h.read_eq fun x _ => hnext x

/-- A write goes to the same location. -/
lemma assign_of_sameAccess (h : machine.store.SameAccess operand other) (x : Number) :
    assign .unbounded other x machine = assign .unbounded operand x machine := by
  simp only [assign, onStore, Action.within, Store.writeOn_unbounded, h.write_eq x]

/-- **An instruction that works on numbers does the same through operands of the same access.**

**Proof sketch.** By cases on the instruction. All its reads come first, from the same store, and
what it does with the numbers is the same; so is the location of its write. -/
lemma perform_of_sameAccess (mnemonic : String) (hnumbers : opcode.worksOnNumbers)
    (h : List.Forall₂ machine.store.SameAccess operands others) :
    perform mnemonic opcode others machine = perform mnemonic opcode operands machine := by
  cases opcode with
  | out =>
    have hprinted : others.mapM (printed .unbounded machine.store) =
        operands.mapM (printed .unbounded machine.store) :=
      Except.mapM_congr (h.imp fun _ _ hsame => by
        simp only [printed, Store.readOn_unbounded, hsame.read_eq])
    exact Action.query_bind_congr hprinted fun _ _ => rfl
  | slp =>
    cases h with
    | nil => rfl
    | cons ha _ => exact value_bind_of_sameAccess ha fun _ => rfl
  | unary op =>
    cases h with
    | nil => rfl
    | cons ha _ =>
      refine value_bind_of_sameAccess ha fun x => ?_
      exact Action.query_bind_congr rfl fun result _ => assign_of_sameAccess ha result
  | mov =>
    cases h with
    | nil => rfl
    | cons ha h =>
      cases h with
      | nil => rfl
      | cons hb _ => exact value_bind_of_sameAccess hb fun x => assign_of_sameAccess ha x
  | cmp =>
    cases h with
    | nil => rfl
    | cons ha h =>
      cases h with
      | nil => rfl
      | cons hb _ =>
        exact value_bind_of_sameAccess ha fun x => value_bind_of_sameAccess hb fun y => rfl
  | binary op =>
    cases h with
    | nil => rfl
    | cons ha h =>
      cases h with
      | nil => rfl
      | cons hb _ =>
        refine value_bind_of_sameAccess ha fun x => value_bind_of_sameAccess hb fun y => ?_
        exact Action.query_bind_congr rfl fun result _ => assign_of_sameAccess ha result
  | als | dbg | hlt | nop | jump => simp [Opcode.worksOnNumbers] at hnumbers

/-- A record in the trace leaves the store as it is. -/
lemma store_of_tracing {instruction : Instruction} {traced : Machine}
    (h : machine.tracing instruction = .ok traced) : traced.store = machine.store := by
  unfold tracing at h
  split at h
  · obtain ⟨registers, -, hreport⟩ := Except.bind_eq_ok.1 h
    cases hreport
    rfl
  · cases h
    rfl

/-- **An alias is as good as what it stands for.** Take an instruction that works on numbers, and
put for any of its operands the expansion under the aliases of the machine, if that takes no more
hops than the limit. The machine is the same after the execution, whether it succeeds or fails:
registers, flags, memory, aliases, program counter, state of the run, output, and the fault.

**Proof sketch.** An operand and its expansion have the same access to the store
(`Store.sameAccess_of_expansion`), and the instruction looks at its operands in no other way
(`perform_of_sameAccess`). A record in the trace does not show operands, only the source line. -/
theorem aliases_are_transparent (machine : Machine) {instruction : Instruction} {opcode : Opcode}
    (hopcode : Opcode.ofMnemonic? instruction.mnemonic = some opcode)
    (hnumbers : opcode.worksOnNumbers) {operands : List Operand}
    (hoperands : List.Forall₂ (fun operand other => other = operand ∨
      ∃ n ≤ machine.store.hops, operand.Expansion machine.store.aliases n other)
      instruction.operands operands) :
    machine.executeInstruction { instruction with operands } =
      machine.executeInstruction instruction := by
  have hsame : List.Forall₂ machine.store.SameAccess instruction.operands operands := by
    refine hoperands.imp fun operand other h => ?_
    obtain rfl | ⟨n, hn, hexpansion⟩ := h
    · exact .refl _ _
    · exact Store.sameAccess_of_expansion hexpansion hn
  have htracing : machine.tracing { instruction with operands } = machine.tracing instruction := rfl
  simp only [executeInstruction_def]
  rw [htracing]
  cases htraced : machine.tracing instruction with
  | error e => rfl
  | ok traced =>
    rw [← store_of_tracing htraced] at hsame
    have hperform := perform_of_sameAccess instruction.mnemonic hnumbers hsame
    simp only [executeTraced_def, execute_def, hopcode, hperform]
    rfl

/-- An alias of a cell whose address is an alias, in a sum with the second alias. -/
theorem aliases_are_transparent_of_cell :
    let program : Program :=
      { instructions :=
          #[⟨"als", [.symbol "p", .register "r1"], 1, "als p, r1"⟩,
            ⟨"als", [.symbol "x", .indirect "[p]" (.symbol "p")], 2, "als x, [p]"⟩,
            ⟨"mov", [.symbol "p", .literal "7" (.int 7)], 3, "mov p, 7"⟩] }
    let machine := runFor 3 (fresh .default .freshCapture program)
    let written : Instruction := ⟨"add", [.symbol "x", .symbol "p"], 4, "add x, p"⟩
    let expanded : List Operand := [.indirect "[r1]" (.register "r1"), .register "r1"]
    machine.executeInstruction { written with operands := expanded } =
        machine.executeInstruction written ∧
      (machine.executeInstruction written).store.memory.cells[7]? = some (.int 7) := by
  intro program machine written expanded
  have hp : machine.store.aliases.lookup "p" = some (.register "r1") := by decide +kernel
  have hx : machine.store.aliases.lookup "x" = some (.indirect "[p]" (.symbol "p")) := by
    decide +kernel
  have hhops : machine.store.hops = 64 := by decide +kernel
  have hpointer : (Operand.symbol "p").Expansion machine.store.aliases 1 (.register "r1") :=
    .hop hp (.register "r1")
  have hcell : (Operand.symbol "x").Expansion machine.store.aliases 2
      (.indirect "[r1]" (.register "r1")) := .hop hx (.indirect "[p]" "[r1]" hpointer)
  have hopcode : Opcode.ofMnemonic? "add" = some (.binary .add) := by decide +kernel
  refine ⟨aliases_are_transparent machine hopcode rfl ?_, by decide +kernel⟩
  exact .cons (.inr ⟨2, by omega, hcell⟩) (.cons (.inr ⟨1, by omega, hpointer⟩) .nil)

end Machine

end RegisterMachine
