import RegisterMachine.Program
import RegisterMachine.Proofs.Operand.Classification

set_option autoImplicit false
set_option relaxedAutoImplicit false

/-!
# Linked programs

Linking reads every operand from a text of the source, and binds every label to the number of an
instruction or to the place behind the last one.

## Main definitions

* `RegisterMachine.Program.IsLinked` — the invariant of linking.

## Main results

* `RegisterMachine.Program.isLinked_of_link` — a program that comes out of linking is linked.
* `RegisterMachine.Program.IsLinked.labelIndex?_bounds` — where a label may point.
* `RegisterMachine.Program.fetch?_of_pos` — the instruction with a number within the program.
-/

namespace RegisterMachine.Program

variable {count : Nat} {program next : Program}

/-! ## Instructions by number -/

/-- An instruction with a number within the program is the one at that place. -/
lemma fetch?_of_pos {index : Int} (hpos : 1 ≤ index) (hle : index ≤ program.size) :
    ∃ instruction, program.fetch? index = some instruction ∧
      program.instructions[(index - 1).toNat]? = some instruction := by
  have hlt : (index - 1).toNat < program.instructions.size := by
    have hsize : index ≤ program.instructions.size := hle
    omega
  refine ⟨program.instructions[(index - 1).toNat], ?_, by simp⟩
  have hpos' : 0 < index := by omega
  simp [fetch?, hpos']

/-- The number of an instruction is at most the number of instructions. -/
lemma le_size_of_fetch? {index : Int} {instruction : Instruction} (hpos : 0 < index)
    (h : program.fetch? index = some instruction) : index ≤ program.size := by
  rw [fetch?, if_pos hpos] at h
  have hlt : (index - 1).toNat < program.instructions.size := (Array.getElem?_eq_some_iff.1 h).1
  rw [size]
  omega

/-- An instruction that is found by its number belongs to the program. -/
lemma mem_of_fetch? {index : Int} {instruction : Instruction}
    (h : program.fetch? index = some instruction) : instruction ∈ program.instructions := by
  unfold fetch? at h
  split at h
  · exact Array.mem_of_getElem? h
  · split at h
    · exact Array.mem_of_getElem? h
    · cases h

/-! ## What linking keeps -/

/-- What holds of a program while it is linked, in a machine with so many registers. -/
structure IsLinked (count : Nat) (program : Program) : Prop where
  /-- Operands were read from texts. -/
  operands : ∀ instruction ∈ program.instructions, ∀ operand ∈ instruction.operands,
    operand.IsReading count
  /-- Labels are bound to instructions or to the place behind the last one. -/
  labels : ∀ label ∈ program.labels, 1 ≤ label.index ∧ label.index ≤ program.size + 1

namespace IsLinked

/-- The empty program is linked. -/
lemma empty : IsLinked count {} where
  operands := fun instruction h => by simp at h
  labels := fun label h => by simp at h

/-- A new label is bound to the next instruction. -/
lemma addLabel (h : program.IsLinked count) {line : Nat} {source name : String}
    (hnext : program.addLabel line source name = .ok next) : next.IsLinked count := by
  unfold Program.addLabel at hnext
  split at hnext
  · cases hnext
  · split at hnext
    · cases hnext
    · cases hnext
      refine ⟨h.operands, fun label hlabel => ?_⟩
      rcases Array.mem_push.1 hlabel with hold | rfl
      · exact h.labels label hold
      · exact ⟨by simp, Nat.le_refl _⟩

/-- A new instruction whose operands were read from texts leaves the labels within the program. -/
lemma addInstruction (h : program.IsLinked count) {instruction : Instruction}
    (hoperands : ∀ operand ∈ instruction.operands, operand.IsReading count)
    (hnext : program.addInstruction instruction = .ok next) : next.IsLinked count := by
  unfold Program.addInstruction at hnext
  split at hnext
  · cases hnext
  · cases hnext
    refine ⟨fun other hother => ?_, fun label hlabel => ?_⟩
    · rcases Array.mem_push.1 hother with hold | rfl
      · exact h.operands other hold
      · exact hoperands
    · obtain ⟨hpos, hle⟩ := h.labels label hlabel
      have hsize : (program.instructions.push instruction).size = program.size + 1 :=
        Array.size_push _
      exact ⟨hpos, by rw [size, hsize]; omega⟩

/-- Operands of arguments were read from texts. -/
lemma readOperands {arguments : List String} {operands : List Operand}
    (h : Program.readOperands count arguments = .ok operands) :
    ∀ operand ∈ operands, operand.IsReading count := by
  intro operand hoperand
  unfold Program.readOperands at h
  split at h
  · next hread =>
    cases h
    obtain ⟨text, -, htext⟩ := Except.exists_of_mem_of_mapM_eq_ok hread hoperand
    exact Operand.isReading_of_ofText htext
  · cases h

/-- A new line keeps a program linked. -/
lemma addLine (h : program.IsLinked count) {number : Nat} {line : Line}
    (hnext : program.addLine count number line = .ok next) : next.IsLinked count := by
  unfold Program.addLine at hnext
  split at hnext
  · exact h.addLabel hnext
  · obtain ⟨operands, hread, hadd⟩ := Except.bind_eq_ok.1 hnext
    exact h.addInstruction (readOperands hread) hadd

/-- New lines, one after the other, keep a program linked. -/
lemma addLines (h : program.IsLinked count) {lines : List (Nat × Line)}
    (hnext : lines.foldlM (fun program (number, line) => program.addLine count number line)
      program = .ok next) : next.IsLinked count := by
  induction lines generalizing program with
  | nil =>
    obtain rfl : next = program := by simpa using hnext
    exact h
  | cons line lines ih =>
    simp only [List.foldlM_cons, Except.bind_eq_ok] at hnext
    obtain ⟨mid, hline, hrest⟩ := hnext
    exact ih (h.addLine hline) hrest

end IsLinked

/-- **A program that comes out of linking is linked.** -/
lemma isLinked_of_link {config : Config} {source : String} (h : link config source = .ok program) :
    program.IsLinked config.registerCount :=
  IsLinked.empty.addLines h

/-- **A label points to an instruction or to the place behind the last one.** -/
lemma IsLinked.labelIndex?_bounds (h : program.IsLinked count) {name : String} {index : Nat}
    (hlabel : program.labelIndex? name = some index) : 1 ≤ index ∧ index ≤ program.size + 1 := by
  obtain ⟨label, hfind, rfl⟩ := Option.map_eq_some_iff.1 hlabel
  exact h.labels label (Array.mem_of_find?_eq_some hfind)

end RegisterMachine.Program
