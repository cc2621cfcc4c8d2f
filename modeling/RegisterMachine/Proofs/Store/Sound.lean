import RegisterMachine.Proofs.Opcode
import RegisterMachine.Proofs.Store.Contents

set_option autoImplicit false
set_option relaxedAutoImplicit false

/-!
# Sound stores

The stores that programs work on: the number of registers does not change, every alias was read
from a text, and every number is in range. What an operand denotes is then in range too, and the
store can be shown. All failures of reads and writes are faults of the program.

## Main definitions

* `RegisterMachine.Store.IsSound` — the invariant of stores.

## Main results

* `RegisterMachine.Store.IsSound.inRange_of_read` — what a sound store reads is in range.
* `RegisterMachine.Store.IsSound.write`, `RegisterMachine.Store.IsSound.define`,
  `RegisterMachine.Store.IsSound.compare` — writes, definitions of aliases and comparisons keep a
  store sound.
* `RegisterMachine.Store.IsSound.exists_display`, `RegisterMachine.Store.IsSound.exists_dump` — a
  sound store can be shown.
-/

namespace RegisterMachine

/-- The constants of programs are words. -/
lemma Number.hasConstants_isWord : HasConstants IsWord where
  bit := fun b => .int (by cases b <;> decide)
  literal := fun _ _ => Literal.isWord_of_read

/-- The constants of programs are in range. -/
lemma Number.hasConstants_inRange : HasConstants InRange where
  bit := fun b => (hasConstants_isWord.bit b).inRange
  literal := fun text value h => (hasConstants_isWord.literal text value h).inRange

namespace Store

variable {count : Nat} {store after : Store} {operand : Operand} {value : Number} {cause : Cause}

/-- What holds of every store that a program works on, in a machine with so many registers. -/
structure IsSound (count : Nat) (store : Store) : Prop where
  /-- The number of registers has not changed. -/
  size_eq : store.registers.general.size = count
  /-- Names and targets of aliases were read from texts. -/
  aliases : store.aliases.IsReading count
  /-- All numbers are in range. -/
  inRange : ∀ location number, store.content? location = some number → number.InRange

/-! ## Failures are faults -/

/-- An address that denotes no cell is a fault. -/
lemma isFault_of_index {memory : Memory} {address : Address}
    (h : memory.index address = .error cause) : cause.isFault := by
  have hint : ∀ n : Int, memory.indexOfInt n = .error cause → cause.isFault := by
    intro n hn
    unfold Memory.indexOfInt at hn
    split at hn
    · cases hn
    · split at hn <;> cases hn <;> rfl
  unfold Memory.index at h
  split at h
  · cases h
    rfl
  · cases h
    rfl
  · exact hint _ h
  · split at h
    · exact hint _ h
    · cases h
      rfl

/-- A read fails by a fault, if targets of aliases are followed with this result. -/
lemma isFault_of_readVia {follow : Stack → String → Operand → Except Cause Number}
    (hfollow : ∀ name target, follow .unbounded name target = .error cause → cause.isFault)
    (h : store.readVia follow .unbounded operand = .error cause) : cause.isFault := by
  induction operand with
  | indirect text inner ih =>
    unfold readVia at h
    simp only [Stack.enter?, Memory.read, bind_pure_comp, Except.bind_eq_error,
      Except.map_eq_error] at h
    obtain h | ⟨_, -, h⟩ := h
    · exact ih h
    · exact isFault_of_index h
  | register text =>
    unfold readVia Registers.read at h
    simp only [Stack.enter?] at h
    split at h <;> cases h
    rfl
  | literal text value => cases h
  | symbol name =>
    unfold readVia at h
    simp only [Stack.enter?] at h
    split at h
    · exact hfollow _ _ h
    · cases h
      rfl

/-- A read fails by a fault, whatever hops are left. -/
lemma isFault_of_readWithin {hops : Nat} (h : store.readWithin hops operand = .error cause) :
    cause.isFault := by
  induction hops generalizing operand with
  | zero =>
    refine isFault_of_readVia (fun name target hdeep => ?_) h
    cases hdeep
    rfl
  | succ hops ih => exact isFault_of_readVia (fun name target => ih) h

/-- **A read fails by a fault of the program.** -/
lemma isFault_of_read (h : store.read operand = .error cause) : cause.isFault :=
  isFault_of_readWithin h

/-- An operand that denotes no location is a fault. -/
lemma isFault_of_locate (h : store.locate operand = .error cause) : cause.isFault := by
  unfold locate locateLeaf at h
  split at h
  · simp only [bind_pure_comp, Except.bind_eq_error, Except.map_eq_error] at h
    obtain h | ⟨_, -, h⟩ := h
    · exact isFault_of_readWithin h
    · exact isFault_of_index h
  · split at h <;> cases h
    rfl
  · cases h
    rfl
  · split at h <;> cases h <;> rfl

/-- **A write that fails changes nothing, and fails by a fault of the program.** -/
lemma eq_and_isFault_of_write (h : write operand value store = .error cause after) :
    after = store ∧ cause.isFault := by
  rw [write_eq_locate] at h
  cases hlocate : store.locate operand with
  | ok location => simp [hlocate] at h
  | error e =>
    obtain ⟨rfl, rfl⟩ : e = cause ∧ store = after := by simpa [hlocate] using h
    exact ⟨rfl, isFault_of_locate hlocate⟩

/-! ## Sound stores -/

namespace IsSound

/-- A fresh store is sound: all its numbers are zero. -/
lemma fresh (count : Nat) (memorySize aliasLimit : Int) :
    (Store.fresh count memorySize aliasLimit).IsSound count where
  size_eq := Array.size_replicate
  aliases := AliasTable.isReading_empty
  inRange := holds_fresh Number.hasConstants_inRange count memorySize aliasLimit

/-- **What a sound store reads is in range.** -/
lemma inRange_of_read (h : store.IsSound count) (hoperand : operand.IsReading count)
    (hread : store.read operand = .ok value) : value.InRange :=
  Holds.of_readWithin h.inRange Number.hasConstants_inRange h.aliases hoperand hread

/-- **A write keeps a store sound.** -/
lemma write (h : store.IsSound count) (hvalue : value.InRange)
    (hwrite : Store.write operand value store = .ok () after) : after.IsSound count := by
  have hholds : after.Holds Number.InRange :=
    Holds.write h.inRange Number.hasConstants_inRange hvalue hwrite
  obtain ⟨location, old, -, hold, rfl⟩ := exists_location_of_write hwrite
  refine ⟨?_, by simpa using h.aliases, hholds⟩
  cases location with
  | cell index => exact h.size_eq
  | register name =>
    obtain ⟨registers, hset, hsize, -⟩ := Registers.exists_set?_of_get? hold value
    simpa [put, hset, hsize] using h.size_eq

/-- **A definition of an alias keeps a store sound**, if name and target were read from texts. -/
lemma define (h : store.IsSound count) {name : String} {target : Operand}
    (hname : (Operand.symbol name).IsReading count) (htarget : target.IsReading count) :
    { store with aliases := store.aliases.define name target }.IsSound count where
  size_eq := h.size_eq
  aliases := h.aliases.define hname htarget
  inRange := Holds.define h.inRange name target

/-- **A comparison keeps a store sound.** -/
lemma compare (h : store.IsSound count) (a b : Number) :
    { store with registers := store.registers.compare a b }.IsSound count where
  size_eq := h.size_eq
  aliases := h.aliases
  inRange := Holds.compare h.inRange Number.hasConstants_inRange a b

/-! ## A sound store can be shown -/

/-- **The registers of a sound store can be shown.** -/
lemma exists_display (h : store.IsSound count) :
    ∃ shown, store.registers.display = .ok shown := by
  cases hdisplay : store.registers.display with
  | ok shown => exact ⟨shown, rfl⟩
  | error e =>
    simp only [Registers.display, bind_pure_comp, Except.map_eq_error] at hdisplay
    obtain ⟨⟨number, index⟩, hmem, herror⟩ := Except.exists_of_mapM_eq_error hdisplay
    have hget : store.registers.general.toList[index]? = some number :=
      List.mk_mem_zipIdx_iff_getElem?.1 hmem
    have hrange : number.InRange :=
      h.inRange (.register (.general index)) number (by simpa [content?, Registers.get?] using hget)
    obtain ⟨shown, hshown⟩ := hrange.exists_text
    simp [hshown] at herror

/-- The lines of the cells below an address can be shown. -/
lemma exists_linesBelow (h : store.IsSound count) {i : Nat} (hi : i ≤ store.memory.cells.size)
    (lines : List String) : ∃ shown, store.memory.linesBelow i lines = .ok shown := by
  induction i generalizing lines with
  | zero => exact ⟨lines, rfl⟩
  | succ i ih =>
    have hget : store.memory.cells[i]? = some store.memory.cells[i] := by simp
    obtain ⟨shown, hshown⟩ := (h.inRange (.cell i) _ hget).exists_text
    unfold Memory.linesBelow
    dsimp only
    split
    · exact ih (by omega) lines
    · obtain ⟨line, hline⟩ :
          ∃ line, Memory.cellLine i (store.memory.cells[i]?.getD .zero) = .ok line := by
        simp [Memory.cellLine, hget, hshown]
      obtain ⟨shown, hshown⟩ := ih (by omega) (line :: lines)
      exact ⟨shown, by simp [hline, hshown]⟩

/-- **The memory of a sound store can be shown.** -/
lemma exists_dump (h : store.IsSound count) : ∃ shown, store.memory.dump = .ok shown := by
  obtain ⟨lines, hlines⟩ := h.exists_linesBelow (Nat.le_refl _) []
  simp [Memory.dump, hlines]

end IsSound

end Store

end RegisterMachine
