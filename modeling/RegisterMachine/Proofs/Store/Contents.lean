import RegisterMachine.Proofs.Store.Location
import RegisterMachine.Proofs.Store.TextAccess

set_option autoImplicit false
set_option relaxedAutoImplicit false

/-!
# Contents of stores

A store whose numbers are all in a class, if the class has the constants of programs: what an
operand denotes is then in the class too, and the store stays in the class when a number of the
class is written, when an alias is defined and when numbers are compared.

## Main definitions

* `RegisterMachine.Number.HasConstants` — a class with the constants of programs.
* `RegisterMachine.Store.Holds` — a store whose numbers are all in a class.

## Main results

* `RegisterMachine.Store.Holds.of_readWithin` — what is read is in the class.
* `RegisterMachine.Store.Holds.write` — writing a number of the class keeps a store in the class.
-/

namespace RegisterMachine

/-- A class of numbers with the constants of programs: the two numbers that flags read as, of which
the first is also the content of a fresh store, and the literals. -/
structure Number.HasConstants (P : Number → Prop) : Prop where
  /-- Flags read as zero and one. -/
  bit : ∀ b : Bool, P (.int (if b then 1 else 0))
  /-- Literals are read from texts. -/
  literal : ∀ text value, Literal.read text = .ok (some value) → P value

/-- A class with the constants has zero. -/
lemma Number.HasConstants.zero {P : Number → Prop} (h : HasConstants P) : P .zero :=
  h.bit false

namespace Store

variable {P : Number → Prop} {count : Nat} {store after : Store} {operand : Operand}
  {value : Number}

/-- All numbers of the store are in a class. -/
def Holds (store : Store) (P : Number → Prop) : Prop :=
  ∀ location number, store.content? location = some number → P number

/-- A fresh store has only zeros. -/
lemma holds_fresh (hP : Number.HasConstants P) (count : Nat) (memorySize aliasLimit : Int) :
    (fresh count memorySize aliasLimit).Holds P := by
  intro location number h
  obtain rfl : number = .zero := by
    cases location with
    | register name =>
      cases name with
      | general index =>
        have hcell : (Array.replicate count Number.zero)[index]? = some number := h
        rw [Array.getElem?_replicate] at hcell
        split at hcell <;> simp_all
      | flag flag =>
        cases flag <;> (cases h; rfl)
      | zero =>
        cases h
        rfl
    | cell index =>
      have hcell : (Array.replicate memorySize.toNat Number.zero)[index]? = some number := h
      rw [Array.getElem?_replicate] at hcell
      split at hcell <;> simp_all
  exact hP.zero

/-! ## Reading -/

namespace Holds

/-- What is read is in the class, if it is for targets of aliases. -/
lemma of_readVia (h : store.Holds P) (hP : Number.HasConstants P)
    {follow : Stack → String → Operand → Except Cause Number}
    (hfollow : ∀ name target, store.aliases.lookup name = some target →
      follow .unbounded name target = .ok value → P value)
    (hoperand : operand.IsReading count)
    (hread : store.readVia follow .unbounded operand = .ok value) : P value := by
  cases operand with
  | indirect text inner =>
    unfold readVia at hread
    simp only [Stack.enter?, Memory.read, Except.bind_eq_ok, Except.pure_eq_ok] at hread
    obtain ⟨address, -, i, hindex, rfl⟩ := hread
    have hlt : i < store.memory.cells.size := Memory.lt_size_of_index hindex
    have hcell : store.memory.cells[i]? = some store.memory.cells[i] :=
      Array.getElem?_eq_getElem hlt
    rw [hcell]
    exact h (.cell i) _ hcell
  | register text =>
    unfold readVia Registers.read at hread
    simp only [Stack.enter?] at hread
    split at hread
    · next content hcontent =>
      cases hread
      obtain ⟨name, -, hget⟩ := Option.bind_eq_some_iff.1 hcontent
      exact h (.register name) _ hget
    · cases hread
  | literal text number =>
    cases hread
    exact hP.literal _ _ (Operand.isReading_literal_iff.1 hoperand).2.2
  | symbol name =>
    unfold readVia at hread
    simp only [Stack.enter?] at hread
    split at hread
    · next target hlookup => exact hfollow _ _ hlookup hread
    · cases hread

/-- **What is read is in the class**, whatever hops are left. -/
lemma of_readWithin (h : store.Holds P) (hP : Number.HasConstants P)
    (haliases : store.aliases.IsReading count) {hops : Nat} (hoperand : operand.IsReading count)
    (hread : store.readWithin hops operand = .ok value) : P value := by
  induction hops generalizing operand with
  | zero =>
    refine h.of_readVia hP (fun name target _ hdeep => ?_) hoperand hread
    cases hdeep
  | succ hops ih =>
    refine h.of_readVia hP (fun name target hlookup => ?_) hoperand hread
    exact ih (haliases _ (AliasTable.mem_of_lookup hlookup)).2

end Holds

/-! ## Writing -/

/-- What a location holds after a write is in the class, if the number is. -/
lemma kept_mem (hP : Number.HasConstants P) (hvalue : P value) (location : Location) :
    P (location.kept value) := by
  cases location with
  | cell index => exact hvalue
  | register name =>
    cases name with
    | general index => exact hvalue
    | flag flag =>
      have hbit := hP.bit (!value.isZero)
      cases hzero : value.isZero <;> simpa [Location.kept, RegisterName.kept, hzero] using hbit
    | zero => exact hP.zero

/-- A write that succeeds goes to a location that has a content. -/
lemma exists_location_of_write (h : write operand value store = .ok () after) :
    ∃ location old, store.locate operand = .ok location ∧ store.content? location = some old ∧
      after = store.put value location := by
  rw [write_eq_locate] at h
  cases hlocate : store.locate operand with
  | ok location =>
    obtain ⟨old, hold, -⟩ := read_of_locate hlocate
    exact ⟨location, old, rfl, hold, by simpa [hlocate, eq_comm] using h⟩
  | error e => simp [hlocate] at h

namespace Holds

/-- **Writing a number of the class keeps a store in the class.** -/
lemma write (h : store.Holds P) (hP : Number.HasConstants P) (hvalue : P value)
    (hwrite : Store.write operand value store = .ok () after) : after.Holds P := by
  obtain ⟨location, old, -, hold, rfl⟩ := exists_location_of_write hwrite
  intro other number hother
  -- the location that was written to has the new number, the others have what they had
  rw [content?_put hold] at hother
  split at hother
  · obtain rfl : location.kept value = number := by simpa using hother
    exact kept_mem hP hvalue location
  · exact h _ _ hother

/-- A definition of an alias leaves all numbers as they are. -/
lemma define (h : store.Holds P) (name : String) (target : Operand) :
    { store with aliases := store.aliases.define name target }.Holds P := by
  intro location number hnumber
  refine h location number ?_
  cases location <;> exact hnumber

/-- A comparison changes flags only. -/
lemma compare (h : store.Holds P) (hP : Number.HasConstants P) (a b : Number) :
    { store with registers := store.registers.compare a b }.Holds P := by
  intro location number hnumber
  cases location with
  | cell index => exact h (.cell index) number hnumber
  | register name =>
    cases name with
    | general index => exact h (.register (.general index)) number hnumber
    | flag flag =>
      obtain rfl := Option.some.inj hnumber
      exact hP.bit _
    | zero => exact h (.register .zero) number hnumber

end Holds

end Store

end RegisterMachine
