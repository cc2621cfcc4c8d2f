import RegisterMachine.Proofs.Store.Sound

set_option autoImplicit false
set_option relaxedAutoImplicit false

/-!
# Failures of reads and writes

Why an operand that was read from a text denotes no number, or no location, in a sound store: a
symbol is not defined, a literal cannot be written to, an address is not whole or outside the
memory, or there are too many hops. A register is never missing, because the operand was read for so
many registers; an address is a number, and short enough to be shown, because it is in range.

## Main definitions

* `RegisterMachine.Store.Inaccessible` — the causes.

## Main results

* `RegisterMachine.Store.IsSound.inaccessible_of_read` — why a read fails.
* `RegisterMachine.Store.IsSound.inaccessible_of_write` — why a write fails.
-/

namespace RegisterMachine

/-! ## Integers that doubles equal -/

/-- A double equals no integer above the largest double. -/
lemma Double.natAbs_le_of_toInt? {x : Float} {n : Int} (h : toInt? x = some n) :
    n.natAbs ≤ largest := by
  unfold toInt? at h
  cases hexact : exact x with
  | finite negative units =>
    rw [hexact, Exact.toInt?] at h
    split at h
    · obtain rfl : Exact.signed negative (units / unitsPerOne) = n := by simpa using h
      rw [Exact.natAbs_signed]
      refine Nat.div_le_of_le_mul ?_
      rw [Nat.mul_comm]
      exact units_le hexact
    · cases h
  | infinite negative => simp [hexact, Exact.toInt?] at h
  | nan => simp [hexact, Exact.toInt?] at h

namespace Store

variable {count : Nat} {store after : Store} {operand : Operand} {value : Number} {cause : Cause}

/-- Why an operand denotes no number or no location. -/
inductive Inaccessible : Cause → Prop
  | invalidValue (text : String) : Inaccessible (.invalidValue text)
  | invalidTarget (text : String) : Inaccessible (.invalidTarget text)
  | addressNotWhole (x : Float) : Inaccessible (.addressNotWhole x)
  | addressOutOfRange (address capacity : Int) : Inaccessible (.addressOutOfRange address capacity)
  | aliasTooDeep (name : String) (limit : Int) : Inaccessible (.aliasTooDeep name limit)

/-- An integer that is short enough to be shown is outside the memory if it denotes no cell. -/
lemma inaccessible_of_indexOfInt {memory : Memory} {n : Int} (hn : n.natAbs ≤ Double.largest)
    (h : memory.indexOfInt n = .error cause) : Inaccessible cause := by
  obtain ⟨shown, hshown⟩ := (Number.InRange.int hn).exists_text
  rw [Number.text] at hshown
  unfold Memory.indexOfInt at h
  split at h
  · cases h
  · rw [hshown] at h
    cases h
    exact .addressOutOfRange n memory.capacity

/-- A number in range that denotes no cell is not whole or outside the memory. -/
lemma inaccessible_of_index {memory : Memory} {address : Number} (haddress : address.InRange)
    (h : memory.index (.number address) = .error cause) : Inaccessible cause := by
  cases haddress with
  | @int n hn =>
    have hindex : memory.indexOfInt n = .error cause := h
    exact inaccessible_of_indexOfInt hn hindex
  | double x =>
    unfold Memory.index at h
    dsimp only at h
    split at h
    · next n hn => exact inaccessible_of_indexOfInt (Double.natAbs_le_of_toInt? hn) h
    · cases h
      exact .addressNotWhole x

namespace IsSound

/-- A register that an operand was read as is there, in any spelling. -/
lemma exists_find?_lower (h : store.IsSound count) {text : String}
    (hoperand : (Operand.register text).IsReading count) :
    ∃ name, RegisterName.find? store.registers.general.size (Text.lower text) = some name := by
  obtain ⟨-, hsome⟩ := Operand.isReading_register_iff.1 hoperand
  obtain ⟨name, hname⟩ := Option.isSome_iff_exists.1 hsome
  exact ⟨name, by rw [h.size_eq, RegisterName.find?_lower hname]⟩

/-- A read fails because the operand is inaccessible, if reading targets of aliases does.

**Proof sketch.** Induction on the operand. An address that could be read is in range, so that it is
a number and can be shown. -/
lemma inaccessible_of_readVia (h : store.IsSound count)
    {follow : Stack → String → Operand → Except Cause Number}
    (hvalue : ∀ inner address, Operand.IsReading count inner →
      store.readVia follow .unbounded inner = .ok address → address.InRange)
    (hfollow : ∀ name target, store.aliases.lookup name = some target →
      follow .unbounded name target = .error cause → Inaccessible cause)
    (hoperand : operand.IsReading count)
    (hread : store.readVia follow .unbounded operand = .error cause) : Inaccessible cause := by
  induction operand with
  | indirect text inner ih =>
    have hinner := (Operand.isReading_indirect_iff.1 hoperand).2
    unfold readVia at hread
    simp only [Stack.enter?, Memory.read, bind_pure_comp, Except.bind_eq_error,
      Except.map_eq_error] at hread
    obtain hread | ⟨address, hread, hindex⟩ := hread
    · exact ih hinner hread
    · exact inaccessible_of_index (hvalue inner address hinner hread) hindex
  | register text =>
    obtain ⟨name, hname⟩ := h.exists_find?_lower hoperand
    obtain ⟨content, hcontent⟩ := Registers.exists_get?_of_find? hname
    unfold readVia at hread
    simp [Stack.enter?, Registers.read, hname, hcontent] at hread
  | literal text number => cases hread
  | symbol name =>
    unfold readVia at hread
    simp only [Stack.enter?] at hread
    split at hread
    · next target hlookup => exact hfollow name target hlookup hread
    · cases hread
      exact .invalidValue name

/-- A read fails because the operand is inaccessible, whatever hops are left. -/
lemma inaccessible_of_readWithin (h : store.IsSound count) {hops : Nat}
    (hoperand : operand.IsReading count)
    (hread : store.readWithin hops operand = .error cause) : Inaccessible cause := by
  have hvalue : ∀ hops inner address, Operand.IsReading count inner →
      store.readWithin hops inner = .ok address → address.InRange := fun hops inner address =>
    Holds.of_readWithin h.inRange Number.hasConstants_inRange h.aliases
  induction hops generalizing operand with
  | zero =>
    refine h.inaccessible_of_readVia (hvalue 0) (fun name target _ hdeep => ?_) hoperand hread
    cases hdeep
    exact .aliasTooDeep name store.aliasLimit
  | succ hops ih =>
    refine h.inaccessible_of_readVia (hvalue (hops + 1)) (fun name target hlookup => ?_)
      hoperand hread
    exact ih (h.aliases _ (AliasTable.mem_of_lookup hlookup)).2

/-- **A read fails because the operand is inaccessible.** -/
lemma inaccessible_of_read (h : store.IsSound count) (hoperand : operand.IsReading count)
    (hread : store.read operand = .error cause) : Inaccessible cause :=
  h.inaccessible_of_readWithin hoperand hread

/-- What is left of an operand when its aliases have been followed was read from a text. -/
lemma isReading_follow (h : store.IsSound count) (hoperand : operand.IsReading count) (hops : Nat) :
    (store.follow hops operand).2.IsReading count := by
  induction hops generalizing operand with
  | zero => cases operand <;> exact hoperand
  | succ hops ih =>
    cases operand with
    | symbol name =>
      cases hlookup : store.aliases.lookup name with
      | some target =>
        have htarget := (h.aliases _ (AliasTable.mem_of_lookup hlookup)).2
        simpa [follow, hlookup] using ih htarget
      | none => simpa [follow, hlookup] using hoperand
    | indirect | register | literal => exact hoperand

/-- **A write fails because the operand is inaccessible.** -/
lemma inaccessible_of_write (h : store.IsSound count) (hoperand : operand.IsReading count)
    (hwrite : Store.write operand value store = .error cause after) : Inaccessible cause := by
  rw [write_eq_locate] at hwrite
  have hleaf := h.isReading_follow hoperand store.hops
  unfold locate at hwrite
  generalize store.follow store.hops operand = followed at hwrite hleaf
  obtain ⟨hops, leaf⟩ := followed
  cases hlocate : store.locateLeaf (hops, leaf) with
  | ok location => simp [hlocate] at hwrite
  | error e =>
    obtain ⟨rfl, -⟩ : e = cause ∧ store = after := by simpa [hlocate] using hwrite
    cases leaf with
    | indirect text inner =>
      have hinner := (Operand.isReading_indirect_iff.1 hleaf).2
      simp only [locateLeaf, bind_pure_comp, Except.bind_eq_error, Except.map_eq_error] at hlocate
      obtain hread | ⟨address, hread, hindex⟩ := hlocate
      · exact h.inaccessible_of_readWithin hinner hread
      · have haddress : address.InRange :=
          Holds.of_readWithin h.inRange Number.hasConstants_inRange h.aliases hinner hread
        exact inaccessible_of_index haddress hindex
    | register text =>
      obtain ⟨name, hname⟩ := h.exists_find?_lower hleaf
      simp [locateLeaf, hname] at hlocate
    | literal text number =>
      cases hlocate
      exact .invalidTarget text
    | symbol name =>
      unfold locateLeaf at hlocate
      dsimp only at hlocate
      split at hlocate
      · cases hlocate
        exact .aliasTooDeep name store.aliasLimit
      · cases hlocate
        exact .invalidTarget name

end IsSound

end Store

end RegisterMachine
