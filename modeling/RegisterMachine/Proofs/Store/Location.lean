import RegisterMachine.Store
import RegisterMachine.Proofs.Register

set_option autoImplicit false
set_option relaxedAutoImplicit false

/-!
# Locations

What an operand denotes: a register or a cell of memory. Aliases are followed first; the operand
that is left, the *leaf*, either is a place that can be written to or a reason why there is none.
Reading and writing are both stated by it, so that they cannot disagree.

## Main definitions

* `RegisterMachine.Location` — a register or a memory cell.
* `RegisterMachine.Store.follow` — an operand with its aliases followed.
* `RegisterMachine.Store.locate` — the location that an operand denotes, or why there is none.
* `RegisterMachine.Store.content?` — what a location holds.
* `RegisterMachine.Store.put` — a store with another content in one location.

## Main results

* `RegisterMachine.Store.write_eq_locate` — a write goes to the location, or fails for its reason.
* `RegisterMachine.Store.read_of_locate` — a read takes the content of the location.
* `RegisterMachine.Store.read_and_write_name_one_location` — both together.
-/

namespace RegisterMachine

/-- A place that holds a number. -/
inductive Location
  | register (name : RegisterName)
  | cell (index : Nat)
  deriving DecidableEq, Repr

/-- What a location holds after a number is written to it: a cell holds the number. -/
def Location.kept (value : Number) : Location → Number
  | .register name => name.kept value
  | .cell _ => value

namespace Store

/-! ## Locations of operands -/

/-- An operand with its aliases followed, at most so many hops, and the hops that are left. -/
def follow (store : Store) : Nat → Operand → Nat × Operand
  | hops + 1, .symbol name =>
    match store.aliases.lookup name with
    | some target => store.follow hops target
    | none => (hops + 1, .symbol name)
  | hops, operand => (hops, operand)

/-- The location of an operand whose aliases have been followed, with so many hops left. -/
def locateLeaf (store : Store) : Nat × Operand → Except Cause Location
  | (hops, .indirect _ inner) => do
    let address ← store.readWithin hops inner
    return .cell (← store.memory.index (.number address))
  | (_, .register text) =>
    match RegisterName.find? store.registers.general.size (Text.lower text) with
    | some name => .ok (.register name)
    | none => .error (.invalidRegister (Text.lower text))
  | (_, .literal text _) => .error (.invalidTarget text)
  | (_, .symbol name) =>
    match store.aliases.lookup name with
    | some _ => .error (.aliasTooDeep name store.aliasLimit)
    | none => .error (.invalidTarget name)

/-- The location that an operand denotes, or why it denotes none. -/
def locate (store : Store) (operand : Operand) : Except Cause Location :=
  store.locateLeaf (store.follow store.hops operand)

/-- What is left of an operand when its aliases have been followed. -/
def leaf (store : Store) (operand : Operand) : Operand :=
  (store.follow store.hops operand).2

/-- What a location holds, if the store has it. -/
def content? (store : Store) : Location → Option Number
  | .register name => store.registers.get? name
  | .cell index => store.memory.cells[index]?

/-- The store with another content in one location. -/
def put (store : Store) (value : Number) : Location → Store
  | .register name =>
    { store with registers := (store.registers.set? name value).getD store.registers }
  | .cell index => { store with memory := store.memory.set index value }

end Store

/-! ## Memory cells as locations -/

namespace Memory

variable {memory : Memory} {i : Nat}

/-- An address within the memory denotes one of its cells. -/
lemma lt_size_of_index {address : Address} (h : memory.index address = .ok i) :
    i < memory.cells.size := by
  have hint : ∀ n : Int, memory.indexOfInt n = .ok i → i < memory.cells.size := by
    intro n hn
    unfold indexOfInt at hn
    split at hn
    · next hrange =>
      simp only [Bool.and_eq_true, decide_eq_true_eq] at hrange
      obtain rfl : n.toNat = i := by simpa using hn
      rw [memory.size_eq]
      omega
    · split at hn <;> cases hn
  unfold index at h
  split at h
  · cases h
  · cases h
  · exact hint _ h
  · split at h
    · exact hint _ h
    · cases h

/-- A cell that is set changes, the others stay. -/
lemma getElem?_set (hi : i < memory.cells.size) (value : Number) (j : Nat) :
    (memory.set i value).cells[j]? = if j = i then some value else memory.cells[j]? := by
  by_cases hj : j = i
  · subst hj
    simp [set, hi]
  · simp [set, hj, Array.getElem?_setIfInBounds_ne (Ne.symm hj)]

/-- Setting a cell to its content changes nothing. -/
lemma set_of_getElem? {value : Number} (h : memory.cells[i]? = some value) :
    memory.set i value = memory := by
  obtain ⟨hlt, rfl⟩ := Array.getElem?_eq_some_iff.1 h
  simp [set, hlt, Array.setIfInBounds_def]

end Memory

/-! ## Reading and writing at a location -/

namespace Store

variable {store : Store} {location : Location} {cause : Cause}

/-- A location that an operand denotes has a content. -/
lemma exists_content?_of_locateLeaf {followed : Nat × Operand}
    (h : store.locateLeaf followed = .ok location) :
    ∃ content, store.content? location = some content := by
  unfold locateLeaf at h
  split at h
  · simp only [Except.bind_eq_ok, Except.pure_eq_ok] at h
    obtain ⟨address, -, i, hindex, rfl⟩ := h
    exact ⟨_, Array.getElem?_eq_getElem (Memory.lt_size_of_index hindex)⟩
  · split at h
    · next hname =>
      obtain rfl : Location.register _ = location := by simpa using h
      exact Registers.exists_get?_of_find? hname
    · cases h
  · cases h
  · split at h <;> cases h

/-- Writing to a location that has a content changes it and no other. -/
lemma content?_put {old : Number} (h : store.content? location = some old) (value : Number)
    (other : Location) :
    (store.put value location).content? other =
      if other = location then some (location.kept value) else store.content? other := by
  cases location with
  | register name =>
    obtain ⟨after, hset, -, hget⟩ := Registers.exists_set?_of_get? h value
    cases other with
    | register other => simp [put, content?, hset, hget, Location.kept]
    | cell i => simp [put, content?]
  | cell index =>
    have hlt : index < store.memory.cells.size := (Array.getElem?_eq_some_iff.1 h).1
    cases other with
    | register name => simp [put, content?]
    | cell i => simp [put, content?, Memory.getElem?_set hlt, Location.kept]

/-- Writing its own content to a location changes nothing. -/
lemma put_of_content? {value : Number} (h : store.content? location = some value) :
    store.put value location = store := by
  cases location with
  | register name => simp [put, Registers.set?_of_get? h]
  | cell index => simp [put, Memory.set_of_getElem? h]

@[simp]
lemma aliases_put (value : Number) : (store.put value location).aliases = store.aliases := by
  cases location <;> rfl

@[simp]
lemma aliasLimit_put (value : Number) :
    (store.put value location).aliasLimit = store.aliasLimit := by
  cases location <;> rfl

@[simp]
lemma capacity_put (value : Number) :
    (store.put value location).memory.capacity = store.memory.capacity := by
  cases location <;> rfl

/-! ### Writing -/

/-- The last step of a write, to an operand whose aliases have been followed. -/
lemma writeWithin_leaf (value : Number) {followed : Nat × Operand}
    (hleaf : ∀ name, followed.2 = .symbol name →
      store.aliases.lookup name = none ∨ followed.1 = 0) :
    writeWithin value followed.1 followed.2 store =
      match store.locateLeaf followed with
      | .ok location => .ok () (store.put value location)
      | .error cause => .error cause store := by
  obtain ⟨hops, operand⟩ := followed
  cases operand with
  | indirect text inner =>
    rw [writeWithin_indirect]
    cases h : store.locateLeaf (hops, .indirect text inner) with
    | ok location =>
      simp only [locateLeaf, Except.bind_eq_ok, Except.pure_eq_ok] at h
      obtain ⟨address, hread, i, hindex, rfl⟩ := h
      simp [writeCell, hread, Memory.write, hindex, put]
    | error cause =>
      simp only [locateLeaf, bind_pure_comp, Except.bind_eq_error, Except.map_eq_error] at h
      simpa [writeCell, Memory.write] using h
  | register text =>
    rw [writeWithin_register]
    cases hname : RegisterName.find? store.registers.general.size (Text.lower text) with
    | none => simp [locateLeaf, hname, writeRegister, Registers.write]
    | some name =>
      obtain ⟨old, hold⟩ := Registers.exists_get?_of_find? hname
      obtain ⟨after, hset, -⟩ := Registers.exists_set?_of_get? hold value
      simp [locateLeaf, hname, writeRegister, Registers.write, hset, put]
  | literal text number =>
    rw [writeWithin_literal]
    simp [locateLeaf]
  | symbol name =>
    cases hlookup : store.aliases.lookup name with
    | none => simp [locateLeaf, hlookup, writeWithin_symbol_of_undefined]
    | some target =>
      -- a defined symbol is left over only when no hop is
      obtain rfl : hops = 0 := by simpa [hlookup] using hleaf name rfl
      simp [locateLeaf, hlookup, writeWithin_zero_symbol]

/-- Following stops at a symbol only if it is undefined or no hop is left. -/
lemma follow_eq_symbol {hops left : Nat} {operand : Operand} {name : String}
    (h : store.follow hops operand = (left, .symbol name)) :
    store.aliases.lookup name = none ∨ left = 0 := by
  induction hops generalizing operand with
  | zero =>
    cases operand with
    | symbol other =>
      obtain ⟨rfl, -⟩ : 0 = left ∧ other = name := by simpa [follow] using h
      exact .inr rfl
    | indirect | register | literal => simp [follow] at h
  | succ hops ih =>
    cases operand with
    | symbol other =>
      cases hlookup : store.aliases.lookup other with
      | some target => exact ih (by simpa [follow, hlookup] using h)
      | none =>
        obtain ⟨-, rfl⟩ : hops + 1 = left ∧ other = name := by simpa [follow, hlookup] using h
        exact .inl hlookup
    | indirect | register | literal => simp [follow] at h

/-- A write follows the aliases first. -/
lemma writeWithin_follow (value : Number) (hops : Nat) (operand : Operand) :
    writeWithin value hops operand store =
      writeWithin value (store.follow hops operand).1 (store.follow hops operand).2 store := by
  induction hops generalizing operand with
  | zero => cases operand <;> rfl
  | succ hops ih =>
    cases operand with
    | symbol name =>
      cases hlookup : store.aliases.lookup name with
      | some target =>
        rw [writeWithin_succ_symbol _ _ _ _ hlookup, ih]
        simp [follow, hlookup]
      | none => simp [follow, hlookup]
    | indirect | register | literal => rfl

/-- **A write goes to the location that the operand denotes**, or fails for the reason why there is
none and changes nothing. -/
lemma write_eq_locate (operand : Operand) (value : Number) :
    write operand value store =
      match store.locate operand with
      | .ok location => .ok () (store.put value location)
      | .error cause => .error cause store := by
  have hrun : write operand value store = writeWithin value store.hops operand store := rfl
  rw [hrun, writeWithin_follow]
  exact writeWithin_leaf value fun name h => follow_eq_symbol (Prod.ext rfl h)

/-! ### Reading -/

/-- A read follows the aliases first. -/
lemma readWithin_follow (hops : Nat) (operand : Operand) :
    store.readWithin hops operand =
      store.readWithin (store.follow hops operand).1 (store.follow hops operand).2 := by
  induction hops generalizing operand with
  | zero => cases operand <;> rfl
  | succ hops ih =>
    cases operand with
    | symbol name =>
      cases hlookup : store.aliases.lookup name with
      | some target =>
        rw [readWithin_succ_symbol _ _ _ hlookup, ih]
        simp [follow, hlookup]
      | none => simp [follow, hlookup]
    | indirect | register | literal => rfl

/-- **A read takes the content of the location** that the operand denotes. -/
lemma read_of_locate {operand : Operand} (h : store.locate operand = .ok location) :
    ∃ content, store.content? location = some content ∧ store.read operand = .ok content := by
  unfold read
  rw [readWithin_follow]
  unfold locate at h
  generalize store.follow store.hops operand = followed at h
  obtain ⟨content, hcontent⟩ := exists_content?_of_locateLeaf h
  refine ⟨content, hcontent, ?_⟩
  obtain ⟨hops, operand⟩ := followed
  cases operand with
  | indirect text inner =>
    simp only [locateLeaf, Except.bind_eq_ok, Except.pure_eq_ok] at h
    obtain ⟨address, hread, i, hindex, rfl⟩ := h
    have hcell : store.memory.cells[i]? = some content := hcontent
    simp [readWithin_indirect, hread, Memory.read, hindex, hcell]
  | register text =>
    cases hname : RegisterName.find? store.registers.general.size (Text.lower text) with
    | none => simp [locateLeaf, hname] at h
    | some name =>
      obtain rfl : Location.register name = location := by simpa [locateLeaf, hname] using h
      have hget : store.registers.get? name = some content := hcontent
      simp [readWithin_register, Registers.read, hname, hget]
  | literal text number => simp [locateLeaf] at h
  | symbol name => cases hlookup : store.aliases.lookup name <;> simp [locateLeaf, hlookup] at h

/-- **A read fails where a write does, and for the same reason**, but for two kinds of leaves: a
literal can be read, and an undefined symbol is no value rather than no target. -/
lemma read_of_locate_error {operand : Operand} (h : store.locate operand = .error cause) :
    match store.leaf operand with
    | .literal text number => cause = .invalidTarget text ∧ store.read operand = .ok number
    | .symbol name =>
      if store.aliases.lookup name = none then
        cause = .invalidTarget name ∧ store.read operand = .error (.invalidValue name)
      else store.read operand = .error cause
    | _ => store.read operand = .error cause := by
  unfold read leaf
  rw [readWithin_follow]
  unfold locate at h
  have hsymbol : ∀ left name, store.follow store.hops operand = (left, .symbol name) →
      store.aliases.lookup name = none ∨ left = 0 := fun _ _ => follow_eq_symbol
  generalize store.follow store.hops operand = followed at h hsymbol
  obtain ⟨hops, operand⟩ := followed
  cases operand with
  | indirect text inner =>
    simp only [locateLeaf, bind_pure_comp, Except.bind_eq_error, Except.map_eq_error] at h
    simpa [readWithin_indirect, Memory.read] using h
  | register text =>
    cases hname : RegisterName.find? store.registers.general.size (Text.lower text) with
    | none => simpa [locateLeaf, hname, readWithin_register, Registers.read] using h
    | some name => simp [locateLeaf, hname] at h
  | literal text number =>
    obtain rfl : Cause.invalidTarget text = cause := by simpa [locateLeaf] using h
    exact ⟨rfl, readWithin_literal _ _ _ _⟩
  | symbol name =>
    cases hlookup : store.aliases.lookup name with
    | none =>
      obtain rfl : Cause.invalidTarget name = cause := by simpa [locateLeaf, hlookup] using h
      simp [hlookup, readWithin_symbol_of_undefined]
    | some target =>
      obtain rfl : Cause.aliasTooDeep name store.aliasLimit = cause := by
        simpa [locateLeaf, hlookup] using h
      obtain rfl : hops = 0 := by simpa [hlookup] using hsymbol hops name rfl
      simp [hlookup, readWithin_zero_symbol _ _ hlookup]

/-- **Reading and writing name one location.** A write succeeds if and only if the operand denotes
a location. It then changes that location and nothing else, a read takes what the location held,
and writing that back changes nothing. A write that fails changes nothing, and a read fails for
the same reason, except that a literal can be read and that an undefined symbol is then no value
rather than no target.

**Proof sketch.** Writing and reading both follow the aliases first (`writeWithin_follow`,
`readWithin_follow`), with the same hops left, and the leaf decides the rest (`write_eq_locate`,
`read_of_locate`, `read_of_locate_error`). What the write changes is `content?_put`. -/
theorem read_and_write_name_one_location (store : Store) (operand : Operand) (value : Number) :
    ((∃ after, write operand value store = .ok () after) ↔
      ∃ location, store.locate operand = .ok location) ∧
    (∀ location, store.locate operand = .ok location → ∃ after content,
      write operand value store = .ok () after ∧
      (∀ other, after.content? other =
        if other = location then some (location.kept value) else store.content? other) ∧
      after.aliases = store.aliases ∧ after.aliasLimit = store.aliasLimit ∧
      after.memory.capacity = store.memory.capacity ∧
      store.content? location = some content ∧ store.read operand = .ok content ∧
      write operand content store = .ok () store) ∧
    (∀ cause after, write operand value store = .error cause after →
      after = store ∧
      match store.leaf operand with
      | .literal text number => cause = .invalidTarget text ∧ store.read operand = .ok number
      | .symbol name =>
        if store.aliases.lookup name = none then
          cause = .invalidTarget name ∧ store.read operand = .error (.invalidValue name)
        else store.read operand = .error cause
      | _ => store.read operand = .error cause) := by
  refine ⟨?_, fun location h => ?_, fun cause after h => ?_⟩
  · rw [write_eq_locate]
    cases store.locate operand <;> simp
  · obtain ⟨content, hcontent, hread⟩ := read_of_locate h
    have hwrite : ∀ v, write operand v store = .ok () (store.put v location) := by
      intro v
      rw [write_eq_locate, h]
    refine ⟨store.put value location, content, hwrite value, content?_put hcontent value,
      aliases_put value, aliasLimit_put value, capacity_put value, hcontent, hread, ?_⟩
    rw [hwrite, put_of_content? hcontent]
  · rw [write_eq_locate] at h
    cases hlocate : store.locate operand with
    | ok location => simp [hlocate] at h
    | error e =>
      obtain ⟨rfl, rfl⟩ : e = cause ∧ store = after := by simpa [hlocate] using h
      exact ⟨rfl, read_of_locate_error hlocate⟩

end Store

end RegisterMachine
