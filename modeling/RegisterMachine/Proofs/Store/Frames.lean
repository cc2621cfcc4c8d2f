import RegisterMachine.Proofs.Operand.Nesting
import RegisterMachine.Store

set_option autoImplicit false
set_option relaxedAutoImplicit false

/-!
# Frames

How many frames of the stack an access takes: one for every operand that it comes to. On a stack
with room for so many frames an access is what it is on a stack that always has room; on a smaller
one it is broken off and has changed nothing.

## Main definitions

* `RegisterMachine.Stack.HasRoom` — a stack has room for so many frames.
* `RegisterMachine.Operand.frames` — the frames that an access to an operand takes.
* `RegisterMachine.Store.Fits` — a stack has room for an access to an operand.

## Main results

* `RegisterMachine.Store.readOn_eq`, `RegisterMachine.Store.writeOn_eq` — accesses on a stack.
* `RegisterMachine.Operand.frames_le` — frames are limited by the hops and the brackets.
-/

namespace RegisterMachine

/-! ## Stacks -/

namespace Stack

/-- The stack has room for so many frames. -/
def HasRoom : Stack → Nat → Prop
  | .unbounded, _ => True
  | .bounded left, frames => frames ≤ left

instance (stack : Stack) (frames : Nat) : Decidable (stack.HasRoom frames) :=
  match stack with
  | .unbounded => inferInstanceAs (Decidable True)
  | .bounded left => inferInstanceAs (Decidable (frames ≤ left))

lemma HasRoom.of_le {stack : Stack} {frames more : Nat} (h : stack.HasRoom more)
    (hle : frames ≤ more) : stack.HasRoom frames := by
  cases stack with
  | unbounded => trivial
  | bounded left => exact hle.trans h

end Stack

/-! ## Frames of accesses -/

namespace Operand

variable (aliases : AliasTable) (hops : Nat) (text name : String)

/-- The frames that an access to an operand takes, where `follow` tells those of the target of a
defined symbol. -/
def framesVia (follow : Operand → Nat) : Operand → Nat
  | .indirect _ inner => framesVia follow inner + 1
  | .register _ | .literal _ _ => 1
  | .symbol name =>
    match aliases.lookup name with
    | some target => follow target + 1
    | none => 1

/-- The frames that an access to an operand takes with so many hops left. -/
def frames : Nat → Operand → Nat
  | 0 => framesVia aliases fun _ => 0
  | hops + 1 => framesVia aliases (frames hops)

@[simp]
lemma frames_indirect (inner : Operand) :
    frames aliases hops (.indirect text inner) = frames aliases hops inner + 1 := by
  cases hops <;> rfl

@[simp]
lemma frames_register : frames aliases hops (.register text) = 1 := by
  cases hops <;> rfl

@[simp]
lemma frames_literal (value : Number) : frames aliases hops (.literal text value) = 1 := by
  cases hops <;> rfl

variable {aliases name}

lemma frames_symbol_of_undefined (h : aliases.lookup name = none) :
    frames aliases hops (.symbol name) = 1 := by
  cases hops <;> simp [frames, framesVia, h]

lemma frames_zero_symbol : frames aliases 0 (.symbol name) = 1 := by
  simp only [frames, framesVia]
  split <;> rfl

lemma frames_succ_symbol {target : Operand} (h : aliases.lookup name = some target) :
    frames aliases (hops + 1) (.symbol name) = frames aliases hops target + 1 := by
  simp [frames, framesVia, h]

variable (aliases) in
/-- Every access takes a frame. -/
lemma frames_pos (operand : Operand) : 0 < frames aliases hops operand := by
  cases operand with
  | indirect text inner => simp
  | register text => simp
  | literal text value => simp
  | symbol name =>
    cases hlookup : aliases.lookup name with
    | none => simp [frames_symbol_of_undefined hops hlookup]
    | some target =>
      cases hops with
      | zero => simp [frames_zero_symbol]
      | succ hops => simp [frames_succ_symbol hops hlookup]

/-- **Frames are limited by the hops and the brackets.** If at most so many brackets stand around an
operand, and around each target of an alias, an access takes at most as many frames and one more for
itself, that many times for itself and for every hop.

**Proof sketch.** By induction on the hops and on the brackets around the operand: before the first
hop the access takes a frame for each of its brackets and one for the name within. -/
theorem frames_le {bound : Nat} {operand : Operand} (hdepth : operand.depth ≤ bound)
    (htargets : ∀ name target, aliases.lookup name = some target → target.depth ≤ bound) :
    frames aliases hops operand ≤ (hops + 1) * (bound + 1) := by
  suffices hown : frames aliases hops operand ≤ hops * (bound + 1) + (operand.depth + 1) by
    rw [Nat.add_mul]
    omega
  clear hdepth
  induction hops generalizing operand with
  | zero =>
    induction operand with
    | indirect text inner ih =>
      rw [frames_indirect, depth]
      omega
    | register text => simp [depth]
    | literal text value => simp [depth]
    | symbol name => simp [frames_zero_symbol]
  | succ hops ih =>
    induction operand with
    | indirect text inner ihinner =>
      rw [frames_indirect, depth]
      omega
    | register text => simp [depth]
    | literal text value => simp [depth]
    | symbol name =>
      cases hlookup : aliases.lookup name with
      | none =>
        rw [frames_symbol_of_undefined (hops + 1) hlookup]
        exact Nat.le_add_left 1 _
      | some target =>
        rw [frames_succ_symbol hops hlookup, Nat.add_mul]
        have htarget : frames aliases hops target ≤ hops * (bound + 1) + (target.depth + 1) := ih
        have hbound := htargets name target hlookup
        omega

end Operand

/-! ## Accesses on a stack -/

namespace Store

variable (store : Store) (stack : Stack) (hops : Nat) (operand : Operand) (value : Number)

/-- A read on a stack with so many frames. -/
lemma readOnWithin_bounded (frames : Nat) :
    store.readOnWithin (.bounded frames) hops operand =
      if operand.frames store.aliases hops ≤ frames then store.readWithin hops operand
      else .error .stackExhausted := by
  induction frames generalizing hops operand with
  | zero =>
    rw [if_neg (Nat.not_le_of_lt (operand.frames_pos store.aliases hops))]
    exact store.readOnWithin_of_enter?_eq_none hops rfl operand
  | succ frames ih =>
    have hframe : (Stack.bounded (frames + 1)).enter? = some (.bounded frames) := rfl
    cases operand with
    | indirect text inner =>
      simp only [readOnWithin_indirect _ _ _ hframe, ih, Operand.frames_indirect,
        Nat.add_le_add_iff_right, readWithin_indirect]
      split <;> rfl
    | register text => simp [readOnWithin_register _ _ _ hframe, readWithin_register]
    | literal text value => simp [readOnWithin_literal _ _ _ hframe, readWithin_literal]
    | symbol name =>
      cases hlookup : store.aliases.lookup name with
      | none =>
        simp [readOnWithin_symbol_of_undefined _ _ _ hframe hlookup,
          Operand.frames_symbol_of_undefined hops hlookup,
          readWithin_symbol_of_undefined _ _ _ hlookup]
      | some target =>
        cases hops with
        | zero =>
          simp [readOnWithin_zero_symbol _ _ hframe hlookup, Operand.frames_zero_symbol,
            readWithin_zero_symbol _ _ hlookup]
        | succ hops =>
          simp [readOnWithin_succ_symbol _ _ _ hframe hlookup,
            Operand.frames_succ_symbol hops hlookup, readWithin_succ_symbol _ _ _ hlookup, ih]

/-- A write on a stack with so many frames. -/
lemma writeOnWithin_bounded (frames : Nat) :
    writeOnWithin value (.bounded frames) hops operand store =
      if operand.frames store.aliases hops ≤ frames then writeWithin value hops operand store
      else .error .stackExhausted store := by
  induction frames generalizing hops operand with
  | zero =>
    rw [if_neg (Nat.not_le_of_lt (operand.frames_pos store.aliases hops))]
    exact congrFun (writeOnWithin_of_enter?_eq_none value hops rfl operand) store
  | succ frames ih =>
    have hframe : (Stack.bounded (frames + 1)).enter? = some (.bounded frames) := rfl
    cases operand with
    | indirect text inner =>
      have haddress := store.readOnWithin_bounded hops inner frames
      simp only [writeOnWithin_indirect _ _ _ hframe, Operand.frames_indirect,
        Nat.add_le_add_iff_right, writeWithin_indirect]
      split at haddress
      · next hroom =>
        rw [if_pos hroom]
        exact Action.query_bind_congr haddress fun _ _ => rfl
      · next hroom =>
        rw [if_neg hroom]
        exact Action.query_bind_of_error haddress
    | register text => simp [writeOnWithin_register _ _ _ hframe, writeWithin_register]
    | literal text number => simp [writeOnWithin_literal _ _ _ hframe, writeWithin_literal]
    | symbol name =>
      cases hlookup : store.aliases.lookup name with
      | none =>
        simp [writeOnWithin_symbol_of_undefined _ _ _ _ hframe hlookup,
          Operand.frames_symbol_of_undefined hops hlookup,
          writeWithin_symbol_of_undefined _ _ _ _ hlookup]
      | some target =>
        cases hops with
        | zero =>
          simp [writeOnWithin_zero_symbol _ _ _ hframe hlookup, Operand.frames_zero_symbol,
            writeWithin_zero_symbol _ _ _ hlookup]
        | succ hops =>
          simp [writeOnWithin_succ_symbol _ _ _ _ hframe hlookup,
            Operand.frames_succ_symbol hops hlookup, writeWithin_succ_symbol _ _ _ _ hlookup, ih]

/-- A read on a stack, with so many hops left. -/
lemma readOnWithin_eq :
    store.readOnWithin stack hops operand =
      if stack.HasRoom (operand.frames store.aliases hops) then store.readWithin hops operand
      else .error .stackExhausted := by
  cases stack with
  | unbounded => exact (if_pos trivial).symm
  | bounded left => exact store.readOnWithin_bounded hops operand left

/-- A write on a stack, with so many hops left. -/
lemma writeOnWithin_eq :
    writeOnWithin value stack hops operand store =
      if stack.HasRoom (operand.frames store.aliases hops) then writeWithin value hops operand store
      else .error .stackExhausted store := by
  cases stack with
  | unbounded => exact (if_pos trivial).symm
  | bounded left => exact store.writeOnWithin_bounded hops operand value left

/-- The stack has room for an access to an operand. -/
def Fits : Prop :=
  stack.HasRoom (operand.frames store.aliases store.hops)

instance : Decidable (store.Fits stack operand) :=
  inferInstanceAs (Decidable (stack.HasRoom _))

/-- **A read that fits on the stack is the read**; any other is broken off. -/
lemma readOn_eq :
    store.readOn stack operand =
      if store.Fits stack operand then store.read operand else .error .stackExhausted :=
  store.readOnWithin_eq stack store.hops operand

/-- **A write that fits on the stack is the write**; any other is broken off and has changed
nothing. -/
lemma writeOn_eq :
    writeOn stack operand value store =
      if store.Fits stack operand then write operand value store
      else .error .stackExhausted store :=
  store.writeOnWithin_eq stack store.hops operand value

end Store

end RegisterMachine
