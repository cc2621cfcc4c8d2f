import RegisterMachine.Store
import Mathlib.Tactic.Common

set_option autoImplicit false
set_option relaxedAutoImplicit false

/-!
# Expansion of aliases

The expansion of an operand has every defined symbol replaced by its target, again and again until
none is left, at the top and inside brackets at any depth. Reading and writing do not tell an
operand from its expansion, as long as there are hops for all the replacements; otherwise there is
no access to the operand.

## Main definitions

* `RegisterMachine.Operand.Expansion` — an operand, its expansion and the number of replacements.
* `RegisterMachine.Store.SameAccess` — operands that reading and writing do not tell apart.
* `RegisterMachine.Store.IsExpandable` — operands with an expansion.

## Main results

* `RegisterMachine.Store.sameAccess_of_expansion` — an operand and its expansion are such operands.
* `RegisterMachine.Store.isExpandableOrTooDeep` — which operands have an expansion.
-/

namespace RegisterMachine

/-- An operand, with so many replacements of symbols by their targets, is the other operand, in
which no symbol is defined. The texts of operands in brackets mean nothing and may differ. -/
inductive Operand.Expansion (aliases : AliasTable) : Nat → Operand → Operand → Prop
  /-- A register stays as it is. -/
  | register (text : String) : Expansion aliases 0 (.register text) (.register text)
  /-- A number stays as it is. -/
  | literal (text : String) (value : Number) :
      Expansion aliases 0 (.literal text value) (.literal text value)
  /-- A symbol that is not defined stays as it is. -/
  | undefined {name : String} (hlookup : aliases.lookup name = none) :
      Expansion aliases 0 (.symbol name) (.symbol name)
  /-- A symbol that is defined is replaced by its target, which is expanded further. -/
  | hop {name : String} {target expanded : Operand} {n : Nat}
      (hlookup : aliases.lookup name = some target)
      (htarget : Expansion aliases n target expanded) :
      Expansion aliases (n + 1) (.symbol name) expanded
  /-- An address is expanded inside its brackets. -/
  | indirect {inner expanded : Operand} {n : Nat} (text text' : String)
      (hinner : Expansion aliases n inner expanded) :
      Expansion aliases n (.indirect text inner) (.indirect text' expanded)

namespace Store

variable {store : Store} {operand expanded : Operand} {value : Number} {n hops : Nat}

/-- A read and a write do the same through both operands. -/
structure SameAccess (store : Store) (operand other : Operand) : Prop where
  /-- A read gives the same number, or fails for the same cause. -/
  read_eq : store.read other = store.read operand
  /-- A write leaves the same store, or fails for the same cause. -/
  write_eq : ∀ value, write other value store = write operand value store

lemma SameAccess.refl (store : Store) (operand : Operand) : store.SameAccess operand operand :=
  ⟨rfl, fun _ => rfl⟩

/-- **A read does not tell an operand from its expansion**, with hops for the replacements. No hops
are needed for the expansion.

**Proof sketch.** Induction on the expansion: a hop uses up one of the hops that are left, and an
address has as many left as the operand in brackets. -/
lemma readWithin_expansion (h : operand.Expansion store.aliases n expanded) (hn : n ≤ hops)
    (left : Nat) : store.readWithin left expanded = store.readWithin hops operand := by
  induction h generalizing hops with
  | register text => rw [readWithin_register, readWithin_register]
  | literal text value => rw [readWithin_literal, readWithin_literal]
  | undefined hlookup =>
    rw [readWithin_symbol_of_undefined _ _ _ hlookup, readWithin_symbol_of_undefined _ _ _ hlookup]
  | hop hlookup htarget ih =>
    obtain ⟨hops, rfl⟩ : ∃ k, hops = k + 1 := ⟨hops - 1, by omega⟩
    rw [readWithin_succ_symbol _ _ _ hlookup]
    exact ih (Nat.le_of_succ_le_succ hn)
  | indirect text text' hinner ih =>
    rw [readWithin_indirect, readWithin_indirect, ih hn]

/-- **A write does not tell an operand from its expansion**, with hops for the replacements.

**Proof sketch.** Induction on the expansion, as for reads (`readWithin_expansion`), which give the
addresses. -/
lemma writeWithin_expansion (h : operand.Expansion store.aliases n expanded) (hn : n ≤ hops)
    (left : Nat) :
    writeWithin value left expanded store = writeWithin value hops operand store := by
  induction h generalizing hops with
  | register text => rw [writeWithin_register, writeWithin_register]
  | literal text number => rw [writeWithin_literal, writeWithin_literal]
  | undefined hlookup =>
    rw [writeWithin_symbol_of_undefined _ _ _ _ hlookup,
      writeWithin_symbol_of_undefined _ _ _ _ hlookup]
  | hop hlookup htarget ih =>
    obtain ⟨hops, rfl⟩ : ∃ k, hops = k + 1 := ⟨hops - 1, by omega⟩
    rw [writeWithin_succ_symbol _ _ _ _ hlookup]
    exact ih (Nat.le_of_succ_le_succ hn)
  | indirect text text' hinner =>
    rw [writeWithin_indirect, writeWithin_indirect]
    exact Action.query_bind_congr (readWithin_expansion hinner hn left) fun _ _ => rfl

/-- **An access does not tell an operand from its expansion**, if the replacements are within the
limit of hops. -/
lemma sameAccess_of_expansion (h : operand.Expansion store.aliases n expanded)
    (hn : n ≤ store.hops) : store.SameAccess operand expanded where
  read_eq := readWithin_expansion h hn store.hops
  write_eq := fun _ => writeWithin_expansion h hn store.hops

/-- An operand has an expansion, with at most so many replacements. -/
def IsExpandable (store : Store) (hops : Nat) (operand : Operand) : Prop :=
  ∃ n ≤ hops, ∃ expanded, operand.Expansion store.aliases n expanded

/-- An operand has an expansion, or a read runs out of hops. -/
def IsExpandableOrTooDeep (store : Store) (hops : Nat) (operand : Operand) : Prop :=
  store.IsExpandable hops operand ∨
    ∃ name, store.readWithin hops operand = .error (.aliasTooDeep name store.aliasLimit)

/-- It is the defined symbols that decide whether operands have an expansion. -/
lemma isExpandableOrTooDeep_of_symbols
    (hsymbol : ∀ name target, store.aliases.lookup name = some target →
      store.IsExpandableOrTooDeep hops (.symbol name)) (operand : Operand) :
    store.IsExpandableOrTooDeep hops operand := by
  induction operand with
  | register text => exact .inl ⟨0, Nat.zero_le _, _, .register text⟩
  | literal text value => exact .inl ⟨0, Nat.zero_le _, _, .literal text value⟩
  | symbol name =>
    cases hlookup : store.aliases.lookup name with
    | none => exact .inl ⟨0, Nat.zero_le _, _, .undefined hlookup⟩
    | some target => exact hsymbol name target hlookup
  | indirect text inner ih =>
    obtain ⟨n, hn, expanded, hinner⟩ | ⟨name, hdeep⟩ := ih
    · exact .inl ⟨n, hn, _, .indirect text text hinner⟩
    · exact .inr ⟨name, by simp [readWithin_indirect, hdeep]⟩

/-- **An operand has an expansion within the hops that are left, or a read runs out of them.** -/
lemma isExpandableOrTooDeep (store : Store) (hops : Nat) (operand : Operand) :
    store.IsExpandableOrTooDeep hops operand := by
  induction hops generalizing operand with
  | zero =>
    exact isExpandableOrTooDeep_of_symbols
      (fun name target hlookup => .inr ⟨name, readWithin_zero_symbol _ _ hlookup⟩) operand
  | succ hops ih =>
    refine isExpandableOrTooDeep_of_symbols (fun name target hlookup => ?_) operand
    obtain ⟨n, hn, expanded, htarget⟩ | ⟨deep, hdeep⟩ := ih target
    · exact .inl ⟨n + 1, Nat.succ_le_succ hn, expanded, .hop hlookup htarget⟩
    · exact .inr ⟨deep, by rw [readWithin_succ_symbol _ _ _ hlookup, hdeep]⟩

end Store

end RegisterMachine
