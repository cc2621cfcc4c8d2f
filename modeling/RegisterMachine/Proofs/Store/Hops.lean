import RegisterMachine.Proofs.Store.Frames
import RegisterMachine.Proofs.Store.Sound
import RegisterMachine.Proofs.Store.Trail

set_option autoImplicit false
set_option relaxedAutoImplicit false

/-!
# The limit of hops

An access follows the trail of the operand and is refused if there are more hops than the limit,
whatever the registers and the memory hold. With no more names than hops this happens to the trails
that come back to a name, and to no others. All that takes a stack with room for the access:
brackets on a trail take frames as well as hops do, so that the stack may be exhausted before the
hops are.

## Main definitions

* `RegisterMachine.Store.Reads`, `RegisterMachine.Store.Writes` — accesses as they are made, hop by
  hop, with the names that they find defined.
* `RegisterMachine.Store.ReadIsTooDeep`, `RegisterMachine.Store.WriteIsTooDeep` — accesses that are
  refused for too many hops.
* `RegisterMachine.Operand.ExceedsHops` — operands with a trail of more hops than a limit.

## Main results

* `RegisterMachine.Store.accesses_take_limited_hops` — which accesses are refused, and which are
  broken off.
* `RegisterMachine.Store.cycles_are_refused_and_nothing_else` — the same by the names visited.
-/

namespace RegisterMachine

/-- A trail from the operand takes more hops than the limit. -/
def Operand.ExceedsHops (aliases : AliasTable) (limit : Nat) (operand : Operand) : Prop :=
  ∃ names other, Trail aliases names operand other ∧ limit < names.length

/-! ## Failures of registers and cells -/

/-- An address is refused for what it is, never for hops. -/
lemma Memory.kind_ne_aliasCycle {memory : Memory} {address : Address} {cause : Cause}
    (h : memory.read address = .error cause) : cause.kind ≠ .aliasCycle := by
  have hint : ∀ n : Int, memory.indexOfInt n = .error cause → cause.kind ≠ .aliasCycle := by
    intro n hn
    unfold indexOfInt at hn
    split at hn
    · cases hn
    · split at hn <;> cases hn <;> nofun
  simp only [read, bind_pure_comp, Except.map_eq_error] at h
  unfold index at h
  split at h
  · cases h
    nofun
  · cases h
    nofun
  · exact hint _ h
  · split at h
    · exact hint _ h
    · cases h
      nofun

/-- A register is refused for its name, never for hops. -/
lemma Registers.kind_ne_aliasCycle {registers : Registers} {name : String} {cause : Cause}
    (h : registers.read name = .error cause) : cause.kind ≠ .aliasCycle := by
  unfold read at h
  split at h
  · cases h
  · cases h
    nofun

namespace Store

variable {store : Store} {stack : Stack} {depth hops : Nat} {operand other : Operand}
  {value : Number} {names : List String} {name : String} {cause : Cause}

/-! ## Accesses as they are made -/

/-- A read of an operand on a stack and at the given depth, which is the number of hops made before
it, with the names that it finds defined, in their order, and its outcome. -/
inductive Reads (store : Store) :
    Stack → Nat → Operand → List String → Except Cause Number → Prop
  /-- Without a frame the read is broken off. -/
  | exhausted {stack : Stack} (depth : Nat) (operand : Operand) (hframe : stack.enter? = none) :
      Reads store stack depth operand [] (.error .stackExhausted)
  /-- The address is read at the same depth, and then the cell. -/
  | indirect {stack rest : Stack} {depth : Nat} {text : String} {inner : Operand}
      {names : List String} {address : Except Cause Number} (hframe : stack.enter? = some rest)
      (hinner : Reads store rest depth inner names address) :
      Reads store stack depth (.indirect text inner) names
        (do store.memory.read (.number (← address)))
  /-- A register is read under its lower-case name. -/
  | register {stack rest : Stack} (depth : Nat) (text : String)
      (hframe : stack.enter? = some rest) :
      Reads store stack depth (.register text) [] (store.registers.read (Text.lower text))
  /-- A literal has its value. -/
  | literal {stack rest : Stack} (depth : Nat) (text : String) (value : Number)
      (hframe : stack.enter? = some rest) :
      Reads store stack depth (.literal text value) [] (.ok value)
  /-- A name that is not defined is refused. -/
  | undefined {stack rest : Stack} (depth : Nat) {name : String} (hframe : stack.enter? = some rest)
      (hlookup : store.aliases.lookup name = none) :
      Reads store stack depth (.symbol name) [] (.error (.invalidValue name))
  /-- A name that is defined is refused at the limit. -/
  | tooDeep {stack rest : Stack} {depth : Nat} {name : String} {target : Operand}
      (hframe : stack.enter? = some rest) (hlookup : store.aliases.lookup name = some target)
      (hdepth : store.aliasLimit ≤ depth) :
      Reads store stack depth (.symbol name) [name] (.error (.aliasTooDeep name store.aliasLimit))
  /-- Below the limit its target is read, one hop deeper. -/
  | hop {stack rest : Stack} {depth : Nat} {name : String} {target : Operand} {names : List String}
      {outcome : Except Cause Number} (hframe : stack.enter? = some rest)
      (hlookup : store.aliases.lookup name = some target) (hdepth : depth < store.aliasLimit)
      (htarget : Reads store rest (depth + 1) target names outcome) :
      Reads store stack depth (.symbol name) (name :: names) outcome

/-- A write to an operand on a stack and at the given depth, with the names that it finds defined
and its outcome. -/
inductive Writes (store : Store) (value : Number) :
    Stack → Nat → Operand → List String → EStateM.Result Cause Store Unit → Prop
  /-- Without a frame the write is broken off. -/
  | exhausted {stack : Stack} (depth : Nat) (operand : Operand) (hframe : stack.enter? = none) :
      Writes store value stack depth operand [] (.error .stackExhausted store)
  /-- The address is read at the same depth, and then the cell is written. -/
  | indirect {stack rest : Stack} {depth : Nat} {text : String} {inner : Operand}
      {names : List String} {address : Except Cause Number} (hframe : stack.enter? = some rest)
      (hinner : Reads store rest depth inner names address) :
      Writes store value stack depth (.indirect text inner) names
        ((do writeCell (← Action.query fun _ => address) value : Action Store Unit) store)
  /-- A register is written under its lower-case name. -/
  | register {stack rest : Stack} (depth : Nat) (text : String)
      (hframe : stack.enter? = some rest) :
      Writes store value stack depth (.register text) []
        (writeRegister (Text.lower text) value store)
  /-- A literal is refused. -/
  | literal {stack rest : Stack} (depth : Nat) (text : String) (number : Number)
      (hframe : stack.enter? = some rest) :
      Writes store value stack depth (.literal text number) [] (.error (.invalidTarget text) store)
  /-- A name that is not defined is refused. -/
  | undefined {stack rest : Stack} (depth : Nat) {name : String} (hframe : stack.enter? = some rest)
      (hlookup : store.aliases.lookup name = none) :
      Writes store value stack depth (.symbol name) [] (.error (.invalidTarget name) store)
  /-- A name that is defined is refused at the limit. -/
  | tooDeep {stack rest : Stack} {depth : Nat} {name : String} {target : Operand}
      (hframe : stack.enter? = some rest) (hlookup : store.aliases.lookup name = some target)
      (hdepth : store.aliasLimit ≤ depth) :
      Writes store value stack depth (.symbol name) [name]
        (.error (.aliasTooDeep name store.aliasLimit) store)
  /-- Below the limit its target is written to, one hop deeper. -/
  | hop {stack rest : Stack} {depth : Nat} {name : String} {target : Operand} {names : List String}
      {outcome : EStateM.Result Cause Store Unit} (hframe : stack.enter? = some rest)
      (hlookup : store.aliases.lookup name = some target) (hdepth : depth < store.aliasLimit)
      (htarget : Writes store value rest (depth + 1) target names outcome) :
      Writes store value stack depth (.symbol name) (name :: names) outcome

/-- The hops that are left at a depth. -/
def hopsLeft (store : Store) (depth : Nat) : Nat :=
  (store.aliasLimit - depth).toNat

lemma hopsLeft_zero (store : Store) : store.hopsLeft 0 = store.hops := by
  simp [hopsLeft, hops]

lemma hopsLeft_of_le (h : store.aliasLimit ≤ depth) : store.hopsLeft depth = 0 := by
  unfold hopsLeft
  omega

lemma hopsLeft_of_lt (h : depth < store.aliasLimit) :
    store.hopsLeft depth = store.hopsLeft (depth + 1) + 1 := by
  unfold hopsLeft
  omega

lemma hopsLeft_succ_lt (h : depth < store.aliasLimit) :
    store.hopsLeft (depth + 1) < store.hopsLeft depth := by
  rw [hopsLeft_of_lt h]
  exact Nat.lt_succ_self _

namespace Reads

variable {outcome : Except Cause Number}

/-- **A read as it is made is the read with the hops that are left**, and it finds at most one name
more defined than there are hops left. -/
lemma eq_readOnWithin (h : store.Reads stack depth operand names outcome) :
    outcome = store.readOnWithin stack (store.hopsLeft depth) operand ∧
      names.length ≤ store.hopsLeft depth + 1 := by
  induction h with
  | exhausted depth operand hframe =>
    exact ⟨(readOnWithin_of_enter?_eq_none _ _ hframe operand).symm, Nat.zero_le _⟩
  | indirect hframe hinner ih =>
    obtain ⟨rfl, hlength⟩ := ih
    exact ⟨(readOnWithin_indirect _ _ _ hframe _).symm, hlength⟩
  | register depth text hframe =>
    exact ⟨(readOnWithin_register _ _ _ hframe).symm, Nat.zero_le _⟩
  | literal depth text value hframe =>
    exact ⟨(readOnWithin_literal _ _ _ hframe value).symm, Nat.zero_le _⟩
  | undefined depth hframe hlookup =>
    exact ⟨(readOnWithin_symbol_of_undefined _ _ _ hframe hlookup).symm, Nat.zero_le _⟩
  | tooDeep hframe hlookup hdepth =>
    rw [hopsLeft_of_le hdepth, readOnWithin_zero_symbol _ _ hframe hlookup]
    exact ⟨rfl, le_rfl⟩
  | hop hframe hlookup hdepth htarget ih =>
    obtain ⟨houtcome, hlength⟩ := ih
    rw [hopsLeft_of_lt hdepth, readOnWithin_succ_symbol _ _ _ hframe hlookup]
    exact ⟨houtcome, Nat.succ_le_succ hlength⟩

/-- A read that has made no hop yet is the read. -/
lemma eq_readOn (h : store.Reads stack 0 operand names outcome) :
    outcome = store.readOn stack operand ∧ names.length ≤ store.hops + 1 := by
  have hwithin := h.eq_readOnWithin
  rwa [hopsLeft_zero] at hwithin

/-- A read that is refused for too many hops has found a trail of more hops than are left. -/
lemma exists_trail_of_aliasCycle (h : store.Reads stack depth operand names (.error cause))
    (hkind : cause.kind = .aliasCycle) :
    ∃ other, operand.Trail store.aliases names other ∧ store.hopsLeft depth < names.length := by
  generalize houtcome : (Except.error cause : Except Cause Number) = outcome at h
  induction h with
  | exhausted depth operand hframe =>
    obtain rfl := Except.error.inj houtcome
    cases hkind
  | indirect hframe hinner ih =>
    -- the cell itself is refused for its address
    obtain haddress | ⟨address, -, hcell⟩ := Except.bind_eq_error.1 houtcome.symm
    · obtain ⟨other, htrail, hlength⟩ := ih haddress.symm
      exact ⟨other, .inner htrail, hlength⟩
    · exact absurd hkind (Memory.kind_ne_aliasCycle hcell)
  | register depth text hframe =>
    exact absurd hkind (Registers.kind_ne_aliasCycle houtcome.symm)
  | literal depth text value hframe => cases houtcome
  | undefined depth hframe hlookup =>
    obtain rfl := Except.error.inj houtcome
    cases hkind
  | tooDeep hframe hlookup hdepth =>
    rw [hopsLeft_of_le hdepth]
    exact ⟨_, .hop hlookup (.refl _), Nat.one_pos⟩
  | hop hframe hlookup hdepth htarget ih =>
    obtain ⟨other, htrail, hlength⟩ := ih houtcome
    rw [hopsLeft_of_lt hdepth]
    exact ⟨other, .hop hlookup htrail, Nat.succ_lt_succ hlength⟩

end Reads

/-- Without a frame there is a read that is broken off. -/
lemma exists_reads_of_enter? (h : ∀ rest, stack.enter? = some rest →
    ∃ names outcome, store.Reads stack depth operand names outcome) :
    ∃ names outcome, store.Reads stack depth operand names outcome := by
  cases hframe : stack.enter? with
  | none => exact ⟨[], _, .exhausted depth operand hframe⟩
  | some rest => exact h rest hframe

/-- **Every read comes to an end**: a hop leaves fewer hops, and brackets are opened only as deep as
they are nested. -/
lemma exists_reads (store : Store) (stack : Stack) (depth : Nat) (operand : Operand) :
    ∃ names outcome, store.Reads stack depth operand names outcome := by
  induction hleft : store.hopsLeft depth using Nat.strong_induction_on
    generalizing stack depth operand with
  | _ left ih =>
    induction operand generalizing stack with
    | indirect text inner ihinner =>
      refine exists_reads_of_enter? fun rest hframe => ?_
      obtain ⟨names, address, hinner⟩ := ihinner rest
      exact ⟨names, _, .indirect hframe hinner⟩
    | register text =>
      exact exists_reads_of_enter? fun rest hframe => ⟨[], _, .register depth text hframe⟩
    | literal text value =>
      exact exists_reads_of_enter? fun rest hframe => ⟨[], _, .literal depth text value hframe⟩
    | symbol name =>
      refine exists_reads_of_enter? fun rest hframe => ?_
      cases hlookup : store.aliases.lookup name with
      | none => exact ⟨[], _, .undefined depth hframe hlookup⟩
      | some target =>
        by_cases hdepth : depth < store.aliasLimit
        · obtain ⟨names, outcome, htarget⟩ :=
            ih _ (hleft ▸ hopsLeft_succ_lt hdepth) rest (depth + 1) target rfl
          exact ⟨name :: names, outcome, .hop hframe hlookup hdepth htarget⟩
        · exact ⟨[name], _, .tooDeep hframe hlookup (by omega)⟩

/-- **A write as it is made is the write with the hops that are left**, and it finds at most one
name more defined than there are hops left. -/
lemma Writes.eq_writeOnWithin {outcome : EStateM.Result Cause Store Unit}
    (h : store.Writes value stack depth operand names outcome) :
    outcome = writeOnWithin value stack (store.hopsLeft depth) operand store ∧
      names.length ≤ store.hopsLeft depth + 1 := by
  induction h with
  | exhausted depth operand hframe =>
    rw [writeOnWithin_of_enter?_eq_none _ _ hframe]
    exact ⟨rfl, Nat.zero_le _⟩
  | indirect hframe hinner =>
    obtain ⟨rfl, hlength⟩ := hinner.eq_readOnWithin
    rw [writeOnWithin_indirect _ _ _ hframe]
    exact ⟨rfl, hlength⟩
  | register depth text hframe =>
    rw [writeOnWithin_register _ _ _ hframe]
    exact ⟨rfl, Nat.zero_le _⟩
  | literal depth text number hframe =>
    rw [writeOnWithin_literal _ _ _ hframe]
    exact ⟨rfl, Nat.zero_le _⟩
  | undefined depth hframe hlookup =>
    exact ⟨(writeOnWithin_symbol_of_undefined _ _ _ _ hframe hlookup).symm, Nat.zero_le _⟩
  | tooDeep hframe hlookup hdepth =>
    rw [hopsLeft_of_le hdepth, writeOnWithin_zero_symbol _ _ _ hframe hlookup]
    exact ⟨rfl, le_rfl⟩
  | hop hframe hlookup hdepth htarget ih =>
    obtain ⟨houtcome, hlength⟩ := ih
    rw [hopsLeft_of_lt hdepth, writeOnWithin_succ_symbol _ _ _ _ hframe hlookup]
    exact ⟨houtcome, Nat.succ_le_succ hlength⟩

/-- A write that has made no hop yet is the write. -/
lemma Writes.eq_writeOn {outcome : EStateM.Result Cause Store Unit}
    (h : store.Writes value stack 0 operand names outcome) :
    outcome = writeOn stack operand value store ∧ names.length ≤ store.hops + 1 := by
  have hwithin := h.eq_writeOnWithin
  rwa [hopsLeft_zero] at hwithin

/-- **Every write comes to an end.** -/
lemma exists_writes (store : Store) (value : Number) (stack : Stack) (depth : Nat)
    (operand : Operand) :
    ∃ names outcome, store.Writes value stack depth operand names outcome := by
  induction hleft : store.hopsLeft depth using Nat.strong_induction_on
    generalizing stack depth operand with
  | _ left ih =>
    cases hframe : stack.enter? with
    | none => exact ⟨[], _, .exhausted depth _ hframe⟩
    | some rest =>
      cases operand with
      | indirect text inner =>
        obtain ⟨names, address, hinner⟩ := store.exists_reads rest depth inner
        exact ⟨names, _, .indirect hframe hinner⟩
      | register text => exact ⟨[], _, .register depth text hframe⟩
      | literal text number => exact ⟨[], _, .literal depth text number hframe⟩
      | symbol name =>
        cases hlookup : store.aliases.lookup name with
        | none => exact ⟨[], _, .undefined depth hframe hlookup⟩
        | some target =>
          by_cases hdepth : depth < store.aliasLimit
          · obtain ⟨names, outcome, htarget⟩ :=
              ih _ (hleft ▸ hopsLeft_succ_lt hdepth) rest (depth + 1) target rfl
            exact ⟨name :: names, outcome, .hop hframe hlookup hdepth htarget⟩
          · exact ⟨[name], _, .tooDeep hframe hlookup (by omega)⟩

/-! ## Accesses by trails -/

/-- What fails at the end of a trail fails at its start. -/
lemma readWithin_of_trail (h : operand.Trail store.aliases names other)
    (herror : store.readWithin hops other = .error cause) :
    store.readWithin (hops + names.length) operand = .error cause := by
  induction h with
  | refl => exact herror
  | inner _ ih =>
    rw [readWithin_indirect, ih herror]
    rfl
  | hop hlookup _ ih =>
    rw [List.length_cons, ← Nat.add_assoc, readWithin_succ_symbol _ _ _ hlookup]
    exact ih herror

/-- A read that is refused for too many hops. -/
def ReadIsTooDeep (store : Store) (stack : Stack) (operand : Operand) : Prop :=
  ∃ cause, store.readOn stack operand = .error cause ∧ cause.kind = .aliasCycle

/-- A write that is refused for too many hops. -/
def WriteIsTooDeep (store : Store) (stack : Stack) (operand : Operand) (value : Number) : Prop :=
  ∃ cause after, writeOn stack operand value store = .error cause after ∧ cause.kind = .aliasCycle

/-- **With room for it, a read is too deep if and only if a trail from the operand has more hops
than the limit.**

**Proof sketch.** The read as it is made has found such a trail
(`Reads.exists_trail_of_aliasCycle`). Of such a trail, the hops that are allowed lead to a defined
name, where no hop is left (`readWithin_of_trail`). -/
lemma readIsTooDeep_unbounded_iff :
    store.ReadIsTooDeep .unbounded operand ↔ operand.ExceedsHops store.aliases store.hops := by
  constructor
  · rintro ⟨cause, hread, hkind⟩
    obtain ⟨names, outcome, hreads⟩ := store.exists_reads .unbounded 0 operand
    obtain rfl : outcome = .error cause := hreads.eq_readOn.1.trans hread
    obtain ⟨other, htrail, hlength⟩ := hreads.exists_trail_of_aliasCycle hkind
    rw [hopsLeft_zero] at hlength
    exact ⟨names, other, htrail, hlength⟩
  · rintro ⟨names, other, htrail, hlong⟩
    obtain ⟨name, target, hlookup, hfirst⟩ := htrail.exists_take hlong
    have hread := readWithin_of_trail hfirst (store.readWithin_zero_symbol name hlookup)
    rw [List.length_take_of_le hlong.le, Nat.zero_add] at hread
    exact ⟨_, hread, rfl⟩

/-- A read that is broken off is not refused for its hops. -/
lemma readIsTooDeep_iff : store.ReadIsTooDeep stack operand ↔
    operand.ExceedsHops store.aliases store.hops ∧ store.Fits stack operand := by
  rw [← readIsTooDeep_unbounded_iff]
  unfold ReadIsTooDeep
  rw [readOn_eq]
  by_cases hfits : store.Fits stack operand
  · simp [hfits]
  · simp [hfits, Cause.kind]

/-- With room for both, a write is too deep if and only if a read is. -/
lemma writeIsTooDeep_unbounded_iff :
    store.WriteIsTooDeep .unbounded operand value ↔ store.ReadIsTooDeep .unbounded operand := by
  unfold WriteIsTooDeep ReadIsTooDeep
  rw [writeOn_unbounded, readOn_unbounded, write_eq_locate]
  cases hlocate : store.locate operand with
  | ok location =>
    obtain ⟨content, -, hread⟩ := read_of_locate hlocate
    simp [hread]
  | error cause =>
    have hread := read_of_locate_error hlocate
    split at hread
    · obtain ⟨rfl, hread⟩ := hread
      simp [hread, Cause.kind]
    · split at hread
      · obtain ⟨rfl, hread⟩ := hread
        simp [hread, Cause.kind]
      · simp [hread]
    · simp [hread]

/-- **A write is too deep if and only if a read is.** -/
lemma writeIsTooDeep_iff :
    store.WriteIsTooDeep stack operand value ↔ store.ReadIsTooDeep stack operand := by
  have hunbounded : store.WriteIsTooDeep .unbounded operand value ↔
      store.ReadIsTooDeep .unbounded operand := writeIsTooDeep_unbounded_iff
  rw [readIsTooDeep_iff, ← readIsTooDeep_unbounded_iff, ← hunbounded]
  unfold WriteIsTooDeep
  rw [writeOn_eq]
  by_cases hfits : store.Fits stack operand
  · simp [hfits]
  · simp [hfits, Cause.kind]

/-- What is refused for too many hops on a stack that always has room exceeds the limit. -/
lemma exceedsHops_of_read {limit : Int}
    (h : store.read operand = .error (.aliasTooDeep name limit)) :
    operand.ExceedsHops store.aliases store.hops :=
  readIsTooDeep_unbounded_iff.1 ⟨.aliasTooDeep name limit, by rwa [readOn_unbounded], rfl⟩

/-- An access that does not fit on the stack is not refused for too many hops. -/
lemma not_isTooDeep_of_not_fits (hfits : ¬ store.Fits stack operand) :
    ¬ store.ReadIsTooDeep stack operand ∧ ¬ store.WriteIsTooDeep stack operand value := by
  rw [writeIsTooDeep_iff, and_self, readIsTooDeep_iff]
  exact fun h => hfits h.2

/-- An access is broken off if and only if it does not fit on the stack. -/
lemma readOn_eq_stackExhausted_iff :
    store.readOn stack operand = .error .stackExhausted ↔ ¬ store.Fits stack operand := by
  rw [readOn_eq]
  split
  · next hfits =>
    -- reads of their own fail by faults of the program
    refine iff_of_false (fun hread => ?_) (not_not.2 hfits)
    cases isFault_of_read hread
  · next hfits => exact iff_of_true rfl hfits

lemma writeOn_eq_stackExhausted_iff :
    writeOn stack operand value store = .error .stackExhausted store ↔
      ¬ store.Fits stack operand := by
  rw [writeOn_eq]
  split
  · next hfits =>
    refine iff_of_false (fun hwrite => ?_) (not_not.2 hfits)
    cases (eq_and_isFault_of_write hwrite).2
  · next hfits => exact iff_of_true rfl hfits

/-- A trail to a name that is not defined, within the limit, leads a read to no value. -/
lemma read_of_undefined (h : operand.Trail store.aliases names (.symbol name))
    (hlookup : store.aliases.lookup name = none) (hhops : names.length ≤ store.hops) :
    store.read operand = .error (.invalidValue name) := by
  have hend := store.readWithin_symbol_of_undefined (store.hops - names.length) name hlookup
  have hread := readWithin_of_trail h hend
  rwa [Nat.sub_add_cancel hhops] at hread

/-- A write is then to no target or, if the name is in brackets, at an address without a value. -/
lemma write_of_undefined (h : operand.Trail store.aliases names (.symbol name))
    (hlookup : store.aliases.lookup name = none) (hhops : names.length ≤ store.hops) :
    write operand value store =
      .error (if store.leaf operand = .symbol name then .invalidTarget name
        else .invalidValue name) store := by
  have hread := read_of_undefined h hlookup hhops
  rw [write_eq_locate]
  cases hlocate : store.locate operand with
  | ok location =>
    obtain ⟨content, -, hcontent⟩ := read_of_locate hlocate
    rw [hread] at hcontent
    cases hcontent
  | error cause =>
    have herror := read_of_locate_error hlocate
    rw [hread] at herror
    simp only [Except.error.injEq, reduceCtorEq, and_false] at herror
    split at herror
    · exact herror.elim
    · next symbol hleaf =>
      split at herror
      · obtain ⟨rfl, hname⟩ := herror
        obtain rfl : name = symbol := by simpa using hname
        simp [hleaf]
      · next hdefined =>
        have hne : symbol ≠ name := fun heq => hdefined (heq ▸ hlookup)
        simp [hleaf, hne, ← herror]
    · next hsymbol =>
      have hleaf : store.leaf operand ≠ .symbol name := hsymbol name
      simp [hleaf, ← herror]

/-- **Accesses take a limited number of hops.** Every read and every write on a stack comes to an
end, and finds at most one name more defined than hops are allowed. Both are broken off, and nothing
is changed, if and only if they do not fit on the stack. Both are refused for too many hops if and
only if they fit and the trail from the operand has more than are allowed. Within the limit, an
undefined name at the end of the trail is no value and, outside brackets, no target. Which of these
it is depends on the aliases, the limit and the stack, whatever the registers and the memory hold.

**Proof sketch.** An access as it is made is the access with the hops that are left
(`Reads.eq_readOnWithin`, `Writes.eq_writeOnWithin`), and there is one for every operand
(`exists_reads`, `exists_writes`). When it is refused is `readIsTooDeep_iff`, which speaks of
aliases alone. -/
theorem accesses_take_limited_hops (store : Store) (stack : Stack) (operand : Operand)
    (value : Number) :
    ((∃ names, store.Reads stack 0 operand names (store.readOn stack operand)) ∧
      ∀ names outcome, store.Reads stack 0 operand names outcome →
        outcome = store.readOn stack operand ∧ names.length ≤ store.hops + 1) ∧
    ((∃ names, store.Writes value stack 0 operand names (writeOn stack operand value store)) ∧
      ∀ names outcome, store.Writes value stack 0 operand names outcome →
        outcome = writeOn stack operand value store ∧ names.length ≤ store.hops + 1) ∧
    (store.readOn stack operand = .error .stackExhausted ↔ ¬ store.Fits stack operand) ∧
    (writeOn stack operand value store = .error .stackExhausted store ↔
      ¬ store.Fits stack operand) ∧
    (store.ReadIsTooDeep stack operand ↔
      operand.ExceedsHops store.aliases store.hops ∧ store.Fits stack operand) ∧
    (store.WriteIsTooDeep stack operand value ↔
      operand.ExceedsHops store.aliases store.hops ∧ store.Fits stack operand) ∧
    (∀ names name, operand.Trail store.aliases names (.symbol name) →
      store.aliases.lookup name = none → names.length ≤ store.hops → store.Fits stack operand →
      store.readOn stack operand = .error (.invalidValue name) ∧
      writeOn stack operand value store =
        .error (if store.leaf operand = .symbol name then .invalidTarget name
          else .invalidValue name) store) ∧
    ∀ registers memory,
      let other : Store := { store with registers, memory }
      (other.Fits stack operand ↔ store.Fits stack operand) ∧
      (other.ReadIsTooDeep stack operand ↔ store.ReadIsTooDeep stack operand) ∧
      (other.WriteIsTooDeep stack operand value ↔ store.WriteIsTooDeep stack operand value) := by
  refine ⟨⟨?_, fun names outcome => Reads.eq_readOn⟩,
    ⟨?_, fun names outcome => Writes.eq_writeOn⟩, readOn_eq_stackExhausted_iff,
    writeOn_eq_stackExhausted_iff, readIsTooDeep_iff, writeIsTooDeep_iff.trans readIsTooDeep_iff,
    fun names name h hlookup hhops hfits => ?_, fun registers memory => ?_⟩
  · obtain ⟨names, outcome, h⟩ := store.exists_reads stack 0 operand
    exact ⟨names, h.eq_readOn.1 ▸ h⟩
  · obtain ⟨names, outcome, h⟩ := store.exists_writes value stack 0 operand
    exact ⟨names, h.eq_writeOn.1 ▸ h⟩
  · rw [readOn_eq, writeOn_eq, if_pos hfits, if_pos hfits]
    exact ⟨read_of_undefined h hlookup hhops, write_of_undefined h hlookup hhops⟩
  · -- the trails from the operand, and their frames, are made of the aliases alone
    simp only [writeIsTooDeep_iff, readIsTooDeep_iff]
    exact ⟨Iff.rfl, Iff.rfl, Iff.rfl⟩

/-- A name that stands for itself in fifteen brackets takes more hops than allowed, but a stack with
room for a thousand frames is exhausted before that. -/
theorem hops_exhaust_the_stack :
    let bracket (inner : Operand) : Operand := .indirect ("[" ++ inner.text ++ "]") inner
    let store : Store :=
      { Store.fresh 16 512 64 with
        aliases := AliasTable.empty.define "a" (bracket^[15] (.symbol "a")) }
    (Operand.symbol "a").ExceedsHops store.aliases store.hops ∧
      ¬ store.ReadIsTooDeep (.bounded 1000) (.symbol "a") ∧
      ¬ store.WriteIsTooDeep (.bounded 1000) (.symbol "a") .zero ∧
      store.readOn (.bounded 1000) (.symbol "a") = .error .stackExhausted := by
  intro bracket store
  have hread : store.read (.symbol "a") = .error (.aliasTooDeep "a" 64) := by decide +kernel
  have hfits : ¬ store.Fits (.bounded 1000) (.symbol "a") := by decide +kernel
  obtain ⟨hnotRead, hnotWrite⟩ := not_isTooDeep_of_not_fits hfits
  exact ⟨exceedsHops_of_read hread, hnotRead, hnotWrite, readOn_eq_stackExhausted_iff.2 hfits⟩

/-! ## Cycles -/

/-- With no more names than hops, a trail has more hops than the limit if and only if some trail
visits a name twice. -/
lemma exceedsHops_iff (hnames : store.aliases.names.card ≤ store.hops) :
    operand.ExceedsHops store.aliases store.hops ↔
      ∃ names other, operand.Trail store.aliases names other ∧ ¬ names.Nodup := by
  constructor
  · rintro ⟨names, other, htrail, hlong⟩
    refine ⟨names, other, htrail, fun hnodup => ?_⟩
    have hshort := htrail.length_le_card hnodup
    omega
  · rintro ⟨names, other, htrail, hdup⟩
    exact htrail.exists_longer hdup (store.hops + 1)

/-- **Cycles are refused, and nothing else.** With no more names than hops, an access that fits on
the stack is refused for too many hops if and only if the trail from its operand visits a name
twice. One that does not fit is broken off, whether there is a cycle or not.

**Proof sketch.** A trail that visits no name twice is no longer than the table of names
(`Operand.Trail.length_le_card`), and one that comes back to a name can go round again
(`Operand.Trail.exists_longer`). -/
theorem cycles_are_refused_and_nothing_else {store : Store} (stack : Stack) (operand : Operand)
    (value : Number) (hnames : store.aliases.names.card ≤ store.hops) :
    (store.ReadIsTooDeep stack operand ↔
      (∃ names other, operand.Trail store.aliases names other ∧ ¬ names.Nodup) ∧
        store.Fits stack operand) ∧
    (store.WriteIsTooDeep stack operand value ↔
      (∃ names other, operand.Trail store.aliases names other ∧ ¬ names.Nodup) ∧
        store.Fits stack operand) ∧
    (¬ store.Fits stack operand →
      store.readOn stack operand = .error .stackExhausted ∧
      writeOn stack operand value store = .error .stackExhausted store) := by
  rw [writeIsTooDeep_iff, readIsTooDeep_iff, exceedsHops_iff hnames]
  exact ⟨Iff.rfl, Iff.rfl, fun hfits =>
    ⟨readOn_eq_stackExhausted_iff.2 hfits, writeOn_eq_stackExhausted_iff.2 hfits⟩⟩

/-- Two names that lead to each other, once through brackets, with two hops allowed and room for
four frames. -/
theorem cycles_are_refused_and_nothing_else_in_brackets :
    let store : Store :=
      { Store.fresh 1 1 2 with
        aliases := (AliasTable.empty.define "x" (.indirect "[y]" (.symbol "y"))).define "y"
          (.symbol "x") }
    store.aliases.names.card ≤ store.hops ∧ store.Fits (.bounded 4) (.symbol "x") ∧
      store.ReadIsTooDeep (.bounded 4) (.symbol "x") ∧
      store.WriteIsTooDeep (.bounded 4) (.symbol "x") .zero := by
  intro store
  have hnames : store.aliases.names.card ≤ store.hops := by decide
  have hfits : store.Fits (.bounded 4) (.symbol "x") := by decide
  have hx : store.aliases.lookup "x" = some (.indirect "[y]" (.symbol "y")) := by decide
  have hy : store.aliases.lookup "y" = some (.symbol "x") := by decide
  have htrail : (Operand.symbol "x").Trail store.aliases ["x", "y", "x"]
      (.indirect "[y]" (.symbol "y")) :=
    .hop hx (.inner (.hop hy (.hop hx (.refl _))))
  have hdup : ¬ ["x", "y", "x"].Nodup := by decide
  obtain ⟨hread, hwrite, -⟩ :=
    cycles_are_refused_and_nothing_else (.bounded 4) (.symbol "x") .zero hnames
  exact ⟨hnames, hfits, hread.2 ⟨⟨_, _, htrail, hdup⟩, hfits⟩,
    hwrite.2 ⟨⟨_, _, htrail, hdup⟩, hfits⟩⟩

/-- A cycle of two names, one of them behind thirty brackets, exhausts a stack with room for a
thousand frames before it is refused. -/
theorem cycles_exhaust_the_stack :
    let bracket (inner : Operand) : Operand := .indirect ("[" ++ inner.text ++ "]") inner
    let store : Store :=
      { Store.fresh 16 512 64 with
        aliases := (AliasTable.empty.define "a" (bracket^[30] (.symbol "b"))).define "b"
          (.symbol "a") }
    store.aliases.names.card ≤ store.hops ∧
      (∃ names other, (Operand.symbol "a").Trail store.aliases names other ∧ ¬ names.Nodup) ∧
      ¬ store.ReadIsTooDeep (.bounded 1000) (.symbol "a") ∧
      ¬ store.WriteIsTooDeep (.bounded 1000) (.symbol "a") .zero := by
  intro bracket store
  have hnames : store.aliases.names.card ≤ store.hops := by decide +kernel
  have hread : store.read (.symbol "a") = .error (.aliasTooDeep "a" 64) := by decide +kernel
  have hfits : ¬ store.Fits (.bounded 1000) (.symbol "a") := by decide +kernel
  obtain ⟨hnotRead, hnotWrite⟩ := not_isTooDeep_of_not_fits hfits
  exact ⟨hnames, (exceedsHops_iff hnames).1 (exceedsHops_of_read hread), hnotRead, hnotWrite⟩

end Store

end RegisterMachine
