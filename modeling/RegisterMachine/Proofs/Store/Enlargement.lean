import RegisterMachine.Proofs.Store.Failure

set_option autoImplicit false
set_option relaxedAutoImplicit false

/-!
# Larger stores

A store with more cells, all of them zero, and with more hops. Whatever is read or written through
an operand is the same in the larger store, unless it fails in the smaller one because the address
is not in the memory or because there are too many hops. The memory is shown as the same text, since
cells that are zero are not shown.

## Main definitions

* `RegisterMachine.Cause.HitsLimit` — failures that a larger store may not have.
* `RegisterMachine.SameBelowLimits` — two computations that do the same, unless the first
  one fails in this way.
* `RegisterMachine.Action.ScalesAt` — an action that does the same on a larger state, unless it
  fails in this way.
* `RegisterMachine.Enlargement`, `RegisterMachine.Store.enlarge` — how much larger a store becomes,
  and the larger store.

## Main results

* `RegisterMachine.Memory.dump_extend` — a larger memory is shown as the same text.
* `RegisterMachine.Store.IsSound.sameBelowLimits_read` — reads do the same.
* `RegisterMachine.Store.IsSound.scalesAt_write` — writes do the same.
-/

namespace RegisterMachine

/-- The cause is one that a larger store may not have: an address is not in the memory, or there
are too many hops. -/
def Cause.HitsLimit (cause : Cause) : Prop :=
  cause.kind = .memoryOutOfBounds ∨ cause.kind = .aliasCycle

/-! ## Computations below the limits -/

section SameBelowLimits

variable {α β : Type} {x y : Except Cause α}

/-- The computations do the same, unless the first one hits a limit. -/
def SameBelowLimits (x y : Except Cause α) : Prop :=
  y = x ∨ ∃ cause, cause.HitsLimit ∧ x = .error cause

lemma SameBelowLimits.refl (x : Except Cause α) : SameBelowLimits x x :=
  .inl rfl

/-- Sequences do the same if their parts do. -/
lemma SameBelowLimits.bind (hxy : SameBelowLimits x y) {f g : α → Except Cause β}
    (hfg : ∀ a, x = .ok a → SameBelowLimits (f a) (g a)) : SameBelowLimits (x >>= f) (y >>= g) := by
  rcases hxy with rfl | ⟨cause, hlimit, rfl⟩
  · cases y with
    | ok a => exact hfg a rfl
    | error cause => exact .inl rfl
  · exact .inr ⟨cause, hlimit, rfl⟩

/-- Computations on the elements of a list do the same if they do on each of them. -/
lemma SameBelowLimits.mapM {f g : α → Except Cause β} {as : List α}
    (h : ∀ a ∈ as, SameBelowLimits (f a) (g a)) : SameBelowLimits (as.mapM f) (as.mapM g) := by
  induction as with
  | nil => exact .refl _
  | cons a as ih =>
    rw [List.mapM_cons, List.mapM_cons]
    refine (h a List.mem_cons_self).bind fun b _ => ?_
    exact (ih fun a' ha' => h a' (List.mem_cons_of_mem a ha')).bind fun bs _ => .refl _

end SameBelowLimits

namespace Action

variable {σ α β : Type} {enlarge : σ → σ} {s : σ}

/-- The action does on the enlarged state what it does on the state, unless it hits a limit. -/
structure ScalesAt (enlarge : σ → σ) (action : Action σ α) (s : σ) : Prop where
  /-- Success is the same, and leaves the enlarged state. -/
  of_ok : ∀ {a t}, action s = .ok a t → action (enlarge s) = .ok a (enlarge t)
  /-- So is failure, but at a limit. -/
  of_error : ∀ {cause t}, action s = .error cause t →
    cause.HitsLimit ∨ action (enlarge s) = .error cause (enlarge t)

/-- Success on both states. -/
lemma ScalesAt.of_eq_ok {action : Action σ α} {a : α} {t : σ} (hok : action s = .ok a t)
    (hlarger : action (enlarge s) = .ok a (enlarge t)) : action.ScalesAt enlarge s where
  of_ok h := by
    obtain ⟨rfl, rfl⟩ : a = _ ∧ t = _ := by simpa [hok] using h
    exact hlarger
  of_error h := by simp [hok] at h

/-- An action that is another one on both states scales if the other one does. -/
lemma ScalesAt.congr {action other : Action σ α} (hs : action s = other s)
    (hlarger : action (enlarge s) = other (enlarge s)) (h : other.ScalesAt enlarge s) :
    action.ScalesAt enlarge s where
  of_ok hok := hlarger.trans (h.of_ok (hs.symm.trans hok))
  of_error herror := (h.of_error (hs.symm.trans herror)).imp_right hlarger.trans

lemma scalesAt_pure (a : α) : (pure a : Action σ α).ScalesAt enlarge s where
  of_ok h := by
    obtain ⟨rfl, rfl⟩ := pure_eq_ok.1 h
    rfl
  of_error h := (pure_eq_error.1 h).elim

lemma scalesAt_throw (cause : Cause) : (throw cause : Action σ α).ScalesAt enlarge s where
  of_ok h := (throw_eq_ok.1 h).elim
  of_error h := by
    obtain ⟨rfl, rfl⟩ := throw_eq_error.1 h
    exact .inr rfl

/-- A change scales if it commutes with the enlargement. -/
lemma scalesAt_modify {f : σ → σ} (h : f (enlarge s) = enlarge (f s)) :
    (modify f : Action σ Unit).ScalesAt enlarge s where
  of_ok hok := by
    rw [modify_eq_ok.1 hok, ← h]
    rfl
  of_error herror := (modify_eq_error.1 herror).elim

/-- A computation from the state scales if it does the same on the larger state. -/
lemma scalesAt_query {f : σ → Except Cause α}
    (h : SameBelowLimits (f s) (f (enlarge s))) : (query f).ScalesAt enlarge s where
  of_ok hok := by
    obtain ⟨ha, rfl⟩ := query_eq_ok.1 hok
    rcases h with h | ⟨cause, -, hcause⟩
    · exact query_eq_ok.2 ⟨h.trans ha, rfl⟩
    · rw [hcause] at ha
      cases ha
  of_error herror := by
    obtain ⟨hcause, rfl⟩ := query_eq_error.1 herror
    rcases h with h | ⟨cause, hlimit, hcause'⟩
    · exact .inr (query_eq_error.2 ⟨h.trans hcause, rfl⟩)
    · rw [hcause] at hcause'
      cases hcause'
      exact .inl hlimit

/-- A computation of the next state scales if it does the same on the larger state. -/
lemma scalesAt_update {f : σ → Except Cause σ} (h : f (enlarge s) = enlarge <$> f s) :
    (update f).ScalesAt enlarge s where
  of_ok hok := by
    rw [update_eq_ok] at hok ⊢
    rw [h, hok]
    rfl
  of_error herror := by
    obtain ⟨hcause, rfl⟩ := update_eq_error.1 herror
    refine .inr (update_eq_error.2 ⟨?_, rfl⟩)
    rw [h, hcause]
    rfl

/-- **Sequences scale** if their parts do. -/
lemma scalesAt_bind {action : Action σ α} {next : α → Action σ β}
    (haction : action.ScalesAt enlarge s)
    (hnext : ∀ a t, action s = .ok a t → (next a).ScalesAt enlarge t) :
    (action >>= next).ScalesAt enlarge s where
  of_ok hok := by
    obtain ⟨a, r, ha, hb⟩ := bind_eq_ok.1 hok
    exact bind_eq_ok.2 ⟨a, enlarge r, haction.of_ok ha, (hnext a r ha).of_ok hb⟩
  of_error herror := by
    rcases bind_eq_error.1 herror with hfirst | ⟨a, r, ha, hrest⟩
    · exact (haction.of_error hfirst).imp_right fun hsame => bind_eq_error.2 (.inl hsame)
    · refine ((hnext a r ha).of_error hrest).imp_right fun hsame => bind_eq_error.2 (.inr ?_)
      exact ⟨a, enlarge r, haction.of_ok ha, hsame⟩

/-- What is computed from the state first leaves the state as it is. -/
lemma scalesAt_query_bind {f : σ → Except Cause α} {next : α → Action σ β}
    (hf : SameBelowLimits (f s) (f (enlarge s)))
    (hnext : ∀ a, (next a).ScalesAt enlarge s) : (query f >>= next).ScalesAt enlarge s := by
  refine scalesAt_bind (scalesAt_query hf) fun a t ha => ?_
  obtain ⟨-, rfl⟩ := query_eq_ok.1 ha
  exact hnext a

end Action

/-! ## Larger memories -/

namespace Memory

variable {memory : Memory} {i count : Nat}

/-- The memory with so many more cells, all zero. -/
def extend (memory : Memory) (count : Nat) : Memory where
  capacity := memory.cells.size + count
  cells := memory.cells ++ Array.replicate count .zero
  size_eq := by
    rw [Array.size_append, Array.size_replicate]
    omega

/-- A fresh memory is a smaller one with more cells. -/
lemma fresh_extend (size count : Nat) : (fresh size).extend count = fresh (size + count : Nat) := by
  have hcells : (fresh size).cells = Array.replicate size .zero := rfl
  simp only [extend, hcells, Array.size_replicate, Array.replicate_append_replicate]
  rfl

lemma getElem?_extend_of_lt (h : i < memory.cells.size) :
    (memory.extend count).cells[i]? = memory.cells[i]? :=
  Array.getElem?_append_left h

lemma getElem?_extend_of_le (hi : memory.cells.size ≤ i) (hlt : i < memory.cells.size + count) :
    (memory.extend count).cells[i]? = some .zero := by
  refine (Array.getElem?_append_right hi).trans ?_
  rw [Array.getElem?_replicate, if_pos (by omega)]

/-- A cell that is not there counts as zero, so that no cell has changed. -/
lemma getD_extend (memory : Memory) (count i : Nat) :
    (memory.extend count).cells[i]?.getD .zero = memory.cells[i]?.getD .zero := by
  by_cases hi : i < memory.cells.size
  · rw [getElem?_extend_of_lt hi]
  · rw [Array.getElem?_eq_none (Nat.not_lt.1 hi)]
    by_cases hlt : i < memory.cells.size + count
    · rw [getElem?_extend_of_le (Nat.not_lt.1 hi) hlt]
      rfl
    · rw [Array.getElem?_eq_none]
      rw [extend, Array.size_append, Array.size_replicate]
      omega

/-- Setting a cell commutes with adding others. -/
lemma set_extend (h : i < memory.cells.size) (value : Number) :
    (memory.extend count).set i value = (memory.set i value).extend count := by
  simp only [extend, set, Array.size_setIfInBounds, Array.setIfInBounds_append_left h]

/-! ### Showing -/

/-- The lines of the cells do not change. -/
lemma linesBelow_extend (i : Nat) (lines : List String) :
    (memory.extend count).linesBelow i lines = memory.linesBelow i lines := by
  induction i generalizing lines with
  | zero => rfl
  | succ i ih => simp only [linesBelow, getD_extend, ih]

/-- There are no lines of cells that are not there. -/
lemma linesBelow_size_add (n : Nat) (lines : List String) :
    memory.linesBelow (memory.cells.size + n) lines =
      memory.linesBelow memory.cells.size lines := by
  induction n with
  | zero => rfl
  | succ n ih =>
    rw [← Nat.add_assoc, linesBelow, Array.getElem?_eq_none (Nat.le_add_right _ _)]
    exact ih

/-- **A larger memory is shown as the same text.** -/
lemma dump_extend (memory : Memory) (count : Nat) : (memory.extend count).dump = memory.dump := by
  have hsize : (memory.extend count).cells.size = memory.cells.size + count := by
    rw [extend, Array.size_append, Array.size_replicate]
  rw [dump, dump, hsize, linesBelow_extend, linesBelow_size_add]

/-! ### Access -/

/-- An integer that denotes a cell denotes the same one in a larger memory. -/
lemma sameBelowLimits_indexOfInt {n : Int} (hn : n.natAbs ≤ Double.largest) :
    SameBelowLimits (memory.indexOfInt n) ((memory.extend count).indexOfInt n) := by
  have hsize := memory.size_eq
  have hcapacity : (memory.extend count).capacity = memory.cells.size + count := rfl
  by_cases hrange : 0 ≤ n ∧ n < memory.capacity
  · have hlarger : 0 ≤ n ∧ n < (memory.extend count).capacity := by omega
    refine .inl ?_
    rw [indexOfInt, indexOfInt, if_pos (by simpa using hlarger), if_pos (by simpa using hrange)]
  · obtain ⟨shown, hshown⟩ := (Number.InRange.int hn).exists_text
    rw [Number.text] at hshown
    refine .inr ⟨.addressOutOfRange n memory.capacity, .inl rfl, ?_⟩
    simp [indexOfInt, ← Bool.decide_and, hrange, hshown]

/-- A number that denotes a cell denotes the same one in a larger memory. -/
lemma sameBelowLimits_index {address : Number} (haddress : address.InRange) :
    SameBelowLimits (memory.index (.number address))
      ((memory.extend count).index (.number address)) := by
  cases haddress with
  | @int n hn =>
    simp only [index]
    exact sameBelowLimits_indexOfInt hn
  | double x =>
    simp only [index]
    split
    · next n hn => exact sameBelowLimits_indexOfInt (Double.natAbs_le_of_toInt? hn)
    · exact .refl _

/-- A cell that can be read has the same content in a larger memory. -/
lemma sameBelowLimits_read {address : Number} (haddress : address.InRange) :
    SameBelowLimits (memory.read (.number address))
      ((memory.extend count).read (.number address)) := by
  refine (sameBelowLimits_index haddress).bind fun i _ => ?_
  rw [getD_extend]
  exact .refl _

end Memory

/-! ## Larger stores -/

/-- How much larger a store becomes: by so many cells and so many hops. -/
structure Enlargement where
  cells : Nat
  hops : Nat

namespace Store

/-- The store with more cells, all zero, and with more hops. -/
def enlarge (larger : Enlargement) (store : Store) : Store :=
  { store with
    memory := store.memory.extend larger.cells
    aliasLimit := store.aliasLimit + larger.hops }

variable {larger : Enlargement} {count : Nat} {store : Store} {operand : Operand}

@[simp]
lemma registers_enlarge : (store.enlarge larger).registers = store.registers := rfl

@[simp]
lemma memory_enlarge : (store.enlarge larger).memory = store.memory.extend larger.cells := rfl

@[simp]
lemma aliases_enlarge : (store.enlarge larger).aliases = store.aliases := rfl

/-- A larger store allows no fewer hops. -/
lemma hops_le_hops_enlarge : store.hops ≤ (store.enlarge larger).hops := by
  have hlimit : (store.enlarge larger).aliasLimit = store.aliasLimit + larger.hops := rfl
  unfold hops
  omega

/-- Writing to a location that has a content commutes with the enlargement. -/
lemma put_enlarge {location : Location} {old : Number} (h : store.content? location = some old)
    (value : Number) :
    (store.enlarge larger).put value location = (store.put value location).enlarge larger := by
  cases location with
  | register name => rfl
  | cell index =>
    have hlt : index < store.memory.cells.size := (Array.getElem?_eq_some_iff.1 h).1
    simp only [put, enlarge, Memory.set_extend hlt]

/-! ### Following aliases -/

/-- The operand is a symbol that has been defined. -/
def Defines (store : Store) (operand : Operand) : Prop :=
  ∃ name target, operand = .symbol name ∧ store.aliases.lookup name = some target

lemma follow_zero (store : Store) (operand : Operand) : store.follow 0 operand = (0, operand) := by
  cases operand <;> rfl

/-- There is nothing to follow but symbols that have been defined. -/
lemma follow_of_not_defines (h : ¬ store.Defines operand) (hops : Nat) :
    store.follow hops operand = (hops, operand) := by
  cases operand with
  | symbol name =>
    cases hlookup : store.aliases.lookup name with
    | some target => exact absurd ⟨name, target, rfl, hlookup⟩ h
    | none => cases hops <;> simp [follow, hlookup]
  | indirect | register | literal => cases hops <;> rfl

namespace IsSound

/-! ### Reading -/

/-- Reads do the same if reads of targets of aliases do.

**Proof sketch.** Induction on the operand. An address that could be read is in range, so that the
larger memory has no other reason to refuse it. -/
lemma sameBelowLimits_readVia {follow follow' : Stack → String → Operand → Except Cause Number}
    (hvalue : ∀ inner address, Operand.IsReading count inner →
      store.readVia follow .unbounded inner = .ok address → address.InRange)
    (hfollow : ∀ name target, store.aliases.lookup name = some target →
      SameBelowLimits (follow .unbounded name target) (follow' .unbounded name target))
    (hoperand : operand.IsReading count) :
    SameBelowLimits (store.readVia follow .unbounded operand)
      ((store.enlarge larger).readVia follow' .unbounded operand) := by
  induction operand with
  | indirect text inner ih =>
    have hinner := (Operand.isReading_indirect_iff.1 hoperand).2
    refine (ih hinner).bind fun address hread => ?_
    exact Memory.sameBelowLimits_read (hvalue inner address hinner hread)
  | register text => exact .refl _
  | literal text value => exact .refl _
  | symbol name =>
    unfold readVia
    simp only [Stack.enter?, aliases_enlarge]
    split
    · next target hlookup => exact hfollow name target hlookup
    · exact .refl _

/-- Reads do the same, if no fewer hops are left. -/
lemma sameBelowLimits_readWithin (h : store.IsSound count) {hops hops' : Nat} (hle : hops ≤ hops')
    (hoperand : operand.IsReading count) :
    SameBelowLimits (store.readWithin hops operand)
      ((store.enlarge larger).readWithin hops' operand) := by
  have hvalue : ∀ hops inner address, Operand.IsReading count inner →
      store.readWithin hops inner = .ok address → address.InRange := fun hops inner address =>
    Holds.of_readWithin h.inRange Number.hasConstants_inRange h.aliases
  induction hops generalizing hops' operand with
  | zero =>
    -- without a hop every target of an alias is too deep, whatever is done in the larger store
    have hdeep : ∀ follow', SameBelowLimits (store.readWithin 0 operand)
        ((store.enlarge larger).readVia follow' .unbounded operand) := fun follow' =>
      sameBelowLimits_readVia (hvalue 0) (fun name target _ =>
        .inr ⟨.aliasTooDeep name store.aliasLimit, .inr rfl, rfl⟩) hoperand
    cases hops' <;> exact hdeep _
  | succ hops ih =>
    cases hops' with
    | zero => omega
    | succ hops' =>
      refine sameBelowLimits_readVia (hvalue (hops + 1)) (fun name target hlookup => ?_) hoperand
      exact ih (Nat.le_of_succ_le_succ hle) (h.aliases _ (AliasTable.mem_of_lookup hlookup)).2

/-- **Reads do the same in a larger store**, unless they hit a limit. -/
lemma sameBelowLimits_read (h : store.IsSound count) (hoperand : operand.IsReading count) :
    SameBelowLimits (store.read operand) ((store.enlarge larger).read operand) :=
  h.sameBelowLimits_readWithin hops_le_hops_enlarge hoperand

/-! ### Writing -/

/-- An operand whose aliases have been followed denotes the same location, if no fewer hops are
left. -/
lemma sameBelowLimits_locateLeaf (h : store.IsSound count) {hops hops' : Nat} (hle : hops ≤ hops')
    (hoperand : operand.IsReading count) :
    SameBelowLimits (store.locateLeaf (hops, operand))
      ((store.enlarge larger).locateLeaf (hops', operand)) := by
  cases operand with
  | indirect text inner =>
    have hinner := (Operand.isReading_indirect_iff.1 hoperand).2
    simp only [locateLeaf, memory_enlarge]
    refine (h.sameBelowLimits_readWithin hle hinner).bind fun address hread => ?_
    have haddress : address.InRange :=
      Holds.of_readWithin h.inRange Number.hasConstants_inRange h.aliases hinner hread
    exact (Memory.sameBelowLimits_index haddress).bind fun _ _ => .refl _
  | register text =>
    simp only [locateLeaf, registers_enlarge]
    exact .refl _
  | literal text value => exact .refl _
  | symbol name =>
    simp only [locateLeaf, aliases_enlarge]
    split
    · exact .inr ⟨.aliasTooDeep name store.aliasLimit, .inr rfl, rfl⟩
    · exact .refl _

/-- Aliases are followed to the same location. -/
lemma sameBelowLimits_locateLeaf_follow (h : store.IsSound count) {hops hops' : Nat}
    (hle : hops ≤ hops') (hoperand : operand.IsReading count) :
    SameBelowLimits (store.locateLeaf (store.follow hops operand))
      ((store.enlarge larger).locateLeaf ((store.enlarge larger).follow hops' operand)) := by
  induction hops generalizing hops' operand with
  | zero =>
    rw [follow_zero]
    by_cases hdefined : store.Defines operand
    · obtain ⟨name, target, rfl, hlookup⟩ := hdefined
      refine .inr ⟨.aliasTooDeep name store.aliasLimit, .inr rfl, ?_⟩
      simp [locateLeaf, hlookup]
    · have hlarger : ¬ (store.enlarge larger).Defines operand := hdefined
      rw [follow_of_not_defines hlarger]
      exact h.sameBelowLimits_locateLeaf hle hoperand
  | succ hops ih =>
    cases hops' with
    | zero => omega
    | succ hops' =>
      by_cases hdefined : store.Defines operand
      · obtain ⟨name, target, rfl, hlookup⟩ := hdefined
        have htarget := (h.aliases _ (AliasTable.mem_of_lookup hlookup)).2
        simpa [follow, hlookup] using ih (Nat.le_of_succ_le_succ hle) htarget
      · have hlarger : ¬ (store.enlarge larger).Defines operand := hdefined
        rw [follow_of_not_defines hdefined, follow_of_not_defines hlarger]
        exact h.sameBelowLimits_locateLeaf hle hoperand

/-- **Operands denote the same location in a larger store**, unless they hit a limit. -/
lemma sameBelowLimits_locate (h : store.IsSound count) (hoperand : operand.IsReading count) :
    SameBelowLimits (store.locate operand) ((store.enlarge larger).locate operand) :=
  h.sameBelowLimits_locateLeaf_follow hops_le_hops_enlarge hoperand

/-- **Writes do the same in a larger store**, unless they hit a limit. -/
lemma scalesAt_write (h : store.IsSound count) (hoperand : operand.IsReading count)
    (value : Number) : (Store.write operand value).ScalesAt (enlarge larger) store := by
  have hlocate : SameBelowLimits (store.locate operand) ((store.enlarge larger).locate operand) :=
    h.sameBelowLimits_locate hoperand
  constructor
  · intro u after hok
    obtain ⟨location, old, hlocation, hold, rfl⟩ := exists_location_of_write hok
    rw [hlocation] at hlocate
    rcases hlocate with hsame | ⟨_, -, hcause⟩
    · rw [write_eq_locate, hsame]
      exact congrArg (EStateM.Result.ok ()) (put_enlarge hold value)
    · cases hcause
  · intro cause after herror
    rw [write_eq_locate] at herror
    cases hlocation : store.locate operand with
    | ok location => simp [hlocation] at herror
    | error e =>
      obtain ⟨rfl, rfl⟩ : e = cause ∧ store = after := by simpa [hlocation] using herror
      rw [hlocation] at hlocate
      rcases hlocate with hsame | ⟨_, hlimit, hcause⟩
      · exact .inr (by rw [write_eq_locate, hsame])
      · cases hcause
        exact .inl hlimit

end IsSound

end Store

end RegisterMachine
