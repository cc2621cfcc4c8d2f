import RegisterMachine.Proofs.Store.TextAccess
import Mathlib.Data.Finset.Card

set_option autoImplicit false
set_option relaxedAutoImplicit false

/-!
# Trails of aliases

From an operand one aliased name leads to the next, through brackets and targets. A trail that comes
back to a name can go round without end, and a trail that does not is no longer than the table of
aliases.

## Main definitions

* `RegisterMachine.AliasTable.names` — the names that are defined.
* `RegisterMachine.Operand.Trail` — the names that one hop after the other leads through.

## Main results

* `RegisterMachine.Operand.Trail.length_le_card` — a trail that visits no name twice is short.
* `RegisterMachine.Operand.Trail.exists_longer` — a trail that visits a name twice can be prolonged.
-/

namespace RegisterMachine

/-- The names that are defined. -/
def AliasTable.names (aliases : AliasTable) : Finset String :=
  (aliases.entries.map Prod.fst).toFinset

/-- A name that has a target is defined. -/
lemma AliasTable.mem_names_of_lookup {aliases : AliasTable} {name : String} {target : Operand}
    (h : aliases.lookup name = some target) : name ∈ aliases.names := by
  rw [names, List.mem_toFinset]
  exact List.mem_map.2 ⟨_, mem_of_lookup h, rfl⟩

namespace Operand

/-- From one operand, hops through the given names lead to the other: brackets are opened, and a
defined name is replaced by its target. -/
inductive Trail (aliases : AliasTable) : List String → Operand → Operand → Prop
  /-- No hop leads to the operand itself. -/
  | refl (operand : Operand) : Trail aliases [] operand operand
  /-- Brackets are opened without a hop. -/
  | inner {names : List String} {text : String} {inner other : Operand}
      (h : Trail aliases names inner other) : Trail aliases names (.indirect text inner) other
  /-- A hop leads from a defined name to its target. -/
  | hop {names : List String} {name : String} {target other : Operand}
      (hlookup : aliases.lookup name = some target) (h : Trail aliases names target other) :
      Trail aliases (name :: names) (.symbol name) other

namespace Trail

variable {aliases : AliasTable} {names more : List String} {name : String}
  {operand other last : Operand}

/-- A trail goes through defined names. -/
lemma mem_names (h : Trail aliases names operand other) : ∀ name ∈ names, name ∈ aliases.names := by
  induction h with
  | refl => simp
  | inner _ ih => exact ih
  | hop hlookup _ ih =>
    exact List.forall_mem_cons.2 ⟨AliasTable.mem_names_of_lookup hlookup, ih⟩

/-- **A trail that visits no name twice has at most as many hops as there are names.** -/
lemma length_le_card (h : Trail aliases names operand other) (hnodup : names.Nodup) :
    names.length ≤ aliases.names.card := by
  rw [← List.toFinset_card_of_nodup hnodup]
  exact Finset.card_le_card fun name hname => h.mem_names name (List.mem_toFinset.1 hname)

/-! ## Trails one after the other -/

/-- One trail may follow another. -/
lemma trans (h : Trail aliases names operand other) (hmore : Trail aliases more other last) :
    Trail aliases (names ++ more) operand last := by
  induction h with
  | refl => exact hmore
  | inner _ ih => exact .inner (ih hmore)
  | hop hlookup _ ih => exact .hop hlookup (ih hmore)

/-- A trail comes to each of its names. -/
lemma exists_of_append (h : Trail aliases (names ++ name :: more) operand last) :
    Trail aliases names operand (.symbol name) ∧
      Trail aliases (name :: more) (.symbol name) last := by
  generalize hall : names ++ name :: more = all at h
  induction h generalizing names with
  | refl => simp at hall
  | inner _ ih => exact (ih hall).imp_left .inner
  | @hop rest first target other hlookup h ih =>
    cases names with
    | nil =>
      obtain ⟨rfl, rfl⟩ := List.cons.inj hall
      exact ⟨.refl _, .hop hlookup h⟩
    | cons head tail =>
      obtain ⟨rfl, hrest⟩ := List.cons.inj hall
      exact (ih hrest).imp_left (.hop hlookup)

/-- After some of its hops, a trail is at a defined name if there are more. -/
lemma exists_take (h : Trail aliases names operand other) {n : Nat} (hn : n < names.length) :
    ∃ name target, aliases.lookup name = some target ∧
      Trail aliases (names.take n) operand (.symbol name) := by
  rw [← List.take_append_drop n names, List.drop_eq_getElem_cons hn] at h
  obtain ⟨hfirst, hrest⟩ := h.exists_of_append
  cases hrest with
  | hop hlookup _ => exact ⟨names[n], _, hlookup, hfirst⟩

/-! ## Going round -/

/-- A trail that visits a name twice leads to a name from which it goes round. -/
lemma exists_round (h : Trail aliases names operand other) (hdup : ¬ names.Nodup) :
    ∃ before name round, Trail aliases before operand (.symbol name) ∧
      Trail aliases (name :: round) (.symbol name) (.symbol name) := by
  induction h with
  | refl => exact absurd List.nodup_nil hdup
  | inner _ ih =>
    obtain ⟨before, name, round, hbefore, hround⟩ := ih hdup
    exact ⟨before, name, round, .inner hbefore, hround⟩
  | @hop names name target other hlookup h ih =>
    by_cases hmem : name ∈ names
    · -- the trail comes back to its first name
      obtain ⟨round, rest, rfl⟩ := List.append_of_mem hmem
      exact ⟨[], name, round, .refl _, .hop hlookup h.exists_of_append.1⟩
    · obtain ⟨before, again, round, hbefore, hround⟩ := ih fun hnodup =>
        hdup (List.nodup_cons.2 ⟨hmem, hnodup⟩)
      exact ⟨name :: before, again, round, .hop hlookup hbefore, hround⟩

/-- Going round any number of times. -/
lemma exists_rounds (h : Trail aliases (name :: names) (.symbol name) (.symbol name)) (n : Nat) :
    ∃ rounds, Trail aliases rounds (.symbol name) (.symbol name) ∧ n ≤ rounds.length := by
  induction n with
  | zero => exact ⟨[], .refl _, Nat.zero_le _⟩
  | succ n ih =>
    obtain ⟨rounds, hrounds, hn⟩ := ih
    exact ⟨_, h.trans hrounds, by simp; omega⟩

/-- **A trail that visits a name twice can be made as long as wanted.** -/
lemma exists_longer (h : Trail aliases names operand other) (hdup : ¬ names.Nodup) (n : Nat) :
    ∃ names other, Trail aliases names operand other ∧ n ≤ names.length := by
  obtain ⟨before, name, round, hbefore, hround⟩ := h.exists_round hdup
  obtain ⟨rounds, hrounds, hn⟩ := hround.exists_rounds n
  exact ⟨_, _, hbefore.trans hrounds, by simp; omega⟩

end Trail

end Operand

end RegisterMachine
