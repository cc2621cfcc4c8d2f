import RegisterMachine.Proofs.Text.LowerCase
import RegisterMachine.Register

set_option autoImplicit false
set_option relaxedAutoImplicit false

/-!
# Registers as a store

A register name may be spelled in any letter case, and its lower-case spelling denotes the same
register. A write to a register changes what that register holds and no other.

## Main definitions

* `RegisterMachine.RegisterName.kept` — what a register holds after a number is written to it.

## Main results

* `RegisterMachine.RegisterName.find?_eq_some_iff` — a text denotes the register that it names.
* `RegisterMachine.RegisterName.find?_lower` — lower-casing a name does not change what it denotes.
* `RegisterMachine.Registers.exists_set?_of_get?` — a write changes one register.
* `RegisterMachine.Registers.set?_of_get?` — writing back what a register holds changes nothing.
-/

namespace RegisterMachine

namespace RegisterName

/-- What a register holds after a number is written to it: a flag only takes whether the number
differs from zero, and the register that is always zero takes nothing. -/
def kept (value : Number) : RegisterName → Number
  | .general _ => value
  | .flag _ => .int (if value.isZero then 0 else 1)
  | .zero => .zero

/-! ## Names and the registers that they denote -/

/-- The index of a general register comes back from its spelling. -/
lemma indexOf_toString (index : Nat) : indexOf (toString index).toList = index := by
  rw [Nat.toString_eq_ofList_toDigits, String.toList_ofList, indexOf, ← Nat.ofDigitChars_eq_foldl]
  exact Nat.ofDigitChars_ten_toDigits

/-- The name of a general register starts with its letter. -/
lemma toList_text_general (index : Nat) :
    (general index).text.toList = 'r' :: (toString index).toList := by
  simp [text, String.toList_append]

/-- Only the names of general registers start with that letter. -/
lemma head?_text_eq_iff {name : RegisterName} :
    name.text.toList.head? = some 'r' ↔ ∃ index, name = general index := by
  cases name with
  | general index => simp [toList_text_general]
  | flag f => cases f <;> simp [text, Flag.text]
  | zero => simp [text]

/-- No two registers have the same name. -/
lemma text_injective : Function.Injective text := by
  intro a b h
  have hgeneral : (∃ i, a = general i) ↔ ∃ j, b = general j := by
    rw [← head?_text_eq_iff, h, head?_text_eq_iff]
  by_cases ha : ∃ i, a = general i
  · obtain ⟨i, rfl⟩ := ha
    obtain ⟨j, rfl⟩ := hgeneral.1 ⟨i, rfl⟩
    have hdigits : (toString i).toList = (toString j).toList := by
      have hlists := congrArg String.toList h
      rw [toList_text_general, toList_text_general] at hlists
      exact (List.cons.inj hlists).2
    rw [← indexOf_toString i, hdigits, indexOf_toString]
  · -- what is left are the flags and the register that is always zero
    have hb : ¬ ∃ j, b = general j := fun hj => ha (hgeneral.2 hj)
    cases a with
    | general i => exact absurd ⟨i, rfl⟩ ha
    | flag f =>
      cases b with
      | general j => exact absurd ⟨j, rfl⟩ hb
      | flag g => cases f <;> cases g <;> simp_all [text, Flag.text]
      | zero => cases f <;> simp [text, Flag.text] at h
    | zero =>
      cases b with
      | general j => exact absurd ⟨j, rfl⟩ hb
      | flag g => cases g <;> simp [text, Flag.text] at h
      | zero => rfl

/-- A register is among the candidates for its name. -/
lemma mem_candidates_text (name : RegisterName) : name ∈ candidates name.text := by
  cases name with
  | general index =>
    rw [candidates, toList_text_general, List.drop_one, List.tail_cons, indexOf_toString]
    simp
  | flag f => cases f <;> simp [candidates, Flag.all]
  | zero => simp [candidates]

/-- A lower-case text denotes the register that has it for its name. -/
lemma ofText?_eq_some_iff {text : String} {name : RegisterName} :
    ofText? text = some name ↔ name.text = text := by
  constructor
  · intro h
    simpa using List.find?_some h
  · rintro rfl
    cases hfind : ofText? name.text with
    | some found =>
      have htext : found.text = name.text := by simpa using List.find?_some hfind
      rw [text_injective htext]
    | none =>
      have hnone := List.find?_eq_none.1 hfind name (mem_candidates_text name)
      simp at hnone

/-- The registers of a machine are those within its count. -/
lemma mem_all_iff {count : Nat} {name : RegisterName} : name ∈ all count ↔ name.isWithin count := by
  cases name with
  | general index => simp [all, isWithin]
  | flag f => cases f <;> simp [all, isWithin, Flag.all]
  | zero => simp [all, isWithin]

/-- **A text denotes the register of the machine that its lower-case spelling names.** -/
lemma find?_eq_some_iff {count : Nat} {text : String} {name : RegisterName} :
    find? count text = some name ↔ name ∈ all count ∧ name.text = Text.lower text := by
  rw [find?, Option.filter_eq_some_iff, ofText?_eq_some_iff, mem_all_iff, and_comm]

/-- Lower-casing a name does not change which register it denotes. -/
lemma find?_lower {count : Nat} {name : String} {register : RegisterName}
    (h : find? count name = some register) : find? count (Text.lower name) = some register := by
  rw [find?, Text.lower_lower]
  exact h

/-- The name of a register starts with a small letter. -/
lemma exists_head?_text (name : RegisterName) :
    ∃ c, name.text.toList.head? = some c ∧ 0x61 ≤ c.toNat := by
  cases name with
  | general index => exact ⟨'r', by simp [toList_text_general], by decide⟩
  | flag f => cases f <;> exact ⟨_, rfl, by decide⟩
  | zero => exact ⟨'z', rfl, by decide⟩

/-- **A text in lower case names no register unless it starts with a small letter.** -/
lemma find?_eq_none_of_head? {count : Nat} {text : String}
    (hsettled : ∀ c ∈ text.toList, Text.IsSettled c)
    (hhead : ∀ c ∈ text.toList.head?, c.toNat < 0x61) : find? count text = none := by
  have hlower : Text.lower text = text := by
    rw [Text.lower, Text.lowerAfter_of_isSettled hsettled, String.ofList_toList]
  refine Option.eq_none_iff_forall_ne_some.2 fun name hfind => ?_
  obtain ⟨-, hname⟩ := find?_eq_some_iff.1 hfind
  obtain ⟨c, hc, hletter⟩ := exists_head?_text name
  rw [hname, hlower] at hc
  exact absurd (hhead c hc) (Nat.not_lt.2 hletter)

end RegisterName

/-! ## Contents of registers -/

namespace Flags

/-- A flag that is set changes, the others stay. -/
lemma get_set (flags : Flags) (value : Bool) (flag other : Flag) :
    (flags.set value flag).get other = if other = flag then value else flags.get other := by
  cases flag <;> cases other <;> rfl

/-- Setting a flag to its value changes nothing. -/
lemma set_get (flags : Flags) (flag : Flag) : flags.set (flags.get flag) flag = flags := by
  cases flag <;> rfl

end Flags

namespace Registers

variable {registers : Registers} {name : RegisterName}

/-- A register that a name denotes has a content. -/
lemma exists_get?_of_find? {text : String}
    (h : RegisterName.find? registers.general.size text = some name) :
    ∃ value, registers.get? name = some value := by
  have hwithin : name.isWithin registers.general.size := (Option.filter_eq_some_iff.1 h).2
  cases name with
  | general index =>
    have hlt : index < registers.general.size := by simpa [RegisterName.isWithin] using hwithin
    exact ⟨registers.general[index], by simp [get?, hlt]⟩
  | flag flag => exact ⟨_, rfl⟩
  | zero => exact ⟨_, rfl⟩

/-- A write to a register that exists changes its content and no other. -/
lemma exists_set?_of_get? {old : Number} (h : registers.get? name = some old) (value : Number) :
    ∃ after, registers.set? name value = some after ∧
      after.general.size = registers.general.size ∧
      ∀ other, after.get? other =
        if other = name then some (name.kept value)
        else registers.get? other := by
  cases name with
  | general index =>
    have hlt : index < registers.general.size := (Array.getElem?_eq_some_iff.1 h).1
    refine ⟨_, if_pos hlt, by simp, fun other => ?_⟩
    cases other with
    | general i =>
      by_cases hi : i = index
      · subst hi
        simp [get?, hlt, RegisterName.kept]
      · simp [get?, hi, Array.getElem?_setIfInBounds_ne (Ne.symm hi)]
    | flag flag => simp [get?]
    | zero => simp [get?]
  | flag flag =>
    refine ⟨_, rfl, rfl, fun other => ?_⟩
    cases other with
    | general i => simp [get?]
    | flag g =>
      by_cases hg : g = flag
      · subst hg
        cases hz : value.isZero <;> simp [get?, Flags.get_set, RegisterName.kept, hz]
      · simp [get?, Flags.get_set, hg]
    | zero => simp [get?]
  | zero =>
    refine ⟨registers, rfl, rfl, fun other => ?_⟩
    by_cases hother : other = .zero
    · subst hother
      rfl
    · rw [if_neg hother]

/-- Writing its own content to a register changes nothing. -/
lemma set?_of_get? {value : Number} (h : registers.get? name = some value) :
    registers.set? name value = some registers := by
  cases name with
  | general index =>
    obtain ⟨hlt, rfl⟩ := Array.getElem?_eq_some_iff.1 h
    simp [set?, hlt, Array.setIfInBounds_def]
  | flag flag =>
    obtain rfl : Number.int (if registers.flags.get flag then 1 else 0) = value := by
      simpa [get?] using h
    have hz : (!(Number.int (if registers.flags.get flag then 1 else 0)).isZero) =
        registers.flags.get flag := by
      cases registers.flags.get flag <;> rfl
    simp only [set?, hz, Flags.set_get]
  | zero => rfl

/-- A register is read under any spelling of its name. -/
lemma read_lower {text : String}
    (h : (RegisterName.find? registers.general.size text).isSome) :
    registers.read (Text.lower text) = registers.read text := by
  obtain ⟨register, hfind⟩ := Option.isSome_iff_exists.1 h
  obtain ⟨value, hvalue⟩ := exists_get?_of_find? hfind
  simp [read, hfind, RegisterName.find?_lower hfind, hvalue]

/-- A register is written under any spelling of its name. -/
lemma write_lower {text : String}
    (h : (RegisterName.find? registers.general.size text).isSome) (value : Number) :
    registers.write (Text.lower text) value = registers.write text value := by
  obtain ⟨register, hfind⟩ := Option.isSome_iff_exists.1 h
  obtain ⟨old, hold⟩ := exists_get?_of_find? hfind
  obtain ⟨after, hafter, -⟩ := exists_set?_of_get? hold value
  simp [write, hfind, RegisterName.find?_lower hfind, hafter]

end Registers

end RegisterMachine
