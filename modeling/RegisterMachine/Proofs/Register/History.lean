import RegisterMachine.Proofs.Calls
import RegisterMachine.Proofs.Number.Order
import RegisterMachine.Proofs.Register

set_option autoImplicit false
set_option relaxedAutoImplicit false

/-!
# Histories of registers

Registers are written by their names, in any letter case, and by comparisons, which write to three
of the flags. A register reads what has been written to it last. A flag is told whether a number
differs from zero, and the register that is always zero is told nothing.

## Main definitions

* `RegisterMachine.Flag.condition?` — the condition that a comparison writes to a flag.
* `RegisterMachine.Registers.Call` — the calls that write to registers.
* `RegisterMachine.Registers.Call.written?` — what a call writes to a register.

## Main results

* `RegisterMachine.Registers.content_leave` — a call changes the registers that it writes to.
* `RegisterMachine.Registers.registers_hold_the_last_write` — what a sequence of calls leaves in the
  registers.
-/

namespace RegisterMachine

/-- The condition that a comparison writes to a flag. -/
def Flag.condition? : Flag → Option Condition
  | .eq => some .equal
  | .lt => some .less
  | .gt => some .greater
  | .carry | .overflow | .negative => none

/-- What a flag reads: one if a proposition holds, otherwise zero. -/
def Number.bit (p : Prop) [Decidable p] : Number :=
  .int (if p then 1 else 0)

/-- A text is the name of a register, in any letter case. -/
def RegisterName.IsName (count : Nat) (name : String) : Prop :=
  ∃ register ∈ all count, Text.lower name = register.text

instance (count : Nat) (name : String) : Decidable (RegisterName.IsName count name) :=
  inferInstanceAs (Decidable (∃ register ∈ RegisterName.all count, _))

namespace Registers

/-! ## Calls -/

/-- A call that writes to registers. -/
inductive Call
  | set (name : String) (value : Number)
  | compare (a b : Number)
  deriving DecidableEq, Repr

namespace Call

/-- The effect of a call. -/
def perform : Call → Action Registers Unit
  | .set name value => Action.update (·.write name value)
  | .compare a b => modify (·.compare a b)

/-- What a call writes to a register, if it does. -/
def written? : RegisterName → Call → Option Number
  | .general index, .set name value =>
    if Text.lower name = (RegisterName.general index).text then some value else none
  | .general _, .compare _ _ => none
  | .flag flag, .set name value =>
    if Text.lower name = flag.text then some (.bit (Condition.notEqual.Relates value .zero))
    else none
  | .flag flag, .compare a b =>
    flag.condition?.map fun condition => .bit (condition.Relates a b)
  | .zero, _ => none

end Call

variable {count : Nat} {registers : Registers} {register : RegisterName} {name : String}

/-- What a register holds. -/
def content (register : RegisterName) (registers : Registers) : Number :=
  (registers.get? register).getD .zero

/-- A register that exists is read by its name, in any letter case. -/
lemma read_of_mem (hregister : register ∈ RegisterName.all registers.general.size)
    (hname : Text.lower name = register.text) :
    registers.read name = .ok (registers.content register) := by
  have hfind := RegisterName.find?_eq_some_iff.2 ⟨hregister, hname.symm⟩
  obtain ⟨value, hvalue⟩ := exists_get?_of_find? hfind
  simp [read, hfind, content, hvalue]

/-- A text that is no name denotes no register. -/
lemma find?_eq_none (h : ¬ RegisterName.IsName count name) :
    RegisterName.find? count name = none := by
  refine Option.eq_none_iff_forall_ne_some.2 fun register hfind => h ?_
  obtain ⟨hregister, htext⟩ := RegisterName.find?_eq_some_iff.1 hfind
  exact ⟨register, hregister, htext.symm⟩

/-- A text that is no name cannot be read. -/
lemma read_of_not_isName (h : ¬ RegisterName.IsName registers.general.size name) :
    registers.read name = .error (.invalidRegister name) := by
  simp [read, find?_eq_none h]

/-- A text reads the same if the register with this name holds the same. -/
lemma read_congr {others : Registers} (hsize : others.general.size = registers.general.size)
    (h : ∀ register, Text.lower name = register.text →
      others.content register = registers.content register) :
    others.read name = registers.read name := by
  by_cases hname : RegisterName.IsName registers.general.size name
  · obtain ⟨register, hregister, hname⟩ := hname
    rw [read_of_mem hregister hname, read_of_mem (hsize ▸ hregister) hname, h register hname]
  · rw [read_of_not_isName hname, read_of_not_isName (hsize ▸ hname)]

/-! ## Writes by name -/

/-- A write by the name of a register changes what that register holds, and no other. -/
lemma exists_perform_set (hregister : register ∈ RegisterName.all registers.general.size)
    (hname : Text.lower name = register.text) (value : Number) :
    ∃ after, (Call.set name value).perform registers = .ok () after ∧
      after.general.size = registers.general.size ∧
      ∀ other, after.content other =
        if other = register then register.kept value else registers.content other := by
  have hfind := RegisterName.find?_eq_some_iff.2 ⟨hregister, hname.symm⟩
  obtain ⟨old, hold⟩ := exists_get?_of_find? hfind
  obtain ⟨after, hset, hsize, hget⟩ := exists_set?_of_get? hold value
  refine ⟨after, by simp [Call.perform, write, hfind, hset], hsize, fun other => ?_⟩
  rw [content, hget]
  split
  · rfl
  · rfl

/-- A write by a text that is no name fails and changes nothing. -/
lemma perform_set_of_not_isName (h : ¬ RegisterName.IsName registers.general.size name)
    (value : Number) :
    (Call.set name value).perform registers = .error (.invalidRegister name) registers := by
  simp [Call.perform, write, find?_eq_none h]

/-- A number differs from zero unless it equals zero. -/
lemma bit_notEqual_zero (value : Number) :
    Number.bit (Condition.notEqual.Relates value .zero) = .int (if value.isZero then 0 else 1) := by
  have hzero : Number.zero.value? = some 0 := by simp [Number.zero]
  have hrelates : Condition.notEqual.Relates value .zero ↔ ¬ value.isZero := by
    rw [Number.isZero_iff]
    simp [Condition.Relates, Number.Related, hzero]
  cases hisZero : value.isZero <;> simp [Number.bit, hrelates, hisZero]

/-- A write by the name of a register writes to it what it keeps. -/
lemma getD_written?_set (hname : Text.lower name = register.text) (value : Number) :
    ((Call.set name value).written? register).getD (registers.content register) =
      register.kept value := by
  cases register with
  | general index =>
    rw [Call.written?, if_pos hname]
    rfl
  | flag flag =>
    have htext : Text.lower name = flag.text := hname
    rw [Call.written?, if_pos htext, bit_notEqual_zero]
    rfl
  | zero => rfl

/-- A write by another name writes nothing to a register. -/
lemma written?_set_of_ne (hname : Text.lower name ≠ register.text) (value : Number) :
    (Call.set name value).written? register = none := by
  cases register with
  | general index => exact if_neg hname
  | flag flag => exact if_neg hname
  | zero => rfl

/-! ## Comparisons -/

/-- After a comparison a flag tells whether its condition holds. -/
lemma get_compare_iff {flag : Flag} {condition : Condition} (h : flag.condition? = some condition)
    (flags : Flags) (a b : Number) :
    (flags.compare a b).get flag = true ↔ condition.Relates a b := by
  rw [← Condition.holds_compare_iff flags]
  cases flag <;> cases h <;> rfl

/-- A comparison writes its outcome to three of the flags, and nothing to other registers. -/
lemma content_compare (registers : Registers) (a b : Number) (register : RegisterName) :
    (registers.compare a b).content register =
      ((Call.compare a b).written? register).getD (registers.content register) := by
  cases register with
  | general index => rfl
  | zero => rfl
  | flag flag =>
    cases hcondition : flag.condition? with
    | some condition =>
      simp [content, get?, compare, Call.written?, Number.bit, hcondition,
        get_compare_iff hcondition]
    | none =>
      cases flag with
      | eq | lt | gt => cases hcondition
      | carry | overflow | negative => rfl

/-- A comparison changes no reading but those of its flags. -/
lemma read_compare_of_ne {a b : Number}
    (h : ∀ flag ∈ [Flag.eq, .lt, .gt], Text.lower name ≠ flag.text) :
    (registers.compare a b).read name = registers.read name := by
  refine read_congr rfl fun register hregister => ?_
  rw [content_compare]
  cases register with
  | general | zero => rfl
  | flag flag =>
    have hkeeps : flag ∉ [Flag.eq, .lt, .gt] := fun hflag => h flag hflag hregister
    cases flag with
    | eq | lt | gt => simp at hkeeps
    | carry | overflow | negative => rfl

/-! ## Sequences of calls -/

/-- A call keeps the number of general registers. -/
lemma size_leave (call : Call) (registers : Registers) :
    (call.perform.leave registers).general.size = registers.general.size := by
  cases call with
  | compare a b => rfl
  | set name value =>
    by_cases h : RegisterName.IsName registers.general.size name
    · obtain ⟨register, hregister, hname⟩ := h
      obtain ⟨after, hset, hsize, -⟩ := exists_perform_set hregister hname value
      rw [Action.leave_of_eq_ok hset, hsize]
    · rw [Action.leave_of_eq_error (perform_set_of_not_isName h value)]

/-- **A call changes the registers that it writes to**, and no others. -/
lemma content_leave (hregister : register ∈ RegisterName.all registers.general.size)
    (call : Call) :
    (call.perform.leave registers).content register =
      (call.written? register).getD (registers.content register) := by
  cases call with
  | compare a b => exact content_compare registers a b register
  | set name value =>
    by_cases h : RegisterName.IsName registers.general.size name
    · obtain ⟨target, htarget, hname⟩ := h
      obtain ⟨after, hset, -, hcontent⟩ := exists_perform_set htarget hname value
      rw [Action.leave_of_eq_ok hset, hcontent]
      split
      · next heq =>
        subst heq
        exact (getD_written?_set hname value).symm
      · next hne =>
        rw [written?_set_of_ne fun hother =>
          hne (RegisterName.text_injective (hother.symm.trans hname))]
        rfl
    · rw [Action.leave_of_eq_error (perform_set_of_not_isName h value),
        written?_set_of_ne fun hname => h ⟨register, hregister, hname⟩]
      rfl

/-- Every register holds zero at first. -/
lemma content_fresh (count : Nat) (register : RegisterName) :
    (fresh count).content register = .zero := by
  cases register with
  | general index =>
    by_cases hindex : index < count <;> simp [content, get?, fresh, hindex]
  | flag flag => cases flag <;> rfl
  | zero => rfl

/-- **After any calls a register holds what has been written to it last**, or zero. -/
lemma content_leaveAll (hregister : register ∈ RegisterName.all count) (calls : List Call) :
    (Action.leaveAll Call.perform calls (fresh count)).content register =
      (calls.filterMap (Call.written? register)).getLastD .zero := by
  have hfresh : (fresh count).general.size = count := by simp [fresh]
  have hlast := Action.content_leaveAll (·.general.size) (content register) size_leave
    (fun call registers hsize => content_leave (by rwa [hsize, hfresh]) call) calls
  rwa [content_fresh] at hlast

/-- **Registers hold the last write.** After any sequence of calls, a register reads what has been
written to it last, by its name in any letter case or by a comparison, or zero if there was no such
write: a general register the number, and a flag one or zero, for whether the number differs from
zero or whether the numbers compared are in its relation. To the register that is always zero
nothing is ever written. A text that is no name can neither be read nor written, and the attempt
changes nothing. A write by a name succeeds, and changes no reading by another name. A comparison
succeeds, and changes no reading but those of three flags.

**Proof sketch.** A call changes the registers that it writes to, and no others (`content_leave`).
That a register then holds the last write is an induction over the calls
(`Action.content_leaveAll`). -/
theorem registers_hold_the_last_write (count : Nat) (calls : List Call) :
    let registers := Action.leaveAll Call.perform calls (fresh count)
    (∀ register ∈ RegisterName.all count, ∀ name, Text.lower name = register.text →
      registers.read name = .ok ((calls.filterMap (Call.written? register)).getLastD .zero)) ∧
    (∀ name, ¬ RegisterName.IsName count name →
      registers.read name = .error (.invalidRegister name) ∧
        ∀ value, (Call.set name value).perform registers =
          .error (.invalidRegister name) registers) ∧
    (∀ name, RegisterName.IsName count name → ∀ value,
      ∃ after, (Call.set name value).perform registers = .ok () after ∧
        ∀ other, Text.lower other ≠ Text.lower name → after.read other = registers.read other) ∧
    ∀ a b, ∃ after, (Call.compare a b).perform registers = .ok () after ∧
      ∀ other, (∀ flag ∈ [Flag.eq, .lt, .gt], Text.lower other ≠ flag.text) →
        after.read other = registers.read other := by
  intro registers
  have hfresh : (fresh count).general.size = count := by simp [fresh]
  have hsize : registers.general.size = count :=
    (Action.kept_leaveAll (·.general.size) size_leave calls (fresh count)).trans hfresh
  have hcontent : ∀ register ∈ RegisterName.all count,
      registers.content register = (calls.filterMap (Call.written? register)).getLastD .zero :=
    fun register hregister => content_leaveAll hregister calls
  clear_value registers
  subst hsize
  refine ⟨fun register hregister name hname => ?_, fun name hname => ?_, ?_, fun a b => ?_⟩
  · rw [read_of_mem hregister hname, hcontent register hregister]
  · exact ⟨read_of_not_isName hname, perform_set_of_not_isName hname⟩
  · rintro name ⟨register, hregister, hname⟩ value
    obtain ⟨after, hset, hsize, hother⟩ := exists_perform_set hregister hname value
    refine ⟨after, hset, fun other hne => read_congr hsize fun target htarget => ?_⟩
    have hneq : target ≠ register := by
      rintro rfl
      exact hne (htarget.trans hname.symm)
    rw [hother, if_neg hneq]
  · exact ⟨registers.compare a b, rfl, fun other => read_compare_of_ne⟩

/-- A general register is written in capital letters; what is not a number sets a flag, which
negative zero clears. -/
theorem registers_hold_the_last_write_of_capitals :
    let calls : List Call :=
      [.set "R1" (.int 7), .set "Carry" (.double Double.nan),
        .set "negative" (.double (Double.zero true)), .compare (.int 1) (.double Double.nan)]
    let registers := Action.leaveAll Call.perform calls (fresh 2)
    registers.read "r1" = .ok (.int 7) ∧ registers.read "CARRY" = .ok (.int 1) ∧
      registers.read "negative" = .ok (.int 0) ∧ registers.read "eq" = .ok (.int 0) ∧
      registers.read "r2" = .error (.invalidRegister "r2") := by
  intro calls registers
  obtain ⟨hread, hnone, -, -⟩ := registers_hold_the_last_write 2 calls
  have hgeneral := hread (.general 1) (by decide +kernel) "r1" (by decide +kernel)
  have hcarry := hread (.flag .carry) (by decide +kernel) "CARRY" (by decide +kernel)
  have hnegative := hread (.flag .negative) (by decide +kernel) "negative" (by decide +kernel)
  have heq := hread (.flag .eq) (by decide +kernel) "eq" (by decide +kernel)
  refine ⟨hgeneral.trans ?_, hcarry.trans ?_, hnegative.trans ?_, heq.trans ?_, ?_⟩
  · decide +kernel
  · decide +kernel
  · decide +kernel
  · decide +kernel
  · exact (hnone "r2" (by decide +kernel)).1

end Registers

end RegisterMachine
