import RegisterMachine.Proofs.Calls
import RegisterMachine.Proofs.Number.Integral
import RegisterMachine.Proofs.Store.Failure

set_option autoImplicit false
set_option relaxedAutoImplicit false

/-!
# Memory as a store

A cell has an integer for its name, and an address names the integer of the same value, however it
is spelled. An access to a cell that exists succeeds, and a read takes what has been written last.
Any other access fails and changes nothing. It is reported as one that is out of bounds, unless the
address has too many digits for the report.

## Main definitions

* `RegisterMachine.Address.Names` — the integer that an address names.
* `RegisterMachine.Address.IsOverlong` — the addresses that cannot be shown.
* `RegisterMachine.Memory.Call` — the calls of a memory.

## Main results

* `RegisterMachine.Memory.index_eq_ok_iff` — which addresses denote a cell.
* `RegisterMachine.Memory.cause_of_index` — how the others are refused.
* `RegisterMachine.Memory.cells_hold_the_last_write` — what a sequence of calls leaves in the cells.
* `RegisterMachine.Memory.overlong_address_is_no_fault_of_bounds` — an address that is not reported
  as out of bounds.
-/

namespace RegisterMachine

/-! ## What addresses name -/

namespace Address

/-- An address names the integer of the same value. Truth values and texts name none, and neither
do doubles that are not whole. -/
inductive Names : Address → Int → Prop
  | int (n : Int) : Names (.number (.int n)) n
  | double {x : Float} {n : Int} (hvalue : (Number.double x).value? = some ((n : ℝ) : EReal)) :
      Names (.number (.double x)) n

/-- An address is an integer with more digits than are written in decimal. -/
inductive IsOverlong : Address → Prop
  | int {n : Int} (h : Nat.pow 10 DigitLimit.limit ≤ n.natAbs) : IsOverlong (.number (.int n))

variable {x : Float} {m n : Int}

@[simp]
lemma names_int_iff : Names (.number (.int m)) n ↔ m = n := by
  constructor
  · rintro ⟨⟩
    rfl
  · rintro rfl
    exact .int m

/-- A double names the integer that it equals. -/
lemma names_double_iff : Names (.number (.double x)) n ↔ Double.toInt? x = some n := by
  have hvalue : Double.toInt? x = some n ↔
      (Number.double x).value? = some ((n : ℝ) : EReal) := Exact.toInt?_eq_some_iff
  rw [hvalue]
  constructor
  · rintro ⟨⟩
    assumption
  · exact .double

instance (address : Address) (n : Int) : Decidable (address.Names n) :=
  match address with
  | .number (.int _) => decidable_of_iff _ names_int_iff.symm
  | .number (.double _) => decidable_of_iff _ names_double_iff.symm
  | .number (.truth _) => .isFalse nofun
  | .text _ => .isFalse nofun

end Address

namespace Memory

section Index

variable {memory : Memory} {address : Address} {i : Nat} {n : Int} {cause : Cause}

/-! ## The cell of an address -/

lemma indexOfInt_eq_ok_iff :
    memory.indexOfInt n = .ok i ↔ n = i ∧ (i : Int) < memory.capacity := by
  unfold indexOfInt
  split
  · next hrange =>
    simp only [Bool.and_eq_true, decide_eq_true_eq] at hrange
    rw [Except.ok.injEq]
    omega
  · next hrange =>
    simp only [Bool.and_eq_true, decide_eq_true_eq] at hrange
    split
    · simp only [reduceCtorEq, false_iff]
      omega
    · simp only [reduceCtorEq, false_iff]
      omega

/-- **An address denotes a cell if it names an integer from zero to below the capacity**, and then
the cell with this number. -/
lemma index_eq_ok_iff :
    memory.index address = .ok i ↔ address.Names i ∧ (i : Int) < memory.capacity := by
  cases address with
  | text s => simpa [index] using nofun
  | number a =>
    cases a with
    | truth b => simpa [index] using nofun
    | int m => rw [index, indexOfInt_eq_ok_iff, Address.names_int_iff]
    | double x =>
      rw [Address.names_double_iff, index]
      cases Double.toInt? x with
      | none => simp
      | some m => rw [indexOfInt_eq_ok_iff, Option.some.injEq]

/-- An integer that denotes no cell is reported as out of bounds, unless it has too many digits. -/
lemma cause_of_indexOfInt (h : memory.indexOfInt n = .error cause) :
    (Nat.pow 10 DigitLimit.limit ≤ n.natAbs ∧ cause = .outOfRange .integerTooLong) ∨
      (n.natAbs < Nat.pow 10 DigitLimit.limit ∧ cause.kind = .memoryOutOfBounds) := by
  unfold indexOfInt at h
  split at h
  · cases h
  · by_cases hlong : Nat.pow 10 DigitLimit.limit ≤ n.natAbs
    · rw [decimalText, if_pos hlong] at h
      cases h
      exact .inl ⟨hlong, rfl⟩
    · rw [decimalText, if_neg hlong] at h
      cases h
      exact .inr ⟨Nat.not_le.1 hlong, rfl⟩

/-- **An address that denotes no cell is reported as out of bounds**, unless it is an integer with
too many digits. -/
lemma cause_of_index (h : memory.index address = .error cause) :
    (address.IsOverlong ∧ cause = .outOfRange .integerTooLong) ∨
      (¬ address.IsOverlong ∧ cause.kind = .memoryOutOfBounds) := by
  cases address with
  | text s =>
    cases h
    exact .inr ⟨nofun, rfl⟩
  | number a =>
    cases a with
    | truth b =>
      cases h
      exact .inr ⟨nofun, rfl⟩
    | int m =>
      have hindex : memory.indexOfInt m = .error cause := h
      obtain ⟨hlong, hcause⟩ | ⟨hshort, hcause⟩ := cause_of_indexOfInt hindex
      · exact .inl ⟨.int hlong, hcause⟩
      · refine .inr ⟨fun hoverlong => ?_, hcause⟩
        cases hoverlong with
        | int hlong => exact Nat.not_le.2 hshort hlong
    | double x =>
      refine .inr ⟨nofun, ?_⟩
      rw [index] at h
      split at h
      · next m hm =>
        -- doubles end long before the integers that cannot be shown
        have hshort : m.natAbs < Nat.pow 10 DigitLimit.limit :=
          Nat.lt_of_le_of_lt (Double.natAbs_le_of_toInt? hm) Double.largest_lt_limit
        exact ((cause_of_indexOfInt h).resolve_left fun hlong => Nat.not_le.2 hshort hlong.1).2
      · cases h
        rfl

end Index

/-! ## Calls -/

/-- A call of a memory. -/
inductive Call
  | read (address : Address)
  | write (address : Address) (value : Number)
  deriving DecidableEq, Repr

namespace Call

/-- The address that a call accesses. -/
def address : Call → Address
  | .read address | .write address _ => address

/-- The effect of a call, which gives a number if it is a read. -/
def perform : Call → Action Memory (Option Number)
  | .read address => some <$> Action.query (·.read address)
  | .write address value => do
    Action.update (·.write address value)
    return none

/-- What a call writes to the cell with a number, if it does. -/
def written? (n : Int) : Call → Option Number
  | .read _ => none
  | .write address value => if address.Names n then some value else none

end Call

variable {call : Call} {memory : Memory}

/-- A read takes the content of the cell that its address denotes. -/
lemma perform_read (address : Address) (memory : Memory) :
    (Call.read address).perform memory =
      match memory.index address with
      | .ok i => .ok (some (memory.cells[i]?.getD .zero)) memory
      | .error cause => .error cause memory := by
  cases hindex : memory.index address <;> simp [Call.perform, read, hindex]

/-- A write changes the cell that its address denotes. -/
lemma perform_write (address : Address) (value : Number) (memory : Memory) :
    (Call.write address value).perform memory =
      match memory.index address with
      | .ok i => .ok none (memory.set i value)
      | .error cause => .error cause memory := by
  cases hindex : memory.index address <;> simp [Call.perform, write, hindex]

/-- A call by an address that denotes no cell fails and changes nothing. -/
lemma perform_of_index_eq_error {cause : Cause} (h : memory.index call.address = .error cause) :
    call.perform memory = .error cause memory := by
  cases call with
  | read address =>
    have hindex : memory.index address = .error cause := h
    rw [perform_read, hindex]
  | write address value =>
    have hindex : memory.index address = .error cause := h
    rw [perform_write, hindex]

/-- A read leaves everything as it is. -/
lemma leave_read (address : Address) (memory : Memory) :
    (Call.read address).perform.leave memory = memory := by
  rw [Action.leave, perform_read]
  cases memory.index address <;> rfl

/-- What a write leaves. -/
lemma leave_write (address : Address) (value : Number) (memory : Memory) :
    (Call.write address value).perform.leave memory =
      match memory.index address with
      | .ok i => memory.set i value
      | .error _ => memory := by
  rw [Action.leave, perform_write]
  cases memory.index address <;> rfl

/-- A call keeps the capacity. -/
lemma capacity_leave (call : Call) (memory : Memory) :
    (call.perform.leave memory).capacity = memory.capacity := by
  cases call with
  | read address => rw [leave_read]
  | write address value =>
    rw [leave_write]
    cases memory.index address <;> rfl

/-- **A call changes the cell that it writes to**, and no other. -/
lemma content_leave (call : Call) {i : Nat} (hi : (i : Int) < memory.capacity) :
    (call.perform.leave memory).cells[i]?.getD .zero =
      (call.written? i).getD (memory.cells[i]?.getD .zero) := by
  cases call with
  | read address =>
    rw [leave_read]
    rfl
  | write address value =>
    rw [leave_write, Call.written?]
    by_cases hnames : address.Names i
    · have hindex : memory.index address = .ok i := index_eq_ok_iff.2 ⟨hnames, hi⟩
      simp [hindex, hnames, getElem?_set (lt_size_of_index hindex)]
    · rw [if_neg hnames]
      cases hindex : memory.index address with
      | error cause => rfl
      | ok j =>
        have hother : i ≠ j := by
          rintro rfl
          exact hnames (index_eq_ok_iff.1 hindex).1
        simp [getElem?_set (lt_size_of_index hindex), hother]

/-- **After any calls a cell holds what has been written to it last**, or zero. -/
lemma content_leaveAll {capacity : Int} {i : Nat} (hi : (i : Int) < capacity)
    (calls : List Call) :
    (Action.leaveAll Call.perform calls (fresh capacity)).cells[i]?.getD .zero =
      (calls.filterMap (Call.written? i)).getLastD .zero := by
  have hzero : (fresh capacity).cells[i]?.getD .zero = .zero := by simp [fresh, hi]
  have hcell : ∀ (call : Call) (memory : Memory), memory.capacity = (fresh capacity).capacity →
      (call.perform.leave memory).cells[i]?.getD .zero =
        (call.written? i).getD (memory.cells[i]?.getD .zero) := fun call memory hcapacity =>
    content_leave call (hcapacity ▸ hi)
  have hlast := Action.content_leaveAll Memory.capacity (·.cells[i]?.getD .zero) capacity_leave
    hcell calls
  rwa [hzero] at hlast

/-- **Cells hold the last write.** After any sequence of calls, a memory has as many cells as at
first. An address that names an integer from zero to below the capacity reads what has been written
last to an address that names the same integer, or zero if there was no such write, and can be
written to. A call by any other address fails and changes nothing. It is reported as out of bounds,
unless the address is an integer with too many digits to be shown.

**Proof sketch.** The addresses that denote the cell with a number are those that name it
(`index_eq_ok_iff`), so that a call changes a cell if it writes to such an address, and no other
(`content_leave`). That the cell then holds the last write is an induction over the calls
(`Action.content_leaveAll`). -/
theorem cells_hold_the_last_write (capacity : Int) (calls : List Call) :
    let memory := Action.leaveAll Call.perform calls (fresh capacity)
    memory.cells.size = capacity.toNat ∧
    (∀ address n, address.Names n → 0 ≤ n → n < capacity →
      (Call.read address).perform memory =
          .ok (some ((calls.filterMap (Call.written? n)).getLastD .zero)) memory ∧
        ∀ value, ∃ after, (Call.write address value).perform memory = .ok none after) ∧
    ∀ call : Call, (∀ n, call.address.Names n → n < 0 ∨ capacity ≤ n) →
      ∃ cause, call.perform memory = .error cause memory ∧
        ((call.address.IsOverlong ∧ cause = .outOfRange .integerTooLong) ∨
          (¬ call.address.IsOverlong ∧ cause.kind = .memoryOutOfBounds)) := by
  intro memory
  have hcapacity : memory.capacity = capacity :=
    Action.kept_leaveAll Memory.capacity capacity_leave calls (fresh capacity)
  have hcontent : ∀ i : Nat, (i : Int) < capacity →
      memory.cells[i]?.getD .zero = (calls.filterMap (Call.written? i)).getLastD .zero :=
    fun i hi => content_leaveAll hi calls
  clear_value memory
  refine ⟨by rw [memory.size_eq, hcapacity], fun address n hnames hlower hupper => ?_, ?_⟩
  · obtain ⟨i, rfl⟩ := Int.eq_ofNat_of_zero_le hlower
    have hindex : memory.index address = .ok i := index_eq_ok_iff.2 ⟨hnames, hcapacity ▸ hupper⟩
    refine ⟨?_, fun value => ?_⟩
    · rw [perform_read, hindex, ← hcontent i hupper]
    · rw [perform_write, hindex]
      exact ⟨_, rfl⟩
  · intro call hnone
    cases hindex : memory.index call.address with
    | ok i =>
      obtain ⟨hnames, hi⟩ := index_eq_ok_iff.1 hindex
      have houtside := hnone i hnames
      omega
    | error cause =>
      exact ⟨cause, perform_of_index_eq_error hindex, cause_of_index hindex⟩

/-- A cell is written by the name of negative zero, and not by that of a truth value. -/
theorem cells_hold_the_last_write_of_negative_zero :
    let calls : List Call :=
      [.write (.number (.double (Double.ofMagnitude true 0))) (.int 5),
        .write (.number (.truth false)) (.int 7)]
    let memory := Action.leaveAll Call.perform calls (fresh 8)
    (Call.read (.number (.int 0))).perform memory = .ok (some (.int 5)) memory ∧
      ∃ cause, (Call.read (.number (.truth false))).perform memory = .error cause memory ∧
        cause.kind = .memoryOutOfBounds := by
  intro calls memory
  have hwritten : calls.filterMap (Call.written? 0) = [.int 5] := by decide +kernel
  obtain ⟨-, hcells, hrefused⟩ := cells_hold_the_last_write 8 calls
  have hread := (hcells (.number (.int 0)) 0 (.int 0) (by decide) (by decide)).1
  rw [hwritten] at hread
  obtain ⟨cause, herror, hcause⟩ := hrefused (.read (.number (.truth false))) nofun
  exact ⟨hread, cause, herror, (hcause.resolve_left fun hoverlong => nomatch hoverlong.1).2⟩

/-- **An address with too many digits is not reported as out of bounds**, though it is. -/
theorem overlong_address_is_no_fault_of_bounds :
    let call : Call := .read (.number (.int (Nat.pow 10 DigitLimit.limit : Nat)))
    (∀ n, call.address.Names n → n < 0 ∨ 8 ≤ n) ∧
      call.perform (fresh 8) = .error (.outOfRange .integerTooLong) (fresh 8) ∧
      (Cause.outOfRange .integerTooLong).kind ≠ .memoryOutOfBounds := by
  intro call
  have hlarge : ∀ n, call.address.Names n → n < 0 ∨ 8 ≤ n := by
    intro n hnames
    have hn : ((Nat.pow 10 DigitLimit.limit : Nat) : Int) = n := Address.names_int_iff.1 hnames
    have hle : 8 ≤ Nat.pow 10 DigitLimit.limit := by decide +kernel
    exact .inr (hn ▸ Int.ofNat_le.2 hle)
  have hoverlong : call.address.IsOverlong := .int (Nat.le_of_eq (Int.natAbs_natCast _).symm)
  refine ⟨hlarge, ?_, nofun⟩
  cases hindex : (fresh 8).index call.address with
  | ok i =>
    obtain ⟨hnames, hi⟩ := index_eq_ok_iff.1 hindex
    have houtside := hlarge i hnames
    have hcapacity : (fresh 8).capacity = 8 := rfl
    omega
  | error cause =>
    obtain ⟨-, rfl⟩ := (cause_of_index hindex).resolve_right fun hshown => hshown.1 hoverlong
    exact perform_of_index_eq_error hindex

end Memory

end RegisterMachine
