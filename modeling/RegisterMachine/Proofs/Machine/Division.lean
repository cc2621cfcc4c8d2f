import RegisterMachine.Proofs.Machine.Step
import RegisterMachine.Proofs.Store.Location
import Mathlib.Algebra.Order.Ring.Int
import Mathlib.Data.Int.Order.Basic

set_option autoImplicit false
set_option relaxedAutoImplicit false

/-!
# Division that is rounded down

Quotient and remainder of integers are computed by two operations, each by itself, and belong to one
division: the quotient is rounded down, so that the remainder lies between zero and the divisor.
Neither is wrapped, so that this holds of integers of any size.

## Main definitions

* `RegisterMachine.IsFlooredDivision` — the law of a division that is rounded down.

## Main results

* `RegisterMachine.isFlooredDivision_fdiv_fmod` — the law holds of the quotient and the remainder.
* `RegisterMachine.Machine.execute_binary`, `RegisterMachine.Machine.execute_binary_error` — what an
  instruction on two operands does.
* `RegisterMachine.Machine.divisions_round_down` — the operations and the instructions obey the law.
-/

namespace RegisterMachine

/-! ## The law -/

/-- Quotient and remainder of a division that is rounded down. -/
structure IsFlooredDivision (dividend divisor quotient remainder : ℤ) : Prop where
  eq_mul_add : dividend = divisor * quotient + remainder
  sign_eq : remainder = 0 ∨ remainder.sign = divisor.sign
  abs_lt : |remainder| < |divisor|
  abs_le : |quotient| ≤ |dividend|

/-- **The quotient that is rounded down and the remainder that goes with it obey the law.** -/
lemma isFlooredDivision_fdiv_fmod (m : ℤ) {n : ℤ} (hn : n ≠ 0) :
    IsFlooredDivision m n (m.fdiv n) (m.fmod n) where
  eq_mul_add := (Int.mul_fdiv_add_fmod m n).symm
  sign_eq := by
    rcases Number.fmod_between m hn with ⟨hnonneg, hlt⟩ | ⟨hlt, hnonpos⟩
    · refine hnonneg.eq_or_lt.imp Eq.symm fun hpos => ?_
      rw [Int.sign_eq_one_of_pos hpos, Int.sign_eq_one_of_pos (hpos.trans hlt)]
    · refine hnonpos.eq_or_lt.imp id fun hneg => ?_
      rw [Int.sign_eq_neg_one_of_neg hneg, Int.sign_eq_neg_one_of_neg (hlt.trans hneg)]
  abs_lt := by
    rcases Number.fmod_between m hn with ⟨hnonneg, hlt⟩ | ⟨hlt, hnonpos⟩
    · rwa [abs_of_nonneg hnonneg, abs_of_pos (hnonneg.trans_lt hlt)]
    · rw [abs_of_nonpos hnonpos, abs_of_neg (hlt.trans_le hnonpos)]
      exact neg_lt_neg hlt
  abs_le := by
    rw [Int.abs_eq_natAbs, Int.abs_eq_natAbs]
    exact Int.ofNat_le.2 (Int.natAbs_fdiv_le_natAbs m n)

/-! ## The operations -/

namespace Number

variable {a b : Number} {m n : ℤ}

/-- An integer is zero as a number if it is zero. -/
lemma isZero_iff_of_scalar (hb : b.scalar = .int n) : b.isZero ↔ n = 0 := by
  simp [isZero, hb]

/-- The quotient of two integers, unless the divisor is zero. -/
lemma idiv_of_scalars (ha : a.scalar = .int m) (hb : b.scalar = .int n) :
    idiv a b = if n = 0 then .error .divisionByZero else .ok (.int (m.fdiv n)) := by
  simp only [idiv, isZero_iff_of_scalar hb, ha, hb]

/-- The remainder of two integers, unless the divisor is zero. -/
lemma mod_of_scalars (ha : a.scalar = .int m) (hb : b.scalar = .int n) :
    mod a b = if n = 0 then .error .divisionByZero else .ok (.int (m.fmod n)) := by
  simp only [mod, isZero_iff_of_scalar hb, ha, hb]

end Number

/-! ## The instructions -/

namespace Machine

variable {machine : Machine} {instruction : Instruction} {op : BinaryOp} {left right : Operand}
  {rest : List Operand} {a b result : Number} {location : Location} {cause : Cause}

/-- The mnemonic of an operation on two numbers is that of its instruction. -/
lemma ofMnemonic?_mnemonic (op : BinaryOp) :
    Opcode.ofMnemonic? op.mnemonic = some (.binary op) := by
  cases op <;> decide +kernel

section Binary

variable (hmnemonic : instruction.mnemonic = op.mnemonic)
  (hoperands : instruction.operands = left :: right :: rest)
  (hleft : machine.store.read left = .ok a) (hright : machine.store.read right = .ok b)

include hmnemonic hoperands hleft hright

/-- An instruction on two operands puts the result to where the first operand is. -/
lemma execute_binary (hlocate : machine.store.locate left = .ok location)
    (hresult : op.apply a b = .ok result) :
    execute instruction machine =
      .ok () { machine with store := machine.store.put result location } := by
  have hopcode : Opcode.ofMnemonic? instruction.mnemonic = some (.binary op) := by
    rw [hmnemonic, ofMnemonic?_mnemonic]
  have hwrite : Store.write left result machine.store =
      .ok () (machine.store.put result location) := by
    rw [Store.write_eq_locate, hlocate]
  refine execute_of_effect hopcode ?_
  rw [hoperands]
  exact .binary hleft hright hresult hwrite

/-- An instruction on two operands fails where its operation does, and changes nothing. -/
lemma execute_binary_error (herror : op.apply a b = .error cause) :
    execute instruction machine = .error cause machine := by
  have hopcode : Opcode.ofMnemonic? instruction.mnemonic = some (.binary op) := by
    rw [hmnemonic, ofMnemonic?_mnemonic]
  simp [execute_def, hopcode, hoperands, perform, performOn, applyBinary, value, hleft, hright,
    herror]

end Binary

/-- **Division rounds down.** The quotient and the remainder of two integers of any size, each
computed by an operation of its own, fail if the divisor is zero, and only then. Otherwise both are
integers, the dividend is the divisor times the quotient and the remainder in addition, the
remainder is zero or has the sign of the divisor and is smaller than it in magnitude, and the
quotient is no larger in magnitude than the dividend. An instruction for one of the operations, on
two operands that hold the integers, fails with a divisor that is zero and changes nothing.
Otherwise it writes what the operation gives to the location of the first operand and changes no
other location: a general register holds exactly that number, a flag whether it differs from zero.

**Proof sketch.** The remainder lies between zero and the divisor (`Number.fmod_between`), from
which the law follows for all signs (`isFlooredDivision_fdiv_fmod`). An instruction takes its result
from the operation (`execute_binary`), and a general register keeps every number. -/
theorem divisions_round_down {a b : Number} {m n : ℤ} (ha : a.scalar = .int m)
    (hb : b.scalar = .int n) :
    (Number.idiv a b = .error .divisionByZero ↔ n = 0) ∧
    (Number.mod a b = .error .divisionByZero ↔ n = 0) ∧
    (n ≠ 0 → ∃ q r : ℤ, Number.idiv a b = .ok (.int q) ∧ Number.mod a b = .ok (.int r) ∧
      IsFlooredDivision m n q r) ∧
    ∀ (machine : Machine) (instruction : Instruction) (op : BinaryOp) (left right : Operand)
      (rest : List Operand) (target : Location), op = .idiv ∨ op = .mod →
      instruction.mnemonic = op.mnemonic → instruction.operands = left :: right :: rest →
      machine.store.locate left = .ok target →
      machine.store.read left = .ok a → machine.store.read right = .ok b →
        (n = 0 → execute instruction machine = .error .divisionByZero machine) ∧
        (n ≠ 0 → ∃ result store, op.apply a b = .ok result ∧
          execute instruction machine = .ok () { machine with store } ∧
          (∀ index, target = .register (.general index) → store.content? target = some result) ∧
          store.aliases = machine.store.aliases ∧
          ∀ location, store.content? location =
            if location = target then some (target.kept result)
            else machine.store.content? location) := by
  have hidiv := Number.idiv_of_scalars ha hb
  have hmod := Number.mod_of_scalars ha hb
  refine ⟨by simp [hidiv], by simp [hmod], fun hn => ?_, ?_⟩
  · exact ⟨_, _, by rw [hidiv, if_neg hn], by rw [hmod, if_neg hn],
      isFlooredDivision_fdiv_fmod m hn⟩
  · intro machine instruction op left right rest target hop hmnemonic hoperands hlocate hleft hright
    have happly : ∃ value : ℤ, op.apply a b =
        if n = 0 then .error .divisionByZero else .ok (.int value) := by
      rcases hop with rfl | rfl
      · exact ⟨_, hidiv⟩
      · exact ⟨_, hmod⟩
    obtain ⟨value, happly⟩ := happly
    refine ⟨fun hn => ?_, fun hn => ?_⟩
    · rw [if_pos hn] at happly
      exact execute_binary_error hmnemonic hoperands hleft hright happly
    · rw [if_neg hn] at happly
      obtain ⟨old, hold, -⟩ := Store.read_of_locate hlocate
      have hcontent := Store.content?_put hold (.int value)
      refine ⟨.int value, _, happly,
        execute_binary hmnemonic hoperands hleft hright hlocate happly, ?_,
        Store.aliases_put _, hcontent⟩
      rintro index rfl
      rw [hcontent, if_pos rfl]
      rfl

/-- The least integer of 64 bits divided by minus one gives an integer of 65 bits, which a register
holds as it is. -/
theorem divisions_round_down_of_least :
    let division : Instruction := ⟨"idiv", [.register "R0", .register "r1"], 3, "idiv R0, r1"⟩
    let program : Program :=
      { instructions :=
          #[⟨"mov", [.register "r0", .literal "-0x8000000000000000" (.int (-0x8000000000000000))],
              1, "mov r0, -0x8000000000000000"⟩,
            ⟨"mov", [.register "r1", .literal "-1" (.int (-1))], 2, "mov r1, -1"⟩, division] }
    let machine := step^[2] (fresh .default .freshCapture program)
    Program.link .default "mov r0, -0x8000000000000000\nmov r1, -1\nidiv R0, r1" = .ok program ∧
      IsFlooredDivision (-0x8000000000000000) (-1) 0x8000000000000000 0 ∧
      ∃ store, execute division machine = .ok () { machine with store } ∧
        store.content? (.register (.general 0)) = some (.int 0x8000000000000000) ∧
        store.content? (.register (.general 1)) = some (.int (-1)) := by
  intro division program machine
  have hlink : Program.link .default
      "mov r0, -0x8000000000000000\nmov r1, -1\nidiv R0, r1" = .ok program := by decide +kernel
  have hlocate : machine.store.locate (.register "R0") = .ok (.register (.general 0)) := by
    decide +kernel
  have hleft : machine.store.read (.register "R0") = .ok (.int (-0x8000000000000000)) := by
    decide +kernel
  have hright : machine.store.read (.register "r1") = .ok (.int (-1)) := by decide +kernel
  have hother : machine.store.content? (.register (.general 1)) = some (.int (-1)) := by
    decide +kernel
  have hidiv : Number.idiv (.int (-0x8000000000000000)) (.int (-1)) =
      .ok (.int 0x8000000000000000) := by decide +kernel
  have hmod : Number.mod (.int (-0x8000000000000000)) (.int (-1)) = .ok (.int 0) := by
    decide +kernel
  obtain ⟨-, -, hlaw, hexecute⟩ := divisions_round_down
    (rfl : (Number.int (-0x8000000000000000)).scalar = .int (-0x8000000000000000))
    (rfl : (Number.int (-1)).scalar = .int (-1))
  obtain ⟨q, r, hq, hr, hdivision⟩ := hlaw (by decide)
  cases hidiv.symm.trans hq
  cases hmod.symm.trans hr
  obtain ⟨-, hstores⟩ := hexecute machine division .idiv _ _ [] _ (.inl rfl) rfl rfl hlocate hleft
    hright
  obtain ⟨result, store, hresult, hstored, hheld, -, hcontent⟩ := hstores (by decide)
  obtain rfl : .int 0x8000000000000000 = result := Except.ok.inj (hidiv.symm.trans hresult)
  exact ⟨hlink, hdivision, store, hstored, hheld 0 rfl,
    by rw [hcontent, if_neg (by decide), hother]⟩

end Machine

end RegisterMachine
