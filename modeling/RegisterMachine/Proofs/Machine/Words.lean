import RegisterMachine.Proofs.Machine.Run

set_option autoImplicit false
set_option relaxedAutoImplicit false

/-!
# Integers of 64 bits

The integers that a machine holds are words, because literals and the results of operations are. The
one operation with other results is a division that is rounded down: the quotient of the least word
and minus one is one more than the greatest word, and a quotient of doubles may be any integer that
is a double. Integers stay words up to the first such division.

## Main definitions

* `RegisterMachine.Machine.WideQuotient` — operands whose rounded quotient is no word.
* `RegisterMachine.Machine.DividesWide` — a machine about to divide such operands.

## Main results

* `RegisterMachine.Machine.Effect.holds_isWord` — the one instruction that leaves the words.
* `RegisterMachine.Machine.integers_stay_words` — integers are words up to a wide quotient.
-/

namespace RegisterMachine

open Number

/-- A number in range that is no word is an integer of more than 64 bits. -/
lemma Number.InRange.isWord_or_wide {a : Number} (h : a.InRange) :
    a.IsWord ∨ ∃ n, a = .int n ∧ (n < -0x8000000000000000 ∨ 0x7FFFFFFFFFFFFFFF < n) := by
  cases h with
  | @int n h =>
    by_cases hword : -0x8000000000000000 ≤ n ∧ n ≤ 0x7FFFFFFFFFFFFFFF
    · exact .inl (.int hword)
    · exact .inr ⟨n, rfl, by omega⟩
  | double x => exact .inl (.double x)

namespace Machine

variable {machine next : Machine} {opcode : Opcode} {operands : List Operand} {count calls : Nat}
  {program : Program}

/-- Operands whose quotient, rounded down, needs more than 64 bits. They denote the least integer of
64 bits and minus one, or one of them denotes a double. -/
inductive WideQuotient (store : Store) : List Operand → Prop
  | intro {a b : Operand} {rest : List Operand} {x y : Number} {n : Int}
      (ha : store.read a = .ok x) (hb : store.read b = .ok y)
      (hquotient : Number.idiv x y = .ok (.int n))
      (hwide : n < -0x8000000000000000 ∨ 0x7FFFFFFFFFFFFFFF < n)
      (hnumbers : (x = .int (-0x8000000000000000) ∧ y = .int (-1)) ∨
        (∃ d, x = .double d) ∨ ∃ d, y = .double d) :
      WideQuotient store (a :: b :: rest)

/-- A machine that runs and whose next step executes a division that is rounded down, without
failing, of operands whose quotient is no word. -/
def DividesWide (machine : Machine) : Prop :=
  ∃ instruction, machine.state = .running ∧ machine.step.state = .running ∧
    machine.program.fetch? (machine.pc + 1) = some instruction ∧
    instruction.mnemonic = "idiv" ∧ WideQuotient machine.store instruction.operands

/-- **An instruction keeps a store of words**, unless it divides operands whose rounded quotient is
no word. -/
lemma Effect.holds_isWord (h : Effect machine opcode operands next)
    (hstore : machine.store.IsSound count) (hwords : machine.store.Holds IsWord)
    (hoperands : ∀ operand ∈ operands, operand.IsReading count) :
    next.store.Holds IsWord ∨ (opcode = .binary .idiv ∧ WideQuotient machine.store operands) := by
  have hread : ∀ operand ∈ operands, ∀ value, machine.store.read operand = .ok value →
      value.IsWord := fun operand hmem value hvalue =>
    hwords.of_readWithin hasConstants_isWord hstore.aliases (hoperands operand hmem) hvalue
  cases h with
  | mov hsource hwrite =>
    exact .inl (hwords.write hasConstants_isWord (hread _ (by simp) _ hsource) hwrite)
  | als => exact .inl (hwords.define _ _)
  | cmp => exact .inl (hwords.compare hasConstants_isWord _ _)
  | unary ha hresult hwrite =>
    exact .inl (hwords.write hasConstants_isWord (UnaryOp.isWord_of_apply hresult) hwrite)
  | @binary op a b rest x y result store ha hb hresult hwrite =>
    have hx := hread _ (by simp) _ ha
    have hy := hread _ (by simp) _ hb
    suffices hword : result.IsWord ∨ (op = .idiv ∧ WideQuotient machine.store (a :: b :: rest)) from
      hword.imp (fun hword => hwords.write hasConstants_isWord hword hwrite) fun ⟨hop, hwide⟩ =>
        ⟨congrArg _ hop, hwide⟩
    by_cases hidiv : op = .idiv
    · subst hidiv
      obtain hword | ⟨n, rfl, hwide⟩ :=
        (BinaryOp.inRange_of_apply hx.inRange hy.inRange hresult).isWord_or_wide
      · exact .inl hword
      · obtain hword | hnumbers := isWord_of_idiv hx hy hresult
        · exact .inl hword
        · exact .inr ⟨rfl, .intro ha hb hresult hwide hnumbers⟩
    · by_cases hmod : op = .mod
      · subst hmod
        exact .inl (isWord_of_mod hy hresult)
      · exact .inl (BinaryOp.isWord_of_apply hidiv hmod hresult)
  | dbg =>
    rw [foldl_print]
    exact .inl hwords
  | _ => exact .inl hwords

/-- **A step keeps a store of words**, unless it divides operands whose rounded quotient is no
word. -/
lemma holds_isWord_step (hlinked : program.IsLinked count)
    (hsound : IsSound count program calls machine) (hwords : machine.store.Holds IsWord) :
    machine.step.store.Holds IsWord ∨ machine.DividesWide := by
  obtain hstay | ⟨hstate, hstepped⟩ := hsound.step_eq_or_stepped
  · rw [hstay]
    exact .inl hwords
  · obtain ⟨rfl, hstore, -, -⟩ := hsound
    generalize hafter : machine.step = after at hstepped
    cases hstepped with
    | ended hend => exact .inl hwords
    | executed hle hfetch hopcode heffect =>
      have hoperands := hlinked.operands _ (Program.mem_of_fetch? hfetch)
      obtain hkept | ⟨rfl, hwide⟩ := heffect.holds_isWord hstore hwords hoperands
      · exact .inl hkept
      · obtain ⟨hhalt, -⟩ | ⟨hstate', -⟩ := heffect.control
        · cases hhalt
        · refine .inr ⟨_, hstate, ?_, hfetch, Opcode.eq_mnemonic hopcode, hwide⟩
          rw [hafter]
          exact hstate'.trans hstate
    | failed hle hfetch herror hcause => exact .inl hwords

/-- **Integers stay words up to a wide quotient.** After any number of steps, every integer that a
register or a memory cell holds has 64 bits, unless an earlier step has executed an `idiv` whose
quotient has more: the least integer of 64 bits was divided by minus one, or there was a double
among the operands.

**Proof sketch.** Induction on the number of steps. A fresh store has only zeros, and a step keeps a
store of words unless it executes such a division (`holds_isWord_step`). -/
theorem integers_stay_words {config : Config} {source : String} {program : Program}
    (hlink : Program.link config source = .ok program) (host : Host) (calls : Nat) :
    let machine := fun n => step^[n] (fresh config host program)
    (∀ location n, (machine calls).store.content? location = some (.int n) →
      -0x8000000000000000 ≤ n ∧ n ≤ 0x7FFFFFFFFFFFFFFF) ∨
    ∃ earlier < calls, (machine earlier).DividesWide := by
  intro machine
  suffices hwords : (machine calls).store.Holds IsWord ∨
      ∃ earlier < calls, (machine earlier).DividesWide from
    hwords.imp_left fun hwords location n hcontent => by
      cases hwords location _ hcontent with
      | int h => exact h
  induction calls with
  | zero => exact .inl (Store.holds_fresh hasConstants_isWord _ _ _)
  | succ calls ih =>
    obtain hwords | ⟨earlier, hlt, hwide⟩ := ih
    · have hstep : (machine calls).step = machine (calls + 1) :=
        (Function.iterate_succ_apply' step calls _).symm
      rw [← hstep]
      exact (holds_isWord_step (Program.isLinked_of_link hlink)
        (isSound_iterate_step hlink host calls) hwords).imp_right
          fun hwide => ⟨calls, Nat.lt_succ_self calls, hwide⟩
    · exact .inr ⟨earlier, Nat.lt_succ_of_lt hlt, hwide⟩

/-- A program without divisions that are rounded down works on words only: the greatest word is
followed by the least. -/
theorem integers_stay_words_of_inc :
    let program : Program :=
      { instructions :=
          #[⟨"mov", [.register "r0", .literal "0x7FFFFFFFFFFFFFFF" (.int 0x7FFFFFFFFFFFFFFF)], 1,
              "mov r0, 0x7FFFFFFFFFFFFFFF"⟩,
            ⟨"inc", [.register "r0"], 2, "inc r0"⟩] }
    let machine := step^[2] (fresh .default .freshCapture program)
    Program.link .default "mov r0, 0x7FFFFFFFFFFFFFFF\ninc r0" = .ok program ∧
      machine.store.content? (.register (.general 0)) = some (.int (-0x8000000000000000)) ∧
      ∀ location n, machine.store.content? location = some (.int n) →
        -0x8000000000000000 ≤ n ∧ n ≤ 0x7FFFFFFFFFFFFFFF := by
  intro program machine
  have hlink : Program.link .default "mov r0, 0x7FFFFFFFFFFFFFFF\ninc r0" = .ok program := by
    decide +kernel
  refine ⟨hlink, by decide +kernel, ?_⟩
  obtain hwords | ⟨earlier, -, instruction, -, -, hfetch, hmnemonic, -⟩ :=
    integers_stay_words hlink .freshCapture 2
  · exact hwords
  · have hprogram : (step^[earlier] (fresh .default .freshCapture program)).program = program :=
      (isSound_iterate_step hlink .freshCapture earlier).program_eq
    have hmem := Program.mem_of_fetch? hfetch
    rw [hprogram] at hmem
    simp only [program, List.mem_toArray, List.mem_cons, List.not_mem_nil, or_false] at hmem
    rcases hmem with rfl | rfl <;> simp at hmnemonic

/-- **Integers do not stay words.** The quotient of the least word and minus one is no word. -/
theorem least_word_divided_by_minus_one :
    let source := "mov r0, -9223372036854775808\nidiv r0, -1"
    let program : Program :=
      { instructions :=
          #[⟨"mov", [.register "r0", .literal "-9223372036854775808" (.int (-9223372036854775808))],
              1, "mov r0, -9223372036854775808"⟩,
            ⟨"idiv", [.register "r0", .literal "-1" (.int (-1))], 2, "idiv r0, -1"⟩] }
    let machine := step^[2] (fresh .default .freshCapture program)
    Program.link .default source = .ok program ∧
      ¬ ∀ location n, machine.store.content? location = some (.int n) →
        -0x8000000000000000 ≤ n ∧ n ≤ 0x7FFFFFFFFFFFFFFF := by
  intro source program machine
  refine ⟨by decide +kernel, fun hwords => ?_⟩
  have hcontent : machine.store.content? (.register (.general 0)) =
      some (.int 0x8000000000000000) := by decide +kernel
  exact absurd (hwords _ _ hcontent).2 (by decide)

end Machine

end RegisterMachine
