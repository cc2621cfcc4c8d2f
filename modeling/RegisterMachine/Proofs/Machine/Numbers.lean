import RegisterMachine.Proofs.Double.Layout
import RegisterMachine.Proofs.Machine.Failure
import RegisterMachine.Proofs.Machine.Stack
import RegisterMachine.Proofs.Number.Failure
import RegisterMachine.Proofs.Store.Failure
import Mathlib.Algebra.Order.Ring.Int
import Mathlib.Tactic.NormNum

set_option autoImplicit false
set_option relaxedAutoImplicit false

/-!
# Numbers that machines hold

What a machine holds after any number of steps are doubles and integers that are no larger than the
largest double. So no step fails for a number that has no representation, on a host that records
everything: every conversion succeeds, and every number can be shown. What escapes from a step is at
most that its stack has no room for an operand.

## Main definitions

* `RegisterMachine.Cause.isNumericEscape` — causes that tell of a number out of range.
* `RegisterMachine.Machine.IsRegular` — a machine on a recording host, with no fault of such a
  cause.

## Main results

* `RegisterMachine.Machine.Failure.isNumericEscape_eq_false` — no instruction fails for such a
  cause.
* `RegisterMachine.Machine.numbers_stay_in_range` — what machines hold, and what they do not fail
  for.
-/

namespace RegisterMachine

/-! ## Causes that tell of a number out of range -/

namespace Cause

variable {cause : Cause}

/-- Whether a cause tells of a number that machines do not hold: one that has no representation
where it is needed, or an address that is no number at all. -/
def isNumericEscape : Cause → Bool
  | .outOfRange _ | .addressNotNumber _ => true
  | _ => false

/-- Other causes are of another kind than numbers out of range. -/
lemma kind_ne_numberOutOfRange (h : cause.isNumericEscape = false) :
    cause.kind ≠ .numberOutOfRange := by
  cases cause <;> simp_all [isNumericEscape, kind]

/-- The letter behind the words that all refusals of an address start with. -/
lemma getElem?_refusal (text : String) :
    ("Memory address " ++ text).toList[15]? = text.toList.head? := by
  simp [String.toList_append, List.head?_eq_getElem?]

/-- Other refusals of an address have another wording than the refusal of one that is no number:
they differ in the letter behind the words that all refusals start with. -/
lemma message_ne_addressNotNumber (h : cause.isNumericEscape = false)
    (hkind : cause.kind = .memoryOutOfBounds) (shown : String) :
    cause.message ≠ (addressNotNumber shown).message := by
  have hnumber : ("Memory address must be a number, got " ++ shown).toList[15]? = some 'm' := by
    simp [String.toList_append]
  suffices hletter : cause.message.toList[15]? ≠ some 'm' from fun hmessage =>
    hletter ((congrArg (fun text : String => text.toList[15]?) hmessage).trans hnumber)
  cases cause with
  | addressNotWhole x =>
    -- the text of a double starts with a digit, a sign, or the letter of a special value
    obtain ⟨c, rest, htext, hc⟩ := Double.exists_head_text x
    have hwhole : ("Memory address " ++ Double.text x ++ " is not an integer").toList[15]? =
        some c := by
      rw [String.append_assoc, getElem?_refusal, String.toList_append, htext]
      rfl
    intro hletter
    obtain rfl := Option.some.inj (hwhole.symm.trans hletter)
    revert hc
    decide
  | addressOutOfRange address capacity =>
    have hoverflow : ("Memory address overflow: " ++ toString address ++ " (capacity "
        ++ toString capacity ++ ")").toList[15]? = some 'o' := by simp [String.toList_append]
    intro hletter
    cases hoverflow.symm.trans hletter
  | addressNotNumber => simp [isNumericEscape] at h
  | _ => simp [kind] at hkind

end Cause

/-! ## Hosts that record everything -/

namespace Host

variable {host next : Host}

/-- Whether a host records everything. -/
def isCapture : Host → Bool
  | .capture _ => true
  | .console _ => false

@[simp]
lemma isCapture_write (text : String) : (host.write text).isCapture = host.isCapture := by
  cases host <;> rfl

@[simp]
lemma isCapture_foldl_write (texts : List String) :
    (texts.foldl write host).isCapture = host.isCapture := by
  induction texts generalizing host with
  | nil => rfl
  | cons text texts ih => simp [ih]

@[simp]
lemma isCapture_push (name : String) : (host.push name).isCapture = host.isCapture := by
  cases host <;> rfl

@[simp]
lemma isCapture_pull (name : String) : (host.pull name).1.isCapture = host.isCapture := by
  cases host <;> rfl

/-- A pause leaves a host of its kind. -/
lemma isCapture_of_sleep {seconds : Number} (h : host.sleep seconds = .ok next) :
    next.isCapture = host.isCapture := by
  unfold sleep at h
  split at h
  · cases h
    rfl
  · split at h
    · cases h
      rfl
    · split at h
      · cases h
      · cases h
        rfl

/-- A host that records everything refuses no pause. -/
lemma sleep_ne_error (h : host.isCapture) {seconds : Number} {cause : Cause} :
    host.sleep seconds ≠ .error cause := by
  cases host with
  | capture host => simp [sleep]
  | console host => simp [isCapture] at h

end Host

namespace Machine

variable {machine next : Machine} {opcode : Opcode} {operands : List Operand} {count : Nat}
  {cause : Cause} {calls : Nat} {program : Program}

/-- Instructions leave the host of its kind. -/
lemma Effect.isCapture_host (h : Effect machine opcode operands next) :
    next.host.isCapture = machine.host.isCapture := by
  cases h with
  | out => simp [print]
  | dbg => simp [foldl_print]
  | slp _ hsleep => exact Host.isCapture_of_sleep hsleep
  | nop => simp [afterExchange]
  | _ => rfl

/-! ## Instructions that fail -/

/-- **No instruction fails for a number out of range**, on a machine with a sound store and a host
that records everything, if its operands were read from texts.

**Proof sketch.** By cases on the failure. What is read from a sound store is in range, so it can be
printed, and operations on it fail only where they are undefined; a sound store can be shown. -/
lemma Failure.isNumericEscape_eq_false {mnemonic : String}
    (h : Failure machine mnemonic opcode operands cause) (hstore : machine.store.IsSound count)
    (hhost : machine.host.isCapture) (hoperands : ∀ operand ∈ operands, operand.IsReading count) :
    cause.isNumericEscape = false := by
  have hinaccessible : Store.Inaccessible cause → cause.isNumericEscape = false := by
    rintro ⟨⟩ <;> rfl
  have hundefined : Number.Undefined cause → cause.isNumericEscape = false := by
    rintro ⟨⟩ <;> rfl
  cases h with
  | read hmem hread => exact hinaccessible (hstore.inaccessible_of_read (hoperands _ hmem) hread)
  | write hwrite =>
    exact hinaccessible (hstore.inaccessible_of_write (hoperands _ List.mem_cons_self) hwrite)
  | print hmem hread hprint =>
    have hrange := hstore.inRange_of_read (hoperands _ hmem) hread
    obtain ⟨shown, hshown⟩ := hrange.exists_printed
    simp [hshown] at hprint
  | showRegisters hregisters =>
    obtain ⟨shown, hshown⟩ := hstore.exists_display
    simp [hshown] at hregisters
  | showMemory hdump =>
    obtain ⟨shown, hshown⟩ := hstore.exists_dump
    simp [hshown] at hdump
  | pause _ hsleep => exact absurd hsleep (Host.sleep_ne_error hhost)
  | binary ha hb hresult =>
    have hx := hstore.inRange_of_read (hoperands _ (by simp)) ha
    have hy := hstore.inRange_of_read (hoperands _ (by simp)) hb
    exact hundefined (BinaryOp.undefined_of_apply hx hy hresult)
  | unary ha hresult =>
    have hx := hstore.inRange_of_read (hoperands _ (by simp)) ha
    exact hundefined (UnaryOp.undefined_of_apply hx hresult)
  | notAliasable | jump | missing => rfl

/-- An instruction that fails is not known, or has one of the failures. -/
lemma failure_of_execute {instruction : Instruction} {after : Machine}
    (h : execute instruction machine = .error cause after) :
    (Opcode.ofMnemonic? instruction.mnemonic = none ∧
      cause = .unknownInstruction instruction.mnemonic) ∨
    ∃ opcode, Opcode.ofMnemonic? instruction.mnemonic = some opcode ∧
      Failure machine instruction.mnemonic opcode instruction.operands cause := by
  cases hopcode : Opcode.ofMnemonic? instruction.mnemonic with
  | some opcode =>
    have hperform : perform instruction.mnemonic opcode instruction.operands machine =
        .error cause after := by
      simpa [execute_def, hopcode] using h
    exact .inr ⟨opcode, rfl, failure_of_perform hperform⟩
  | none =>
    simp only [execute_def, hopcode, Action.throw_eq_error] at h
    exact .inl ⟨rfl, h.1⟩

/-! ## Runs -/

/-- What holds of a machine on a recording host: it has not failed for a number out of range. -/
structure IsRegular (machine : Machine) : Prop where
  /-- The host records everything. -/
  isCapture : machine.host.isCapture
  /-- A fault has a cause of another kind. -/
  fault : ∀ fault, machine.fault? = some fault → ∃ cause : Cause,
    cause.isNumericEscape = false ∧ fault.kind = cause.kind ∧ fault.message = cause.message

/-- **A step keeps a machine regular.** -/
lemma IsRegular.step (hlinked : program.IsLinked count)
    (hsound : IsSound count program calls machine) (h : machine.IsRegular) :
    machine.step.IsRegular := by
  obtain hstay | ⟨-, hstepped⟩ := hsound.step_eq_or_stepped
  · rwa [hstay]
  · obtain ⟨rfl, hstore, -, -⟩ := hsound
    generalize machine.step = after at hstepped
    cases hstepped with
    | ended hend => exact ⟨h.isCapture, h.fault⟩
    | executed hle hfetch hopcode heffect =>
      obtain ⟨-, -, -, hfault, -⟩ := heffect.frame
      refine ⟨heffect.isCapture_host.trans h.isCapture, fun fault hsome => ?_⟩
      exact h.fault fault (hfault.symm.trans hsome)
    | @failed instruction cause log hle hfetch herror hcause =>
      have hregular : cause.isNumericEscape = false := by
        rcases failure_of_execute herror with ⟨-, rfl⟩ | ⟨opcode, -, hfailure⟩
        · rfl
        · have hoperands := hlinked.operands _ (Program.mem_of_fetch? hfetch)
          exact hfailure.isNumericEscape_eq_false hstore h.isCapture hoperands
      refine ⟨by simpa [fail, print, report, stop, fetched] using h.isCapture,
        fun fault hsome => ?_⟩
      obtain rfl := Option.some.inj hsome
      exact ⟨cause, hregular, by simp [Fault.locate, Fault.ofCause], by
        simp [Fault.locate, Fault.ofCause]⟩

/-- **A machine on a recording host is regular after any number of calls.** -/
lemma isRegular_calls {config : Config} {source : String}
    (hlink : Program.link config source = .ok program) (host : Capture) (given : List Stack) :
    ((fresh config (.capture host) program).calls given).resume.IsRegular := by
  have hlinked := Program.isLinked_of_link hlink
  have hstart := (isSound_fresh config (.capture host) program).isSteady
  refine hstart.calls_induction hlinked (fun hsound => .step hlinked hsound)
    (fun h => ⟨h.isCapture, h.fault⟩) ⟨rfl, fun fault hsome => ?_⟩ given
  cases hsome

/-- The largest double as a power of two less the weight of its last bit. -/
lemma natCast_largest : (Double.largest : ℤ) = 2 ^ 1024 - 2 ^ 971 := by
  decide +kernel

/-- **What machines hold, and what they do not fail for.** After any number of calls of steps on a
host that records everything, registers and memory cells hold doubles and integers that are no
larger than the largest double. No step has failed because a number has no representation, or
because an address is no number. No error escapes from a call, unless its stack has no room for an
operand of the next instruction.

**Proof sketch.** The store is sound after any number of calls (`IsSteady.exists_calls`), so that
all its numbers are in range. Instructions on a sound store do not fail for a number out of range
(`Failure.isNumericEscape_eq_false`), which every call keeps (`isRegular_calls`). -/
theorem numbers_stay_in_range {config : Config} {source : String} {program : Program}
    (hlink : Program.link config source = .ok program) (host : Capture) (given : List Stack) :
    let machine := (fresh config (.capture host) program).calls given
    (∀ location number, machine.store.content? location = some number →
      (∃ n : ℤ, number = .int n ∧ |n| ≤ 2 ^ 1024 - 2 ^ 971) ∨ ∃ x, number = .double x) ∧
    (∀ fault, machine.fault? = some fault → fault.kind ≠ .numberOutOfRange ∧
      (fault.kind = .memoryOutOfBounds → ∀ shown,
        fault.message ≠ (Cause.addressNotNumber shown).message)) ∧
    (machine.escaped? = none ∨ machine.escaped? = some .stackExhausted) ∧
    ∀ stack, (machine.call stack).escaped? = none ∨
      ((machine.call stack).escaped? = some .stackExhausted ∧
        ∃ instruction operand, program.fetch? (machine.pc + 1) = some instruction ∧
          operand ∈ instruction.operands ∧ ¬ machine.store.Fits stack operand) := by
  intro machine
  have hlinked := Program.isLinked_of_link hlink
  obtain ⟨executed, -, hcalls⟩ :=
    (isSound_fresh config (.capture host) program).isSteady.exists_calls hlinked given
  have hsteady : IsSteady config.registerCount program (0 + executed) machine := hcalls
  have hregular : machine.resume.IsRegular := isRegular_calls hlink host given
  have hstore : machine.store.IsSound config.registerCount := hsteady.isSound_resume.store
  clear_value machine
  refine ⟨fun location number hcontent => ?_, fun fault hfault => ?_, ?_, fun stack => ?_⟩
  · cases hstore.inRange location number hcontent with
    | @int n hn =>
      refine .inl ⟨n, rfl, ?_⟩
      rw [← natCast_largest, Int.abs_eq_natAbs]
      exact Int.ofNat_le.2 hn
    | double x => exact .inr ⟨x, rfl⟩
  · obtain ⟨cause, hcause, hkind, hmessage⟩ := hregular.fault fault hfault
    rw [hkind, hmessage]
    exact ⟨Cause.kind_ne_numberOutOfRange hcause, Cause.message_ne_addressNotNumber hcause⟩
  · exact hsteady.escaped?.imp_right And.left
  · exact (hsteady.escaped?_call hlinked stack).imp_right fun ⟨hescaped, _, hroom⟩ =>
      ⟨hescaped, hroom⟩

/-- A quotient that needs more than 64 bits is in range, and too large for an address. Two frames
are enough for every operand. -/
theorem numbers_stay_in_range_of_wide_quotient :
    let program : Program :=
      { instructions :=
          #[⟨"mov", [.register "r0", .literal "-0x8000000000000000" (.int (-0x8000000000000000))],
              1, "mov r0, -0x8000000000000000"⟩,
            ⟨"idiv", [.register "r0", .literal "-1" (.int (-1))], 2, "idiv r0, -1"⟩,
            ⟨"mov", [.indirect "[r0]" (.register "r0"), .literal "7" (.int 7)], 3, "mov [r0], 7"⟩] }
    let machine :=
      (fresh .default .freshCapture program).calls [.bounded 2, .bounded 2, .bounded 2]
    Program.link .default "mov r0, -0x8000000000000000\nidiv r0, -1\nmov [r0], 7" = .ok program ∧
      (∃ n : ℤ, machine.store.content? (.register (.general 0)) = some (.int n) ∧
        2 ^ 63 ≤ n ∧ |n| ≤ 2 ^ 1024 - 2 ^ 971) ∧
      ∃ fault, machine.fault? = some fault ∧ fault.kind = .memoryOutOfBounds ∧
        ∀ shown, fault.message ≠ (Cause.addressNotNumber shown).message := by
  intro program machine
  have hlink : Program.link .default
      "mov r0, -0x8000000000000000\nidiv r0, -1\nmov [r0], 7" = .ok program := by decide +kernel
  have hcontent : machine.store.content? (.register (.general 0)) =
      some (.int 0x8000000000000000) := by decide +kernel
  have hkind : machine.fault?.map (·.kind) = some .memoryOutOfBounds := by decide +kernel
  obtain ⟨hrange, hfaults, -⟩ :=
    numbers_stay_in_range hlink {} [.bounded 2, .bounded 2, .bounded 2]
  refine ⟨hlink, ⟨_, hcontent, by decide, ?_⟩, ?_⟩
  · rcases hrange _ _ hcontent with ⟨n, heq, hn⟩ | ⟨x, heq⟩
    · cases heq
      exact hn
    · cases heq
  · obtain ⟨fault, hfault, hbounds⟩ := Option.map_eq_some_iff.1 hkind
    exact ⟨fault, hfault, hbounds, (hfaults fault hfault).2 hbounds⟩

/-- An error escapes from the second call, with room for a thousand frames: the instruction reads a
name that stands for itself in fifteen brackets. -/
theorem an_error_escapes :
    let bracket (inner : Operand) : Operand := .indirect ("[" ++ inner.text ++ "]") inner
    let first := "als a, [[[[[[[[[[[[[[[a]]]]]]]]]]]]]]]"
    let program : Program :=
      { instructions :=
          #[⟨"als", [.symbol "a", bracket^[15] (.symbol "a")], 1, first⟩,
            ⟨"mov", [.register "r0", .symbol "a"], 2, "mov r0, a"⟩] }
    let machine := (fresh .default .freshCapture program).calls [.bounded 1000, .bounded 1000]
    Program.link .default (first ++ "\nmov r0, a") = .ok program ∧
      machine.escaped? = some .stackExhausted := by
  decide +kernel

end Machine

end RegisterMachine
