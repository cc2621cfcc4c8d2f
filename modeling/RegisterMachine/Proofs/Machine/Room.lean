import RegisterMachine.Proofs.Machine.Stack

set_option autoImplicit false
set_option relaxedAutoImplicit false

/-!
# Room for programs

How much of the stack a program needs. Its operands stand in at most so many brackets, and the
targets of its aliases are operands of it. With a frame for each of those brackets and one for what
they enclose, and that again for every hop, no step is broken off: the program runs as it does on a
stack that always has room.

## Main definitions

* `RegisterMachine.Program.NestsWithin` — all operands stand in at most so many brackets.

## Main results

* `RegisterMachine.Machine.calls_eq_iterate_step` — calls of steps with enough room are steps.
* `RegisterMachine.Machine.runOn_eq_run` — a run with enough room is the run.
-/

namespace RegisterMachine

variable {stack : Stack} {hops bound count executed : Nat} {program : Program}

/-! ## Brackets -/

/-- All operands of the program stand in at most so many brackets. -/
def Program.NestsWithin (program : Program) (bound : Nat) : Prop :=
  ∀ instruction ∈ program.instructions, ∀ operand ∈ instruction.operands, operand.depth ≤ bound

namespace Store

variable {store after : Store} {operand target : Operand}

/-- The store allows so many hops, and all targets of its aliases stand in at most so many
brackets. -/
structure NestsWithin (hops bound : Nat) (store : Store) : Prop where
  hops_eq : store.hops = hops
  depth_le : ∀ entry ∈ store.aliases.entries, entry.2.depth ≤ bound

/-- **A stack with room for all brackets at every hop has room for an operand.** -/
lemma NestsWithin.fits (h : store.NestsWithin hops bound) (hdepth : operand.depth ≤ bound)
    (hroom : stack.HasRoom ((hops + 1) * (bound + 1))) : store.Fits stack operand := by
  refine hroom.of_le ?_
  rw [← h.hops_eq]
  exact Operand.frames_le store.hops hdepth fun name target hlookup =>
    h.depth_le (name, target) (AliasTable.mem_of_lookup hlookup)

/-- Writes leave the aliases. -/
lemma NestsWithin.write {value : Number} (h : store.NestsWithin hops bound)
    (hwrite : Store.write operand value store = .ok () after) : after.NestsWithin hops bound := by
  rw [write_eq_locate] at hwrite
  split at hwrite <;> cases hwrite
  obtain ⟨hhops, hdepth⟩ := h
  exact ⟨by rwa [Store.hops, aliasLimit_put], by rwa [aliases_put]⟩

/-- An alias may be defined for a target in that many brackets. -/
lemma NestsWithin.define (h : store.NestsWithin hops bound) (name : String)
    (hdepth : target.depth ≤ bound) :
    { store with aliases := store.aliases.define name target }.NestsWithin hops bound := by
  refine ⟨h.hops_eq, fun entry hentry => ?_⟩
  obtain rfl | hold := AliasTable.mem_defineIn hentry
  · exact hdepth
  · exact h.depth_le entry hold

end Store

namespace Machine

variable {machine next : Machine}

/-! ## Steps -/

/-- Instructions whose operands stand in at most so many brackets keep the targets of aliases
there. -/
lemma Effect.nestsWithin {opcode : Opcode} {operands : List Operand}
    (heffect : Effect machine opcode operands next)
    (hoperands : ∀ operand ∈ operands, operand.depth ≤ bound)
    (h : machine.store.NestsWithin hops bound) : next.store.NestsWithin hops bound := by
  cases heffect with
  | mov hread hwrite => exact h.write hwrite
  | als => exact h.define _ (hoperands _ (by simp))
  | cmp => exact ⟨h.hops_eq, h.depth_le⟩
  | binary ha hb hresult hwrite => exact h.write hwrite
  | unary ha hresult hwrite => exact h.write hwrite
  | dbg => rwa [foldl_print]
  | _ => exact h

/-- **A step keeps the targets of aliases within the brackets of the program.** -/
lemma IsSound.nestsWithin_step (hsound : IsSound count program executed machine)
    (hprogram : program.NestsWithin bound) (h : machine.store.NestsWithin hops bound) :
    machine.step.store.NestsWithin hops bound := by
  have hstepped := hsound.step_eq_or_stepped
  obtain ⟨rfl, -, -, -⟩ := hsound
  obtain hstay | ⟨-, hstepped⟩ := hstepped
  · rwa [hstay]
  · generalize machine.step = after at hstepped
    cases hstepped with
    | ended hend => exact h
    | executed hle hfetch hopcode heffect =>
      exact heffect.nestsWithin (hprogram _ (Program.mem_of_fetch? hfetch)) h
    | failed hle hfetch herror hcause => exact h

/-- The same of any number of steps. -/
lemma IsSound.nestsWithin_iterate_step (hlinked : program.IsLinked count)
    (hsound : IsSound count program executed machine) (hprogram : program.NestsWithin bound)
    (h : machine.store.NestsWithin hops bound) (n : Nat) :
    (Machine.step^[n] machine).store.NestsWithin hops bound := by
  induction n with
  | zero => exact h
  | succ n ih =>
    rw [Function.iterate_succ_apply']
    exact (hsound.iterate_step hlinked n).nestsWithin_step hprogram ih

/-- **No step is broken off on a stack with room for all brackets at every hop.** -/
lemma IsSound.not_breaksOff (hsound : IsSound count program executed machine)
    (hprogram : program.NestsWithin bound) (h : machine.store.NestsWithin hops bound)
    (hroom : stack.HasRoom ((hops + 1) * (bound + 1))) : ¬ BreaksOff stack machine next := by
  obtain ⟨rfl, -, -, -⟩ := hsound
  rintro ⟨hrunning, hle, hfetch, hmem, hfits⟩
  exact hfits (h.fits (hprogram _ (Program.mem_of_fetch? hfetch) _ hmem) hroom)

/-- A call with that much room is a step. -/
lemma IsSound.call_eq_step (hsound : IsSound count program executed machine)
    (hprogram : program.NestsWithin bound) (h : machine.store.NestsWithin hops bound)
    (hroom : stack.HasRoom ((hops + 1) * (bound + 1))) :
    machine.call stack = machine.step := by
  rw [call, resume_eq_self hsound.escaped?_eq]
  exact (stepOn_eq_or_breaksOff stack machine).resolve_right
    (hsound.not_breaksOff hprogram h hroom)

/-! ## Runs -/

/-- **Calls of steps are steps, if there is room for all brackets at every hop.** -/
theorem calls_eq_iterate_step {config : Config} {source : String}
    (hlink : Program.link config source = .ok program) (host : Host)
    (hprogram : program.NestsWithin bound) {given : List Stack}
    (hroom : ∀ stack ∈ given, stack.HasRoom ((config.aliasDepthLimit + 1) * (bound + 1))) :
    (fresh config host program).calls given = step^[given.length] (fresh config host program) := by
  have hlinked := Program.isLinked_of_link hlink
  have hstore : (fresh config host program).store.NestsWithin config.aliasDepthLimit bound :=
    ⟨rfl, fun _ h => absurd h List.not_mem_nil⟩
  have hsound := isSound_fresh config host program
  generalize fresh config host program = machine at hstore hsound
  -- of any machine that is sound after so many steps, by induction on the calls
  generalize 0 = executed at hsound
  induction given generalizing machine executed with
  | nil => rfl
  | cons stack rest ih =>
    have hcall := hsound.call_eq_step hprogram hstore (hroom stack List.mem_cons_self)
    have hnext := hsound.nestsWithin_step hprogram hstore
    rw [calls, hcall, List.length_cons, Function.iterate_succ_apply]
    exact ih (fun stack hmem => hroom stack (List.mem_cons_of_mem _ hmem)) _ hnext _
      (hsound.step hlinked)

/-- **A run on a stack with room for all brackets at every hop is the run** on a stack that always
has room.

**Proof sketch.** The first step that is broken off follows on steps that are not
(`iterate_stepOn_eq_or_breaksOff`), which keep the targets of aliases within the brackets of the
program (`IsSound.nestsWithin_step`). So its operands fit (`Store.NestsWithin.fits`). -/
theorem runOn_eq_run {config : Config} {source : String}
    (hlink : Program.link config source = .ok program) (host : Host)
    (hprogram : program.NestsWithin bound)
    (hroom : stack.HasRoom ((config.aliasDepthLimit + 1) * (bound + 1))) (fuel : Nat) :
    (fresh config host program).runOn stack fuel = (fresh config host program).run fuel := by
  have hlinked := Program.isLinked_of_link hlink
  have hstore : (fresh config host program).begin.store.NestsWithin config.aliasDepthLimit bound :=
    ⟨rfl, fun _ h => absurd h List.not_mem_nil⟩
  have hsound := isSound_begin config host program
  rw [run_def, runOn, runForOn_eq_iterate, runFor_eq_iterate]
  obtain hsame | ⟨k, -, hbreak⟩ :=
    iterate_stepOn_eq_or_breaksOff stack (fresh config host program).begin fuel
  · rw [hsame]
  · have hnests := hsound.nestsWithin_iterate_step hlinked hprogram hstore k
    exact absurd hbreak ((hsound.iterate_step hlinked k).not_breaksOff hprogram hnests hroom)

end Machine

end RegisterMachine
