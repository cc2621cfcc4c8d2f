import RegisterMachine.Proofs.Machine.Run

set_option autoImplicit false
set_option relaxedAutoImplicit false

/-!
# Machines that agree

Two machines with the same program and the same store, at the same place, do the same steps,
whatever they record about their work and whatever hosts they have, as long as the hosts answer
alike when they are asked for a pause. What is said about the hosts is a relation that their
operations keep; one theorem on steps serves all such relations.

## Main definitions

* `RegisterMachine.Host.IsSimulation` — a relation of hosts that printing and exchanging events
  keep.
* `RegisterMachine.Host.PauseAlike` — two hosts answer alike when they are asked for a pause.
* `RegisterMachine.Machine.Agree` — machines that differ in their hosts and records only.
* `RegisterMachine.Machine.pauseRequest?` — the pause that the next step asks for.
* `RegisterMachine.Machine.Respects` — actions that do the same on machines that agree.

## Main results

* `RegisterMachine.Machine.Agree.perform` — instructions do the same on machines that agree.
* `RegisterMachine.Machine.Agree.step`, `RegisterMachine.Machine.Agree.iterate_step` — so do steps.
* `RegisterMachine.Machine.Agree.run` — a run is so many steps, whatever is recorded.
-/

namespace RegisterMachine

/-! ## Relations of hosts -/

namespace Host

/-- Related hosts stay related while both print the same texts and exchange the same events. -/
structure IsSimulation (R : Host → Host → Prop) : Prop where
  /-- Printing a text keeps the relation. -/
  write : ∀ {host other : Host} (text : String), R host other →
    R (host.write text) (other.write text)
  /-- Queueing an event keeps the relation. -/
  push : ∀ {host other : Host} (name : String), R host other →
    R (host.push name) (other.push name)
  /-- Awaiting an event keeps the relation. -/
  pull : ∀ {host other : Host} (name : String), R host other →
    R (host.pull name).1 (other.pull name).1

/-- How two hosts answer alike when they are asked for a pause. -/
inductive PauseAlike (R : Host → Host → Prop) (host other : Host) (seconds : Number) : Prop
  /-- Both pause, and are related afterwards. -/
  | taken {next next' : Host} (hsleep : host.sleep seconds = .ok next)
      (hsleep' : other.sleep seconds = .ok next') (h : R next next')
  /-- Both refuse, for the same cause. -/
  | refused {cause : Cause} (hsleep : host.sleep seconds = .error cause)
      (hsleep' : other.sleep seconds = .error cause)

/-- Equality is a relation that hosts keep. -/
lemma isSimulation_eq : IsSimulation Eq where
  write _ h := by rw [h]
  push _ h := by rw [h]
  pull _ h := by rw [h]

/-- A host answers like itself. -/
lemma pauseAlike_eq (host : Host) (seconds : Number) : PauseAlike Eq host host seconds := by
  cases hsleep : host.sleep seconds with
  | ok next => exact .taken hsleep hsleep rfl
  | error cause => exact .refused hsleep hsleep

end Host

namespace Machine

variable {R : Host → Host → Prop} {machine other : Machine} {instruction : Instruction}
  {program : Program} {count calls : Nat} {α β : Type}

/-- Machines that differ only in their hosts, which are related, and in what they record about their
work. -/
inductive Agree (R : Host → Host → Prop) (machine : Machine) : Machine → Prop
  | intro {host : Host} {trace : Bool} {log : Array Log.Record} (h : R machine.host host) :
      Agree R machine { machine with host, trace, log }

namespace Agree

lemma store_eq (h : Agree R machine other) : other.store = machine.store := by
  cases h
  rfl

lemma state_eq (h : Agree R machine other) : other.state = machine.state := by
  cases h
  rfl

lemma escaped?_eq (h : Agree R machine other) : other.escaped? = machine.escaped? := by
  cases h
  rfl

lemma host (h : Agree R machine other) : R machine.host other.host := by
  cases h
  assumption

lemma isRunning_eq (h : Agree R machine other) : other.isRunning = machine.isRunning := by
  cases h
  rfl

end Agree

/-- The number of seconds that the next step of the machine asks its host to pause for, if it
does. -/
def pauseRequest? (machine : Machine) : Option Number := do
  guard machine.isRunning
  let instruction ← machine.program.fetch? (machine.pc + 1)
  guard (Opcode.ofMnemonic? instruction.mnemonic = some .slp)
  let operand ← instruction.operands.head?
  (machine.store.read operand).toOption

/-- A running machine that comes to a pause asks for it. -/
lemma pauseRequest?_eq_some {operand : Operand} {rest : List Operand} {seconds : Number}
    (hrunning : machine.isRunning)
    (hfetch : machine.program.fetch? (machine.pc + 1) = some instruction)
    (hopcode : Opcode.ofMnemonic? instruction.mnemonic = some .slp)
    (hoperands : instruction.operands = operand :: rest)
    (hread : machine.store.read operand = .ok seconds) :
    machine.pauseRequest? = some seconds := by
  unfold pauseRequest? guard
  rw [if_pos hrunning, hfetch]
  simp [hopcode, hoperands, hread, Except.toOption]

/-! ## Actions that do the same -/

/-- Two outcomes of an action are the same, success or failure, and leave machines that agree. -/
inductive SameOutcome (R : Host → Host → Prop) :
    EStateM.Result Cause Machine α → EStateM.Result Cause Machine α → Prop
  /-- Both succeed with the same result. -/
  | ok {machine other : Machine} (a : α) (h : Agree R machine other) :
      SameOutcome R (.ok a machine) (.ok a other)
  /-- Both fail for the same cause. -/
  | error {machine other : Machine} (cause : Cause) (h : Agree R machine other) :
      SameOutcome R (.error cause machine) (.error cause other)

/-- The action does the same on machines that agree. -/
def Respects (R : Host → Host → Prop) (action : Action Machine α) : Prop :=
  ∀ machine other, Agree R machine other → SameOutcome R (action machine) (action other)

lemma respects_pure (a : α) : Respects R (pure a : Action Machine α) :=
  fun _ _ h => .ok a h

lemma respects_throw (cause : Cause) : Respects R (throw cause : Action Machine α) :=
  fun _ _ h => .error cause h

/-- A change does the same on machines that agree if they agree after it. -/
lemma respects_modify {f : Machine → Machine}
    (hf : ∀ machine other, Agree R machine other → Agree R (f machine) (f other)) :
    Respects R (modify f) :=
  fun machine other h => .ok () (hf machine other h)

/-- What is computed from the store is the same on machines that agree. -/
lemma respects_query (f : Store → Except Cause α) :
    Respects R (.query fun machine => f machine.store) := by
  intro machine other h
  unfold Action.query
  dsimp only
  rw [h.store_eq]
  cases f machine.store with
  | ok a => exact .ok a h
  | error cause => exact .error cause h

/-- An action on the store does the same on machines that agree. -/
lemma respects_onStore (action : Action Store α) : Respects R (onStore action) := by
  intro machine other h
  cases h with
  | intro h =>
    unfold onStore Action.within
    dsimp only
    cases action machine.store with
    | ok a store => exact .ok a (.intro h)
    | error cause store => exact .error cause (.intro h)

/-- Two outcomes that are the same stay so when the same is done afterwards. -/
lemma sameOutcome_bind {action : Action Machine α} {next : α → Action Machine β}
    (haction : SameOutcome R (action machine) (action other))
    (hnext : ∀ a after after', action machine = .ok a after → action other = .ok a after' →
      Agree R after after' → SameOutcome R (next a after) (next a after')) :
    SameOutcome R ((action >>= next) machine) ((action >>= next) other) := by
  simp only [bind, EStateM.bind]
  generalize hfirst : action machine = first at haction hnext
  generalize hsecond : action other = second at haction hnext
  cases haction with
  | ok a h => exact hnext a _ _ rfl rfl h
  | error cause h => exact .error cause h

/-- **Sequences do the same on machines that agree** if their parts do. -/
lemma respects_bind {action : Action Machine α} {next : α → Action Machine β}
    (haction : Respects R action) (hnext : ∀ a, Respects R (next a)) :
    Respects R (action >>= next) :=
  fun machine other h =>
    sameOutcome_bind (haction machine other h) fun a after after' _ _ => hnext a after after'

/-! ## Instructions -/

lemma respects_value (operand : Operand) : Respects R (value .unbounded operand) :=
  respects_query (·.read operand)

lemma respects_assign (target : Operand) (value : Number) :
    Respects R (assign .unbounded target value) :=
  respects_onStore _

/-- An operation on numbers looks at no machine. -/
lemma respects_query_const (result : Except Cause α) : Respects R (.query fun _ => result) :=
  respects_query fun _ => result

lemma respects_defineAlias (name target : Operand) : Respects R (defineAlias name target) := by
  cases name with
  | symbol text => exact respects_onStore _
  | indirect | register | literal => exact respects_throw _

/-- A jump depends on the program alone. -/
lemma respects_jumpTo (label : String) : Respects R (jumpTo label) := by
  intro machine other h
  cases h with
  | intro h =>
    unfold jumpTo Action.update
    dsimp only
    cases machine.program.labelIndex? label with
    | some index => exact .ok () (.intro h)
    | none => exact .error _ (.intro h)

/-- Whether a jump is taken depends on the flags alone. -/
lemma respects_branch (condition : Condition) (label : Operand) :
    Respects R (branch condition label) := by
  intro machine other h
  simp only [branch, Action.get_bind, h.store_eq]
  split
  · exact respects_jumpTo _ machine other h
  · exact respects_pure () machine other h

/-- A pause is the same on machines that agree, if the hosts answer alike. -/
lemma Agree.pause (h : Agree R machine other) {operand : Operand}
    (hpause : ∀ seconds, machine.store.read operand = .ok seconds →
      Host.PauseAlike R machine.host other.host seconds) :
    SameOutcome R (pause .unbounded operand machine) (pause .unbounded operand other) := by
  refine sameOutcome_bind (respects_value operand machine other h) ?_
  intro seconds after after' hvalue hvalue' _
  obtain ⟨hread, rfl⟩ := Action.query_eq_ok.1 hvalue
  obtain ⟨-, rfl⟩ := Action.query_eq_ok.1 hvalue'
  unfold sleep Action.update
  dsimp only
  cases hpause seconds hread with
  | taken hsleep hsleep' hnext =>
    rw [hsleep, hsleep']
    cases h with
    | intro _ => exact .ok () (.intro hnext)
  | refused hsleep hsleep' =>
    rw [hsleep, hsleep']
    exact .error _ h

section Simulation

variable (hR : Host.IsSimulation R)
include hR

/-- Machines that agree agree after they have printed the same text. -/
lemma Agree.print (h : Agree R machine other) (text : String) :
    Agree R (machine.print text) (other.print text) := by
  cases h with
  | intro h => exact .intro (hR.write text h)

/-- Machines that agree agree after they have printed the same texts. -/
lemma Agree.foldl_print (h : Agree R machine other) (texts : List String) :
    Agree R (texts.foldl Machine.print machine) (texts.foldl Machine.print other) := by
  induction texts generalizing machine other with
  | nil => exact h
  | cons text texts ih => exact ih (h.print hR text)

lemma respects_out (operands : List Operand) : Respects R (out .unbounded operands) :=
  respects_bind (respects_query fun store => operands.mapM (printed .unbounded store)) fun _ =>
    respects_modify fun _ _ h => h.print hR _

lemma respects_showState : Respects R showState := by
  refine respects_bind (respects_query fun store => store.registers.display.mapError .outOfRange)
    fun registers => respects_bind (respects_modify fun _ _ h => h.print hR _) fun _ => ?_
  refine respects_bind (respects_modify fun machine other h => ?_) fun _ => ?_
  · rw [h.store_eq]
    exact h.foldl_print hR _
  · refine respects_bind (respects_query fun store => store.memory.dump.mapError .outOfRange)
      fun dump => ?_
    split
    · exact respects_pure ()
    · exact respects_modify fun _ _ h => h.print hR _

lemma respects_exchange (name : String) : Respects R (exchange name) := by
  intro machine other h
  rw [exchange_eq_ok, exchange_eq_ok]
  cases h with
  | intro h => exact .ok () (.intro (hR.pull name (hR.push name h)))

/-- **Instructions do the same on machines that agree**, if the hosts answer alike where a pause is
asked for. -/
lemma Agree.perform (h : Agree R machine other) (mnemonic : String) (opcode : Opcode)
    (operands : List Operand)
    (hpause : ∀ operand rest seconds, opcode = .slp → operands = operand :: rest →
      machine.store.read operand = .ok seconds →
        Host.PauseAlike R machine.host other.host seconds) :
    SameOutcome R (perform mnemonic opcode operands machine)
      (perform mnemonic opcode operands other) := by
  unfold Machine.perform Machine.performOn
  split
  case h_1 => exact respects_out hR _ machine other h
  case h_2 target source _ =>
    exact respects_bind (respects_value source) (respects_assign target) machine other h
  case h_3 => exact respects_defineAlias _ _ machine other h
  case h_4 => exact respects_showState hR machine other h
  case h_5 =>
    refine respects_modify (fun machine other h => ?_) machine other h
    cases h with
    | intro h => exact .intro h
  case h_6 operand rest =>
    exact h.pause fun seconds => hpause operand rest seconds rfl rfl
  case h_7 => exact respects_exchange hR _ machine other h
  case h_8 a b _ =>
    exact respects_bind (respects_value a) (fun _ => respects_bind (respects_value b) fun _ =>
      respects_onStore _) machine other h
  case h_9 => exact respects_branch _ _ machine other h
  case h_10 op a b _ =>
    exact respects_bind (respects_value a) (fun x => respects_bind (respects_value b) fun y =>
      respects_bind (respects_query_const (op.apply x y)) (respects_assign a)) machine other h
  case h_11 op a _ =>
    exact respects_bind (respects_value a) (fun x =>
      respects_bind (respects_query_const (op.apply x)) (respects_assign a)) machine other h
  case h_12 => exact respects_throw _ machine other h

/-! ## Steps -/

/-- Instructions do the same on machines that agree, also those that are not known. -/
lemma Agree.execute (h : Agree R machine other)
    (hpause : ∀ operand rest seconds, Opcode.ofMnemonic? instruction.mnemonic = some .slp →
      instruction.operands = operand :: rest → machine.store.read operand = .ok seconds →
        Host.PauseAlike R machine.host other.host seconds) :
    SameOutcome R (execute instruction machine) (execute instruction other) := by
  simp only [Machine.execute_def]
  cases hopcode : Opcode.ofMnemonic? instruction.mnemonic with
  | some opcode =>
    refine h.perform hR _ _ _ fun operand rest seconds hslp => ?_
    exact hpause operand rest seconds (hslp ▸ hopcode)
  | none => exact respects_throw _ machine other h

/-- Machines that agree agree after the failure of an instruction. -/
lemma Agree.fail (h : Agree R machine other) (instruction : Instruction) (cause : Cause) :
    Agree R (machine.fail instruction cause) (other.fail instruction cause) := by
  cases h with
  | intro h => exact .intro (hR.write _ h)

/-- Machines that agree agree after the same instruction. -/
lemma Agree.executeTraced (h : Agree R machine other)
    (hpause : ∀ operand rest seconds, Opcode.ofMnemonic? instruction.mnemonic = some .slp →
      instruction.operands = operand :: rest → machine.store.read operand = .ok seconds →
        Host.PauseAlike R machine.host other.host seconds) :
    Agree R (machine.executeTraced instruction) (other.executeTraced instruction) := by
  have hsame := h.execute hR hpause
  simp only [Machine.executeTraced_def]
  generalize Machine.execute instruction machine = first at hsame
  generalize Machine.execute instruction other = second at hsame
  cases hsame with
  | ok a h =>
    cases h with
    | intro h => exact .intro h
  | error cause h =>
    dsimp only
    split
    · exact h.fail hR instruction cause
    · cases h with
      | intro h => exact .intro h

/-- **Machines that agree agree after a step**, if the hosts answer alike where the step asks for a
pause.

**Proof sketch.** Both machines move on to the same instruction, or past the last one. One of them
may record its registers, which does not fail on a sound store; the instruction then does the same
(`Agree.executeTraced`). -/
lemma Agree.step (h : Agree R machine other) (hstore : machine.store.IsSound count)
    (hpc : machine.isRunning → 0 ≤ machine.pc)
    (hpause : ∀ seconds, machine.pauseRequest? = some seconds →
      Host.PauseAlike R machine.host other.host seconds) :
    Agree R machine.step other.step := by
  have hother : other.isRunning = machine.isRunning := h.isRunning_eq
  cases hrunning : machine.isRunning with
  | false =>
    rw [step_of_not_isRunning hrunning, step_of_not_isRunning (hother.trans hrunning)]
    exact h
  | true =>
    have hother : other.isRunning := hother.trans hrunning
    by_cases hend : machine.program.size < machine.pc + 1
    · rw [step_eq_stop hrunning hend]
      cases h with
      | intro h =>
        rw [step_eq_stop hother hend]
        exact .intro h
    · have hle : machine.pc + 1 ≤ machine.program.size := Int.not_lt.1 hend
      have hlower : 0 ≤ machine.pc := hpc hrunning
      obtain ⟨instruction, hfetch, -⟩ := Program.fetch?_of_pos (by omega) hle
      obtain ⟨log, hlog⟩ := exists_log_step_eq_executeTraced hrunning hle hfetch hstore
      cases h with
      | @intro host trace log₀ h =>
        let other : Machine := { machine with host, trace, log := log₀ }
        have hstore' : other.store.IsSound count := hstore
        obtain ⟨log', hlog'⟩ := exists_log_step_eq_executeTraced hother hle hfetch hstore'
        rw [hlog, hlog']
        refine Agree.executeTraced hR (.intro h) fun operand rest seconds hopcode hoperands hread =>
          hpause seconds ?_
        exact pauseRequest?_eq_some hrunning hfetch hopcode hoperands hread

/-! ## Runs -/

/-- **Machines that agree agree after any number of steps**, if the hosts answer alike where a step
asks for a pause.

**Proof sketch.** Induction on the number of steps. The first machine is sound after all of them
(`isSound_iterate_step`), so that one more step keeps the agreement (`Agree.step`). -/
lemma Agree.iterate_step {config : Config} {source : String} {host : Host}
    (hlink : Program.link config source = .ok program)
    (h : Agree R (fresh config host program) other)
    (hpause : ∀ i < calls, ∀ seconds host',
      (Machine.step^[i] (fresh config host program)).pauseRequest? = some seconds →
      R (Machine.step^[i] (fresh config host program)).host host' →
        Host.PauseAlike R (Machine.step^[i] (fresh config host program)).host host' seconds) :
    Agree R (Machine.step^[calls] (fresh config host program)) (Machine.step^[calls] other) := by
  induction calls with
  | zero => exact h
  | succ calls ih =>
    have hagree := ih fun i hi => hpause i (Nat.lt_succ_of_lt hi)
    have hlast := hpause calls (Nat.lt_succ_self calls)
    have hsound := isSound_iterate_step hlink host calls
    rw [Function.iterate_succ_apply', Function.iterate_succ_apply']
    generalize Machine.step^[calls] (fresh config host program) = machine at hagree hlast hsound
    refine hagree.step hR hsound.store (fun hrunning => hsound.control.pc_nonneg ?_)
      fun seconds hrequest => hlast seconds _ hrequest hagree.host
    simpa [isRunning, hsound.escaped?_eq] using hrunning

end Simulation

/-! ## Records -/

/-- What a machine records does not matter. -/
lemma Agree.report (h : Agree R machine other) (record : Log.Record) :
    Agree R machine (other.report record) := by
  cases h with
  | intro h => exact .intro h

/-- That the end of a run is recorded does not matter. -/
lemma Agree.finish (h : Agree R machine other) : Agree R machine other.finish := by
  unfold Machine.finish
  split
  · exact h.report _
  · exact h

/-- **A run is so many steps, whatever is recorded.** On equal hosts there is no condition on
pauses. -/
lemma Agree.run {config : Config} {source : String} {host : Host}
    (hlink : Program.link config source = .ok program)
    (h : Agree Eq (fresh config host program) other) (fuel : Nat) :
    Agree Eq (Machine.step^[fuel] (fresh config host program)) (other.run fuel) := by
  rw [run_def, runFor_eq_iterate]
  refine Agree.finish (Agree.iterate_step Host.isSimulation_eq hlink (h.report _) ?_)
  rintro i - seconds _ - rfl
  exact Host.pauseAlike_eq _ seconds

end Machine

end RegisterMachine
