import RegisterMachine.Fault

set_option autoImplicit false
set_option relaxedAutoImplicit false

/-!
# Actions

An action works on a state and may fail. What it has done to the state before it fails stays done.

## Main definitions

* `RegisterMachine.Action` — a computation on a state that may fail.
* `RegisterMachine.Action.query` — a computation from the state, which stays as it is.
* `RegisterMachine.Action.update` — a computation of the next state.
* `RegisterMachine.Action.within` — an action on a part of the state.

## Main results

* `RegisterMachine.Action.bind_eq_ok`, `RegisterMachine.Action.bind_eq_error` — what a sequence of
  two actions does, success and failure apart. The other `_eq_ok` and `_eq_error` theorems say the
  same of single actions, so that simplification takes a whole sequence apart.
-/

namespace RegisterMachine

/-! ## Computations without a state -/

namespace Except

variable {ε α β : Type} {x : Except ε α} {e : ε}

@[simp]
theorem pure_eq_ok {a b : α} : (pure a : Except ε α) = .ok b ↔ b = a := by
  simp [pure, Except.pure, eq_comm]

@[simp]
theorem pure_eq_error {a : α} : (pure a : Except ε α) = .error e ↔ False := by
  simp [pure, Except.pure]

@[simp]
theorem bind_eq_ok {f : α → Except ε β} {b : β} :
    x >>= f = .ok b ↔ ∃ a, x = .ok a ∧ f a = .ok b := by
  cases x <;> simp [bind, Except.bind]

@[simp]
theorem bind_eq_error {f : α → Except ε β} :
    x >>= f = .error e ↔ x = .error e ∨ ∃ a, x = .ok a ∧ f a = .error e := by
  cases x <;> simp [bind, Except.bind]

@[simp]
theorem map_eq_ok {f : α → β} {b : β} : f <$> x = .ok b ↔ ∃ a, x = .ok a ∧ f a = b := by
  cases x <;> simp [Functor.map, Except.map]

@[simp]
theorem map_eq_error {f : α → β} : f <$> x = .error e ↔ x = .error e := by
  cases x <;> simp [Functor.map, Except.map]

@[simp]
theorem mapError_eq_ok {ε' : Type} {f : ε → ε'} {a : α} : x.mapError f = .ok a ↔ x = .ok a := by
  cases x with
  | ok b =>
    change (.ok b : Except ε' α) = .ok a ↔ (.ok b : Except ε α) = .ok a
    simp
  | error e =>
    change (.error (f e) : Except ε' α) = .ok a ↔ (.error e : Except ε α) = .ok a
    simp

@[simp]
theorem mapError_eq_error {ε' : Type} {f : ε → ε'} {e' : ε'} :
    x.mapError f = .error e' ↔ ∃ e, x = .error e ∧ f e = e' := by
  cases x with
  | ok a =>
    change (.ok a : Except ε' α) = .error e' ↔ ∃ e, (.ok a : Except ε α) = .error e ∧ f e = e'
    simp
  | error e =>
    change (.error (f e) : Except ε' α) = .error e' ↔ _
    simp

/-- What a computation on every element of a list gives, it gives on one of them. -/
theorem exists_of_mem_of_mapM_eq_ok {f : α → Except ε β} {as : List α} {bs : List β} {b : β}
    (h : as.mapM f = .ok bs) (hb : b ∈ bs) : ∃ a ∈ as, f a = .ok b := by
  induction as generalizing bs with
  | nil =>
    obtain rfl : bs = [] := by simpa using h
    cases hb
  | cons a as ih =>
    simp only [List.mapM_cons, bind_eq_ok, pure_eq_ok] at h
    obtain ⟨first, hfirst, rest, hrest, rfl⟩ := h
    rcases List.mem_cons.1 hb with rfl | hb
    · exact ⟨a, List.mem_cons_self, hfirst⟩
    · obtain ⟨a', ha', hb'⟩ := ih hrest hb
      exact ⟨a', List.mem_cons_of_mem a ha', hb'⟩

/-- A computation on every element of a list fails on one of them. -/
theorem exists_of_mapM_eq_error {f : α → Except ε β} {as : List α} (h : as.mapM f = .error e) :
    ∃ a ∈ as, f a = .error e := by
  induction as with
  | nil => simp at h
  | cons a as ih =>
    simp only [List.mapM_cons, bind_eq_error, pure_eq_error, and_false, exists_false,
      or_false] at h
    obtain hfirst | ⟨_, -, hrest⟩ := h
    · exact ⟨a, List.mem_cons_self, hfirst⟩
    · obtain ⟨a', ha', he⟩ := ih hrest
      exact ⟨a', List.mem_cons_of_mem a ha', he⟩

end Except

/-! ## Actions -/

/-- A computation on a state that may fail. A failure keeps the state that was reached. -/
abbrev Action (σ α : Type) := EStateM Cause σ α

namespace Action

variable {σ τ α β : Type}

/-- Computes from the state, which stays as it is. -/
def query (f : σ → Except Cause α) : Action σ α := fun s =>
  match f s with
  | .ok a => .ok a s
  | .error cause => .error cause s

/-- Computes the next state; the state stays as it is if that fails. -/
def update (f : σ → Except Cause σ) : Action σ Unit := fun s =>
  match f s with
  | .ok next => .ok () next
  | .error cause => .error cause s

/-- An action on a part of the state, with the part read and put back. -/
def within (part : τ → σ) (put : τ → σ → τ) (action : Action σ α) : Action τ α := fun t =>
  match action (part t) with
  | .ok a s => .ok a (put t s)
  | .error cause s => .error cause (put t s)

/-! ## Success and failure -/

variable {s t : σ} {cause : Cause}

@[simp]
theorem pure_eq_ok {a b : α} : (pure a : Action σ α) s = .ok b t ↔ b = a ∧ t = s := by
  change EStateM.Result.ok a s = .ok b t ↔ _
  simp [eq_comm]

@[simp]
theorem pure_eq_error {a : α} : (pure a : Action σ α) s = .error cause t ↔ False := by
  change EStateM.Result.ok a s = .error cause t ↔ _
  simp

@[simp]
theorem throw_eq_ok {e : Cause} {a : α} : (throw e : Action σ α) s = .ok a t ↔ False := by
  change EStateM.Result.error e s = .ok a t ↔ _
  simp

@[simp]
theorem throw_eq_error {e : Cause} :
    (throw e : Action σ α) s = .error cause t ↔ cause = e ∧ t = s := by
  change EStateM.Result.error e s = .error cause t ↔ _
  simp [eq_comm]

@[simp]
theorem get_eq_ok {a : σ} : (get : Action σ σ) s = .ok a t ↔ a = s ∧ t = s := by
  change EStateM.Result.ok s s = .ok a t ↔ _
  simp [eq_comm]

@[simp]
theorem get_eq_error : (get : Action σ σ) s = .error cause t ↔ False := by
  change EStateM.Result.ok s s = .error cause t ↔ _
  simp

@[simp]
theorem get_bind {next : σ → Action σ α} : (get >>= next) s = next s s := rfl

@[simp]
theorem modify_eq_ok {f : σ → σ} {u : Unit} : (modify f : Action σ Unit) s = .ok u t ↔ t = f s := by
  change EStateM.Result.ok () (f s) = .ok u t ↔ _
  simp [eq_comm]

@[simp]
theorem modify_eq_error {f : σ → σ} : (modify f : Action σ Unit) s = .error cause t ↔ False := by
  change EStateM.Result.ok () (f s) = .error cause t ↔ _
  simp

@[simp]
theorem query_eq_ok {f : σ → Except Cause α} {a : α} :
    query f s = .ok a t ↔ f s = .ok a ∧ t = s := by
  unfold query
  split <;> simp [*, eq_comm]

@[simp]
theorem query_eq_error {f : σ → Except Cause α} :
    query f s = .error cause t ↔ f s = .error cause ∧ t = s := by
  unfold query
  split <;> simp [*, eq_comm]

@[simp]
theorem update_eq_ok {f : σ → Except Cause σ} {u : Unit} : update f s = .ok u t ↔ f s = .ok t := by
  unfold update
  split <;> simp [*]

@[simp]
theorem update_eq_error {f : σ → Except Cause σ} :
    update f s = .error cause t ↔ f s = .error cause ∧ t = s := by
  unfold update
  split <;> simp [*, eq_comm]

@[simp]
theorem within_eq_ok {part : τ → σ} {put : τ → σ → τ} {action : Action σ α} {x y : τ} {a : α} :
    within part put action x = .ok a y ↔ ∃ s, action (part x) = .ok a s ∧ y = put x s := by
  unfold within
  cases h : action (part x) with
  | ok b s =>
    simp only [EStateM.Result.ok.injEq, and_assoc, exists_and_left, exists_eq_left', eq_comm]
  | error cause s => simp

@[simp]
theorem within_eq_error {part : τ → σ} {put : τ → σ → τ} {action : Action σ α} {x y : τ} :
    within part put action x = .error cause y ↔
      ∃ s, action (part x) = .error cause s ∧ y = put x s := by
  unfold within
  cases h : action (part x) with
  | ok b s => simp
  | error e s =>
    simp only [EStateM.Result.error.injEq, and_assoc, exists_and_left, exists_eq_left', eq_comm]

/-- A sequence succeeds if both of its actions do, the second in the state that the first leaves. -/
@[simp]
theorem bind_eq_ok {action : Action σ α} {next : α → Action σ β} {b : β} :
    (action >>= next) s = .ok b t ↔ ∃ a r, action s = .ok a r ∧ next a r = .ok b t := by
  simp only [bind, EStateM.bind]
  cases h : action s with
  | ok a r => simp only [EStateM.Result.ok.injEq, and_assoc, exists_and_left, exists_eq_left']
  | error e r => simp

/-- A sequence fails if its first action does, or its second in the state that the first leaves. -/
@[simp]
theorem bind_eq_error {action : Action σ α} {next : α → Action σ β} :
    (action >>= next) s = .error cause t ↔
      action s = .error cause t ∨ ∃ a r, action s = .ok a r ∧ next a r = .error cause t := by
  simp only [bind, EStateM.bind]
  cases h : action s with
  | ok a r =>
    simp only [reduceCtorEq, false_or, EStateM.Result.ok.injEq, and_assoc, exists_and_left,
      exists_eq_left']
  | error e r => simp

/-- Two computations that give the same from a state may be exchanged in front of actions that do
the same on it. -/
theorem query_bind_congr {f g : σ → Except Cause α} {next other : α → Action σ β} (hfg : f s = g s)
    (hnext : ∀ a, f s = .ok a → next a s = other a s) :
    (query f >>= next) s = (query g >>= other) s := by
  simp only [bind, EStateM.bind, query, ← hfg]
  cases hf : f s with
  | ok a => exact hnext a hf
  | error cause => rfl

/-- What is computed from a state first may fail; then nothing comes after it. -/
theorem query_bind_of_error {f : σ → Except Cause α} {next : α → Action σ β}
    (hf : f s = .error cause) : (query f >>= next) s = .error cause s := by
  simp only [bind, EStateM.bind, query, hf]

@[simp]
theorem map_eq_ok {action : Action σ α} {f : α → β} {b : β} :
    (f <$> action) s = .ok b t ↔ ∃ a, action s = .ok a t ∧ f a = b := by
  simp only [Functor.map, EStateM.map]
  cases h : action s with
  | ok a r =>
    simp only [EStateM.Result.ok.injEq, and_assoc]
    exact ⟨fun ⟨hb, hr⟩ => ⟨a, rfl, hr, hb⟩, fun ⟨_, ha, hr, hb⟩ => ⟨ha ▸ hb, hr⟩⟩
  | error e r => simp

@[simp]
theorem map_eq_error {action : Action σ α} {f : α → β} :
    (f <$> action) s = .error cause t ↔ action s = .error cause t := by
  simp only [Functor.map, EStateM.map]
  cases h : action s <;> simp

end Action

end RegisterMachine
