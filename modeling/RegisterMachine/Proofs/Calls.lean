import RegisterMachine.Action
import Mathlib.Data.List.Induction

set_option autoImplicit false
set_option relaxedAutoImplicit false

/-!
# Sequences of calls

Calls are performed one after the other, each on the state that the one before it has left, also if
that one failed. A place that is only changed by what is written to it holds what has been written
to it last.

## Main definitions

* `RegisterMachine.Action.leave` — the state that an action leaves.
* `RegisterMachine.Action.leaveAll` — the state that a sequence of calls leaves.

## Main results

* `RegisterMachine.Action.kept_leaveAll` — what every call keeps, a sequence of calls keeps.
* `RegisterMachine.Action.content_leaveAll` — what a place holds after a sequence of calls.
-/

namespace RegisterMachine.Action

variable {σ α κ β γ : Type} {perform : κ → Action σ α} {s : σ}

/-- The state that an action leaves, whether it succeeds or fails. -/
def leave (action : Action σ α) (s : σ) : σ :=
  match action s with
  | .ok _ t | .error _ t => t

/-- The state that calls leave, each performed on what the one before it has left. -/
def leaveAll (perform : κ → Action σ α) (calls : List κ) (s : σ) : σ :=
  calls.foldl (fun s call => (perform call).leave s) s

lemma leave_of_eq_ok {action : Action σ α} {a : α} {t : σ} (h : action s = .ok a t) :
    action.leave s = t := by
  rw [leave, h]

lemma leave_of_eq_error {action : Action σ α} {cause : Cause} {t : σ}
    (h : action s = .error cause t) : action.leave s = t := by
  rw [leave, h]

@[simp]
lemma leaveAll_concat (calls : List κ) (call : κ) (s : σ) :
    leaveAll perform (calls ++ [call]) s = (perform call).leave (leaveAll perform calls s) := by
  simp [leaveAll]

/-- What every call keeps, a sequence of calls keeps. -/
lemma kept_leaveAll (kept : σ → γ)
    (hkept : ∀ call s, kept ((perform call).leave s) = kept s) (calls : List κ) (s : σ) :
    kept (leaveAll perform calls s) = kept s := by
  induction calls using List.reverseRecOn with
  | nil => rfl
  | append_singleton calls call ih => rw [leaveAll_concat, hkept, ih]

/-- **A place holds what has been written to it last**, or what it held at first if nothing has been
written to it. -/
lemma content_leaveAll (kept : σ → γ) (content : σ → β) {written? : κ → Option β}
    (hkept : ∀ call s, kept ((perform call).leave s) = kept s)
    (hcontent : ∀ call t, kept t = kept s →
      content ((perform call).leave t) = (written? call).getD (content t)) (calls : List κ) :
    content (leaveAll perform calls s) = (calls.filterMap written?).getLastD (content s) := by
  induction calls using List.reverseRecOn with
  | nil => rfl
  | append_singleton calls call ih =>
    rw [leaveAll_concat, hcontent call _ (kept_leaveAll kept hkept calls s), ih,
      List.filterMap_append]
    cases hwritten : written? call with
    | none => simp [hwritten]
    | some value => simp [hwritten, List.getLastD_eq_getLast?]

end RegisterMachine.Action
