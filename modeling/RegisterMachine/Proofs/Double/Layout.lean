import RegisterMachine.Double.Layout
import Mathlib.Tactic.Common

set_option autoImplicit false
set_option relaxedAutoImplicit false

/-!
# The first character of a double's text

The text of a double starts with a digit, with a sign, or as one of the words for what is not
finite. So it can be told from other words that a message may hold in its place.

## Main results

* `RegisterMachine.Double.exists_head_text` — how the text of a double starts.
-/

namespace RegisterMachine.Double

/-- A decimal is laid out with a digit in front: its first one, or a zero. -/
lemma exists_head_write (layout : Layout) {digits : List Char} (hne : digits ≠ [])
    (hdigits : ∀ c ∈ digits, c.isDigit) (exponent : Int) :
    ∃ c rest, layout.write digits exponent = c :: rest ∧ c.isDigit := by
  obtain ⟨first, others, rfl⟩ := List.exists_cons_of_ne_nil hne
  have hfirst : first.isDigit := hdigits first (by simp)
  unfold Layout.write
  split
  · unfold positional
    split
    · exact ⟨'0', _, rfl, by decide⟩
    · dsimp only
      split
      · exact ⟨first, _, rfl, hfirst⟩
      · exact ⟨first, _, rfl, hfirst⟩
  · unfold scientific
    cases others with
    | nil => exact ⟨first, _, rfl, hfirst⟩
    | cons next rest => exact ⟨first, _, rfl, hfirst⟩

/-- **The text of a double starts with a digit, with a sign, or as a word for what is not finite.**
-/
lemma exists_head_text (x : Float) :
    ∃ c rest, (text x).toList = c :: rest ∧ (c.isDigit ∨ c = '-' ∨ c = 'i' ∨ c = 'n') := by
  unfold text
  cases exact x with
  | nan =>
    have hchars : "nan".toList = 'n' :: ['a', 'n'] := by decide
    exact ⟨'n', _, hchars, by simp⟩
  | infinite negative =>
    cases negative with
    | true =>
      have hchars : "-inf".toList = '-' :: ['i', 'n', 'f'] := by decide
      exact ⟨'-', _, hchars, by simp⟩
    | false =>
      have hchars : "inf".toList = 'i' :: ['n', 'f'] := by decide
      exact ⟨'i', _, hchars, by simp⟩
  | finite negative units =>
    dsimp only
    generalize hbody : (if units = 0 then layout.write ['0'] 0 else _) = body
    have hhead : ∃ c rest, body = c :: rest ∧ c.isDigit := by
      rw [← hbody]
      split
      · exact exists_head_write layout (by simp) (by simp) 0
      · refine exists_head_write layout Nat.toDigits_ne_nil (fun c hc => ?_) _
        exact Nat.isDigit_of_mem_toDigits (by decide) (by decide) hc
    obtain ⟨c, rest, rfl, hc⟩ := hhead
    rw [String.toList_ofList]
    cases negative with
    | true => exact ⟨'-', c :: rest, rfl, by simp⟩
    | false => exact ⟨c, rest, rfl, .inl hc⟩

end RegisterMachine.Double
