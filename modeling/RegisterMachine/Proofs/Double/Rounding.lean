import RegisterMachine.Proofs.Number.Range

set_option autoImplicit false
set_option relaxedAutoImplicit false

/-!
# Rounding within the range

A fraction that is not above the largest double rounds to a double. The significand of the rounded
fraction has 53 bits, or is the next power of two; with the largest exponent it cannot be that power
of two, because the largest double is not exceeded.

## Main results

* `RegisterMachine.Double.roundDiv_le` — rounding does not go beyond a whole bound.
* `RegisterMachine.Double.exists_nearest?` — a fraction within the range rounds to a double.
* `RegisterMachine.Double.exists_ofInt?` — an integer within the range rounds to a double.
-/

namespace RegisterMachine.Double

/-- Rounding to a whole number does not go beyond a whole bound. -/
lemma roundDiv_le {num den bound : Nat} (hden : 0 < den) (h : num ≤ bound * den) :
    roundDiv num den ≤ bound := by
  have hsplit : den * (num / den) + num % den = num := Nat.div_add_mod num den
  have hquotient : num / den ≤ bound := Nat.div_le_of_le_mul (by rwa [Nat.mul_comm])
  unfold roundDiv
  dsimp only
  rcases Nat.lt_or_eq_of_le hquotient with hlt | heq
  · split
    · omega
    · split <;> omega
  · -- the fraction equals the bound, so there is no rest to round
    have hrest : num % den = 0 := by
      rw [heq, Nat.mul_comm] at hsplit
      omega
    rw [if_pos (by omega)]
    exact hquotient

/-- The least place that leaves 53 bits before the point leaves less than the next power of two. -/
lemma le_shiftLeft_of_log2_le {scaled den place : Nat} (hden : 0 < den)
    (hplace : (scaled / den).log2 ≤ place + 52) :
    scaled ≤ 0x20000000000000 * (den <<< place) := by
  have hlog : scaled / den < 2 ^ (place + 53) :=
    Nat.lt_of_lt_of_le Nat.lt_log2_self (Nat.pow_le_pow_right (by decide) (by omega))
  have hlt : scaled < 2 ^ (place + 53) * den := (Nat.div_lt_iff_lt_mul hden).1 hlog
  have hpow : 2 ^ (place + 53) * den = 0x20000000000000 * (den <<< place) := by
    rw [Nat.shiftLeft_eq, Nat.pow_add, Nat.mul_comm den, ← Nat.mul_assoc, Nat.mul_comm (2 ^ place)]
  omega

/-- The largest double in units: its significand has all 53 bits, its exponent is the largest. -/
lemma largest_units : largest * unitsPerOne = 0x1FFFFFFFFFFFFF <<< 2045 := by
  decide +kernel

/-- The place of the last bit of a fraction within the range is at most the largest. -/
lemma log2_le_of_le_largest {quotient : Nat} (h : quotient ≤ 0x1FFFFFFFFFFFFF <<< 2045) :
    quotient.log2 ≤ 2097 := by
  rcases Nat.eq_zero_or_pos quotient with rfl | hpos
  · decide
  · have hlog : ∀ place, quotient < 2 ^ place → quotient.log2 < place :=
      fun place => (Nat.log2_lt (Nat.ne_of_gt hpos)).2
    have hlt : quotient.log2 < 2098 := hlog 2098 (Nat.lt_of_le_of_lt h (by decide +kernel))
    omega

/-- **A fraction that is not above the largest double rounds to a double.**

**Proof sketch.** The place of the last bit is at most the largest one, because the fraction is not
above the largest double. Below the largest place the significand may round up to the next power of
two, which is still a double; at the largest place it stays below that power, as the significand of
the largest double does. -/
lemma exists_nearest? (negative : Bool) {num den : Nat} (hden : 0 < den)
    (h : num ≤ largest * den) : ∃ x, nearest? negative num den = some x := by
  have hscaled : num * unitsPerOne ≤ 0x1FFFFFFFFFFFFF <<< 2045 * den := by
    rw [← largest_units, Nat.mul_right_comm]
    exact Nat.mul_le_mul_right _ h
  unfold nearest?
  dsimp only
  generalize num * unitsPerOne = scaled at hscaled
  have hquotient : scaled / den ≤ 0x1FFFFFFFFFFFFF <<< 2045 :=
    Nat.div_le_of_le_mul (by rwa [Nat.mul_comm])
  have hlog := log2_le_of_le_largest hquotient
  have hplace : (scaled / den).log2 ≤ ((scaled / den).log2 - 52) + 52 := by omega
  have hle : (scaled / den).log2 - 52 ≤ 2045 := by omega
  generalize (scaled / den).log2 - 52 = place at hplace hle
  have hshift : 0 < den <<< place := by
    rw [Nat.shiftLeft_eq]
    exact Nat.mul_pos hden (Nat.two_pow_pos place)
  suffices hbits : place * leadingBit + roundDiv scaled (den <<< place) < infinityBits from
    ⟨_, if_pos hbits⟩
  rcases Nat.lt_or_eq_of_le hle with hlt | heq
  · have hround : roundDiv scaled (den <<< place) ≤ 0x20000000000000 :=
      roundDiv_le hshift (le_shiftLeft_of_log2_le hden hplace)
    unfold leadingBit infinityBits
    omega
  · have htop : scaled ≤ 0x1FFFFFFFFFFFFF * (den <<< place) := by
      rw [← heq, Nat.shiftLeft_eq, Nat.mul_assoc, Nat.mul_comm _ den] at hscaled
      rwa [Nat.shiftLeft_eq]
    have hround : roundDiv scaled (den <<< place) ≤ 0x1FFFFFFFFFFFFF := roundDiv_le hshift htop
    unfold leadingBit infinityBits
    omega

/-- **An integer that is not above the largest double rounds to a double.** -/
lemma exists_ofInt? {n : Int} (h : n.natAbs ≤ largest) : ∃ x, ofInt? n = some x :=
  exists_nearest? _ Nat.one_pos (by rwa [Nat.mul_one])

end RegisterMachine.Double
