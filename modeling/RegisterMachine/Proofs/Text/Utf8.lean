import RegisterMachine.Text.Utf8
import Mathlib.Tactic.Common

set_option autoImplicit false
set_option relaxedAutoImplicit false

/-!
# Decoding well-formed bytes

The bytes of a text are decoded to the characters of the text, so that no text is refused.

## Main results

* `RegisterMachine.Text.Utf8.decodeFrom_encodeChar` — the bytes of one character are read as it.
* `RegisterMachine.Text.Utf8.decode_toUTF8` — decoding undoes encoding.
-/

namespace RegisterMachine.Text.Utf8

variable {position skip seen bits n : Nat} {done : List Char} {b lead : UInt8}
  {accepts : UInt8 → Bool} {c : Char} {tail rest : List UInt8}

/-! ## Sequences -/

/-- Bytes that belong to a sequence already read are skipped. -/
lemma decodeFrom_skip :
    decodeFrom position tail.length done (tail ++ rest) =
      decodeFrom (position + tail.length) 0 done rest := by
  induction tail generalizing position with
  | nil => rfl
  | cons b tail ih =>
    rw [List.length_cons, List.cons_append, decodeFrom, ih, Nat.add_right_comm, Nat.add_assoc]

/-- A sequence that is read as a character adds it to what is decoded. -/
lemma decodeFrom_of_readFollowers (hlead : followers? lead = some tail.length)
    (hread : readFollowers (isSecond lead) 1 (leadBits tail.length lead) tail.length
      (tail ++ rest) = .ok c) :
    decodeFrom position 0 done (lead :: tail ++ rest) =
      decodeFrom (position + (lead :: tail).length) 0 (c :: done) rest := by
  rw [List.cons_append, decodeFrom, hlead]
  dsimp only
  rw [hread]
  dsimp only
  rw [decodeFrom_skip, List.length_cons, Nat.add_right_comm, Nat.add_assoc]

/-- The next byte of a sequence adds its bits. -/
lemma readFollowers_of_accepts (h : accepts b) :
    readFollowers accepts seen bits (n + 1) (b :: rest) =
      readFollowers isContinuation (seen + 1) (bits * 0x40 + b.toNat % 0x40) n rest := by
  rw [readFollowers, if_pos h]

/-! ## Bytes of characters -/

/-- A number below 256 is kept by a byte. -/
lemma toNat_ofNat (h : n < 256) : (UInt8.ofNat n).toNat = n := by
  rw [UInt8.toNat_ofNat', Nat.mod_eq_of_lt h]

/-- How many bytes follow a leading byte, by its value. -/
lemma followers?_eq_some_iff :
    followers? lead = some n ↔
      (lead.toNat < 0x80 ∧ n = 0) ∨ (0xC2 ≤ lead.toNat ∧ lead.toNat < 0xE0 ∧ n = 1) ∨
      (0xE0 ≤ lead.toNat ∧ lead.toNat < 0xF0 ∧ n = 2) ∨
      (0xF0 ≤ lead.toNat ∧ lead.toNat < 0xF5 ∧ n = 3) := by
  simp only [followers?, UInt8.lt_iff_toNat_lt, UInt8.reduceToNat]
  grind

/-- Which bytes continue a sequence, by their values. -/
lemma isContinuation_iff : isContinuation b ↔ 0x80 ≤ b.toNat ∧ b.toNat < 0xC0 := by
  simp [isContinuation, UInt8.le_iff_toNat_le, UInt8.lt_iff_toNat_lt]

/-- Which bytes come second, by their values and that of the leading byte. -/
lemma isSecond_iff :
    isSecond lead b ↔
      (0x80 ≤ b.toNat ∧ b.toNat < 0xC0) ∧ (lead.toNat = 0xE0 → 0xA0 ≤ b.toNat) ∧
      (lead.toNat = 0xED → b.toNat < 0xA0) ∧ (lead.toNat = 0xF0 → 0x90 ≤ b.toNat) ∧
      (lead.toNat = 0xF4 → b.toNat < 0x90) := by
  simp only [isSecond, Bool.and_eq_true, isContinuation_iff, Bool.not_eq_true',
    Bool.and_eq_false_iff, beq_eq_false_iff_ne, ne_eq, ← UInt8.toNat_inj, UInt8.le_iff_toNat_le,
    UInt8.lt_iff_toNat_lt, decide_eq_false_iff_not, UInt8.reduceToNat]
  grind

section Lengths

variable {v : Nat}

/-- A character of one byte. -/
lemma decodeFrom_one (hv : v < 0x80) :
    decodeFrom position 0 done ([UInt8.ofNat v] ++ rest) =
      decodeFrom (position + 1) 0 (Char.ofNat v :: done) rest := by
  have hlead : (UInt8.ofNat v).toNat = v := toNat_ofNat (by omega)
  refine decodeFrom_of_readFollowers (followers?_eq_some_iff.2 ?_) ?_
  · exact .inl ⟨by omega, rfl⟩
  · rw [List.length_nil, readFollowers, leadBits, hlead]

/-- A character of two bytes. -/
lemma decodeFrom_two (hv : 0x80 ≤ v) (hv' : v < 0x800) :
    decodeFrom position 0 done
        ([UInt8.ofNat (v / 64 % 32 + 192), UInt8.ofNat (v % 64 + 128)] ++ rest) =
      decodeFrom (position + 2) 0 (Char.ofNat v :: done) rest := by
  have hlead : (UInt8.ofNat (v / 64 % 32 + 192)).toNat = v / 64 + 192 := by
    rw [toNat_ofNat (by omega)]
    omega
  have hsecond : (UInt8.ofNat (v % 64 + 128)).toNat = v % 64 + 128 := toNat_ofNat (by omega)
  refine decodeFrom_of_readFollowers (followers?_eq_some_iff.2 ?_) ?_
  · exact .inr (.inl ⟨by omega, by omega, rfl⟩)
  · have hbits : (v / 64 + 192) % 32 * 64 + (v % 64 + 128) % 64 = v := by omega
    rw [List.length_singleton, List.singleton_append,
      readFollowers_of_accepts (isSecond_iff.2 (by omega)), readFollowers, leadBits, hlead,
      hsecond, hbits]

/-- A character of three bytes: no byte that comes second starts an overlong form or a
surrogate. -/
lemma decodeFrom_three (hv : 0x800 ≤ v) (hv' : v < 0x10000) (hvalid : v.isValidChar) :
    decodeFrom position 0 done
        ([UInt8.ofNat (v / 4096 % 16 + 224), UInt8.ofNat (v / 64 % 64 + 128),
          UInt8.ofNat (v % 64 + 128)] ++ rest) =
      decodeFrom (position + 3) 0 (Char.ofNat v :: done) rest := by
  have hlead : (UInt8.ofNat (v / 4096 % 16 + 224)).toNat = v / 4096 + 224 := by
    rw [toNat_ofNat (by omega)]
    omega
  have hsecond : (UInt8.ofNat (v / 64 % 64 + 128)).toNat = v / 64 % 64 + 128 :=
    toNat_ofNat (by omega)
  have hthird : (UInt8.ofNat (v % 64 + 128)).toNat = v % 64 + 128 := toNat_ofNat (by omega)
  refine decodeFrom_of_readFollowers (followers?_eq_some_iff.2 ?_) ?_
  · exact .inr (.inr (.inl ⟨by omega, by omega, rfl⟩))
  · have hbits : ((v / 4096 + 224) % 16 * 64 + (v / 64 % 64 + 128) % 64) * 64 +
        (v % 64 + 128) % 64 = v := by omega
    rw [List.length_cons, List.length_singleton, List.cons_append, List.singleton_append,
      readFollowers_of_accepts (isSecond_iff.2 (by omega)),
      readFollowers_of_accepts (isContinuation_iff.2 (by omega)), readFollowers, leadBits, hlead,
      hsecond, hthird, hbits]

/-- A character of four bytes: no byte that comes second starts an overlong form or leaves the code
space. -/
lemma decodeFrom_four (hv : 0x10000 ≤ v) (hvalid : v.isValidChar) :
    decodeFrom position 0 done
        ([UInt8.ofNat (v / 262144 % 8 + 240), UInt8.ofNat (v / 4096 % 64 + 128),
          UInt8.ofNat (v / 64 % 64 + 128), UInt8.ofNat (v % 64 + 128)] ++ rest) =
      decodeFrom (position + 4) 0 (Char.ofNat v :: done) rest := by
  have hlead : (UInt8.ofNat (v / 262144 % 8 + 240)).toNat = v / 262144 + 240 := by
    rw [toNat_ofNat (by omega)]
    omega
  have hsecond : (UInt8.ofNat (v / 4096 % 64 + 128)).toNat = v / 4096 % 64 + 128 :=
    toNat_ofNat (by omega)
  have hthird : (UInt8.ofNat (v / 64 % 64 + 128)).toNat = v / 64 % 64 + 128 :=
    toNat_ofNat (by omega)
  have hfourth : (UInt8.ofNat (v % 64 + 128)).toNat = v % 64 + 128 := toNat_ofNat (by omega)
  refine decodeFrom_of_readFollowers (followers?_eq_some_iff.2 ?_) ?_
  · exact .inr (.inr (.inr ⟨by omega, by omega, rfl⟩))
  · have hbits : (((v / 262144 + 240) % 8 * 64 + (v / 4096 % 64 + 128) % 64) * 64 +
        (v / 64 % 64 + 128) % 64) * 64 + (v % 64 + 128) % 64 = v := by omega
    have hleadBits : ∀ b, leadBits 3 b = b.toNat % 8 := fun _ => rfl
    rw [List.length_cons, List.length_cons, List.length_singleton, List.cons_append,
      List.cons_append, List.singleton_append,
      readFollowers_of_accepts (isSecond_iff.2 (by omega)),
      readFollowers_of_accepts (isContinuation_iff.2 (by omega)),
      readFollowers_of_accepts (isContinuation_iff.2 (by omega)), readFollowers, hleadBits, hlead,
      hsecond, hthird, hfourth, hbits]

end Lengths

/-- **The bytes of one character are read as the character.** -/
lemma decodeFrom_encodeChar :
    decodeFrom position 0 done (String.utf8EncodeChar c ++ rest) =
      decodeFrom (position + (String.utf8EncodeChar c).length) 0 (c :: done) rest := by
  have hvalid : c.val.toNat.isValidChar := c.valid
  have hc : Char.ofNat c.val.toNat = c := Char.ofNat_toNat c
  suffices hread : decodeFrom position 0 done (String.utf8EncodeChar c ++ rest) =
      decodeFrom (position + (String.utf8EncodeChar c).length) 0
        (Char.ofNat c.val.toNat :: done) rest by
    rwa [hc] at hread
  unfold String.utf8EncodeChar
  dsimp only
  split
  · exact decodeFrom_one (by omega)
  split
  · exact decodeFrom_two (by omega) (by omega)
  split
  · exact decodeFrom_three (by omega) (by omega) hvalid
  · exact decodeFrom_four (by omega) hvalid

/-! ## Texts -/

/-- The bytes of characters one after the other are read as the characters. -/
lemma decodeFrom_encode (cs : List Char) :
    decodeFrom position 0 done (cs.flatMap String.utf8EncodeChar) = .ok (done.reverse ++ cs) := by
  induction cs generalizing position done with
  | nil => rw [List.flatMap_nil, decodeFrom, List.append_nil]
  | cons c cs ih =>
    rw [List.flatMap_cons, decodeFrom_encodeChar, ih, List.reverse_cons, List.append_assoc,
      List.singleton_append]

/-- **Decoding undoes encoding**: the bytes of a text denote its characters. -/
theorem decode_toUTF8 (text : String) : decode text.toUTF8.data.toList = .ok text.toList := by
  have hbytes : text.toUTF8.data.toList = text.toList.flatMap String.utf8EncodeChar := by
    rw [String.toUTF8_eq_toByteArray, ← String.utf8Encode_toList]
    exact List.toList_data_toByteArray
  rw [decode, hbytes, decodeFrom_encode]
  rfl

end RegisterMachine.Text.Utf8
