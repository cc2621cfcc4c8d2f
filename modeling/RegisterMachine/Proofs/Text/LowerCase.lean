import RegisterMachine.Text.Blank
import RegisterMachine.Text.LowerCase
import Mathlib.Tactic.Common

set_option autoImplicit false
set_option relaxedAutoImplicit false

/-!
# Lower case

A text in lower case stays as it is when it is lower-cased again. Lower-casing makes letters out of
letters: it never makes a blank, a colon or a semicolon.

## Main definitions

* `RegisterMachine.Text.IsSettled` — characters that lower-casing keeps.
* `RegisterMachine.Text.IsPartner` — what lower-casing makes of other characters.

## Main results

* `RegisterMachine.Text.lowerChar_eq_or` — a character is kept or turned into partners.
* `RegisterMachine.Text.lower_lower` — lower case is stable.
* `RegisterMachine.Text.mem_lower`, `RegisterMachine.Text.getLast?_lowerAfter` — separators in
  lower-case text were there before.
-/

namespace RegisterMachine.Text

/-- A character that is its own lower case, wherever it stands. -/
structure IsSettled (c : Char) : Prop where
  lowerChar_eq : lowerChar c = [c]
  ne_sigma : c ≠ 'Σ'

/-- A character that lower-casing may make of another one. -/
structure IsPartner (c : Char) : Prop where
  isSettled : IsSettled c
  not_isBlank : isBlank c = false
  ne_semicolon : c ≠ ';'
  ne_colon : c ≠ ':'

/-! ## Partners of letters in runs -/

namespace LowerRun

/-- Whether the partners of all letters of a run lie outside a range. -/
def avoids (run : LowerRun) (range : Nat × Nat) : Bool :=
  (run.last + run.shift).toNat.blt range.1 || range.2.blt (run.first + run.shift).toNat

/-- Whether no partner of a letter of a run belongs to another run, because the two lie apart or
because partners and letters alternate. -/
def avoidsRun (run other : LowerRun) : Bool :=
  run.avoids (other.first, other.last) ||
    other.stride == 2 && (run.stride == 2 || run.first == run.last) &&
      (run.first + run.shift - other.first) % 2 == 1

/-- Whether the partners of all letters of a run are characters. -/
def hasCharacters (run : LowerRun) : Bool :=
  0 ≤ run.first + run.shift &&
    (run.last + run.shift < 0xD800 ||
      0xDFFF < run.first + run.shift && run.last + run.shift < 0x110000)

variable {run other : LowerRun} {n : Nat}

lemma contains_iff :
    run.contains n ↔ run.first ≤ n ∧ n ≤ run.last ∧ (n - run.first) % run.stride = 0 := by
  simp [contains, and_assoc]

/-- The code point of a partner. -/
lemma toNat_apply (hcharacters : run.hasCharacters) (h : run.contains n) :
    ((run.apply n).toNat : Int) = n + run.shift := by
  obtain ⟨hfirst, hlast, -⟩ := contains_iff.1 h
  simp only [hasCharacters, Bool.and_eq_true, Bool.or_eq_true, decide_eq_true_eq] at hcharacters
  have hvalid : (n + run.shift).toNat.isValidChar := by
    simp only [Nat.isValidChar]
    omega
  have hchar : (run.apply n).toNat = (n + run.shift).toNat := by
    rw [apply, Char.ofNat, dif_pos hvalid]
    rfl
  omega

/-- A run that avoids a range has no partner in it. -/
lemma not_mem_of_avoids {range : Nat × Nat} {m : Nat} (havoids : run.avoids range)
    (h : run.contains n) (hm : (m : Int) = n + run.shift) : ¬ (range.1 ≤ m ∧ m ≤ range.2) := by
  obtain ⟨hfirst, hlast, -⟩ := contains_iff.1 h
  simp only [avoids, Bool.or_eq_true, Nat.blt_eq] at havoids
  omega

/-- A run that avoids another run has no partner in it. -/
lemma not_contains_of_avoidsRun {m : Nat} (havoids : run.avoidsRun other)
    (h : run.contains n) (hm : (m : Int) = n + run.shift) : other.contains m = false := by
  by_contra hother
  obtain ⟨hfirst, hlast, hstride⟩ := contains_iff.1 h
  obtain ⟨hfirst', hlast', hstride'⟩ := contains_iff.1 (Bool.not_eq_false _ ▸ hother)
  simp only [avoidsRun, Bool.or_eq_true, Bool.and_eq_true, beq_iff_eq] at havoids
  obtain hapart | ⟨⟨htwo', htwo | hsingle⟩, hodd⟩ := havoids
  · exact not_mem_of_avoids hapart h hm ⟨hfirst', hlast'⟩
  · rw [htwo] at hstride
    rw [htwo'] at hstride'
    omega
  · rw [htwo'] at hstride'
    omega

end LowerRun

/-- Where no partner of a letter lies: blanks, colon and semicolon, capitals and the dotted capital
letter that becomes two characters. -/
def reservedRanges : List (Nat × Nat) :=
  [(0x09, 0x0D), (0x1C, 0x20), (0x3A, 0x3B), (0x41, 0x5A), (0x85, 0x85), (0xA0, 0xA0),
   (0x130, 0x130), (0x1680, 0x1680), (0x2000, 0x200A), (0x2028, 0x2029), (0x202F, 0x202F),
   (0x205F, 0x205F), (0x3000, 0x3000)]

/-- Partners of letters in runs are characters, they lie in no run and in no reserved range. -/
lemma lowerRuns_avoid : ∀ run ∈ lowerRuns, run.hasCharacters ∧
    (∀ other ∈ lowerRuns, run.avoidsRun other) ∧ ∀ range ∈ reservedRanges, run.avoids range := by
  have hall : lowerRuns.all fun run =>
      run.hasCharacters && lowerRuns.all run.avoidsRun && reservedRanges.all run.avoids := by
    decide +kernel
  intro run hrun
  have hchecks := List.all_eq_true.1 hall run hrun
  simp only [Bool.and_eq_true, List.all_eq_true] at hchecks
  exact ⟨hchecks.1.1, hchecks.1.2, hchecks.2⟩

/-! ## Single characters -/

variable {c d : Char}

/-- An ASCII character that is no capital is its own lower case. -/
lemma toLower_of_not_capital (h : ¬ (0x41 ≤ c.toNat ∧ c.toNat ≤ 0x5A)) : c.toLower = c := by
  refine dif_neg fun hcapital => h ⟨?_, ?_⟩
  · exact UInt32.le_iff_toNat_le.1 hcapital.1
  · exact UInt32.le_iff_toNat_le.1 hcapital.2

/-- The lower case of an ASCII capital. -/
lemma toNat_toLower_of_capital (h : 0x41 ≤ c.toNat ∧ c.toNat ≤ 0x5A) :
    c.toLower.toNat = c.toNat + 0x20 := by
  have hcapital : c.val ≥ 'A'.val ∧ c.val ≤ 'Z'.val :=
    ⟨UInt32.le_iff_toNat_le.2 h.1, UInt32.le_iff_toNat_le.2 h.2⟩
  have hlower : c.toLower = ⟨c.val + ('a'.val - 'A'.val), _⟩ := dif_pos hcapital
  rw [hlower]
  change (c.val + 32).toNat = c.val.toNat + 32
  rw [UInt32.toNat_add]
  change (c.toNat + 32) % 4294967296 = c.toNat + 32
  omega

/-- A character that lies in no run and in no reserved range may be a partner. -/
lemma isPartner_of_forall
    (hruns : 0x80 ≤ d.toNat → ∀ run ∈ lowerRuns, run.contains d.toNat = false)
    (hranges : ∀ range ∈ reservedRanges, ¬ (range.1 ≤ d.toNat ∧ d.toNat ≤ range.2)) :
    IsPartner d := by
  simp only [reservedRanges, List.forall_mem_cons] at hranges
  have hne : ∀ e : Char, d.toNat ≠ e.toNat → d ≠ e := fun e h heq => h (congrArg Char.toNat heq)
  refine ⟨⟨?_, ?_⟩, ?_, hne ';' ?_, hne ':' ?_⟩
  · rw [lowerChar]
    split
    · rw [toLower_of_not_capital (by omega)]
    · next hascii =>
      have hnone : lowerRuns.find? (·.contains d.toNat) = none :=
        List.find?_eq_none.2 fun run hrun => by simp [hruns (by omega) run hrun]
      rw [if_neg (hne 'İ' ?_), hnone]
      change d.toNat ≠ 0x130
      omega
  · -- the capital sigma lies in a run
    rintro rfl
    have hany : lowerRuns.any (·.contains ('Σ').toNat) := by decide +kernel
    obtain ⟨run, hrun, hcontains⟩ := List.any_eq_true.1 hany
    rw [hruns (by decide) run hrun] at hcontains
    cases hcontains
  · simp only [isBlank, Bool.or_eq_false_iff, Bool.and_eq_false_iff, decide_eq_false_iff_not,
      beq_eq_false_iff_ne]
    omega
  · change d.toNat ≠ 0x3B
    omega
  · change d.toNat ≠ 0x3A
    omega

/-- A character that a search of the runs and of the reserved ranges does not find may be a
partner. -/
lemma isPartner_of_all (h : (lowerRuns.all fun run => !run.contains d.toNat) &&
    reservedRanges.all fun range => !(range.1 ≤ d.toNat && d.toNat ≤ range.2)) : IsPartner d := by
  obtain ⟨hruns, hranges⟩ := Bool.and_eq_true_iff.1 h
  refine isPartner_of_forall (fun _ run hrun => ?_) fun range hrange => ?_
  · simpa using List.all_eq_true.1 hruns run hrun
  · simpa [or_iff_not_imp_left] using List.all_eq_true.1 hranges range hrange

/-- The partner of a letter in a run may be a partner. -/
lemma isPartner_apply {run : LowerRun} {n : Nat} (hrun : run ∈ lowerRuns) (h : run.contains n) :
    IsPartner (run.apply n) := by
  obtain ⟨hcharacters, hruns, hranges⟩ := lowerRuns_avoid run hrun
  have hcode := run.toNat_apply hcharacters h
  exact isPartner_of_forall
    (fun _ other hother => run.not_contains_of_avoidsRun (hruns other hother) h hcode)
    fun range hrange => run.not_mem_of_avoids (hranges range hrange) h hcode

/-- A small ASCII letter may be a partner. -/
lemma isPartner_of_small (h : 0x61 ≤ d.toNat ∧ d.toNat ≤ 0x7A) : IsPartner d := by
  refine isPartner_of_forall (fun hascii => by omega) ?_
  simp only [reservedRanges, List.forall_mem_cons]
  refine ⟨?_, ?_, ?_, ?_, ?_, ?_, ?_, ?_, ?_, ?_, ?_, ?_, ?_, List.forall_mem_nil _⟩ <;> omega

/-- **A character is its own lower case, or it becomes characters that may be partners.** -/
lemma lowerChar_eq_or (c : Char) : lowerChar c = [c] ∨ ∀ d ∈ lowerChar c, IsPartner d := by
  by_cases hascii : c.toNat < 0x80
  · rw [lowerChar, if_pos hascii]
    by_cases hcapital : 0x41 ≤ c.toNat ∧ c.toNat ≤ 0x5A
    · have hcode := toNat_toLower_of_capital hcapital
      refine .inr fun d hd => ?_
      rw [List.mem_singleton.1 hd]
      exact isPartner_of_small (by omega)
    · exact .inl (by rw [toLower_of_not_capital hcapital])
  · rw [lowerChar, if_neg hascii]
    split
    · -- the dotted capital letter becomes a small letter and a combining dot
      have hdot : IsPartner '\u0307' := isPartner_of_all (by decide +kernel)
      refine .inr (List.forall_mem_cons.2 ⟨isPartner_of_small (by decide), ?_⟩)
      exact List.forall_mem_singleton.2 hdot
    · cases hfind : lowerRuns.find? (·.contains c.toNat) with
      | none => exact .inl rfl
      | some run =>
        have hcontains : run.contains c.toNat := by simpa using List.find?_some hfind
        refine .inr fun d hd => ?_
        rw [List.mem_singleton.1 hd]
        exact isPartner_apply (List.mem_of_find?_eq_some hfind) hcontains

/-- A character does not vanish. -/
lemma lowerChar_ne_nil (c : Char) : lowerChar c ≠ [] := by
  unfold lowerChar
  split
  · simp
  · split
    · simp
    · split <;> simp

/-! ## Texts -/

/-- What a character becomes between the characters in front of it, the nearest one first, and those
behind it. -/
def lowerBetween (before rest : List Char) (c : Char) : List Char :=
  if c = 'Σ' then [if startsCased before && !startsCased rest then 'ς' else 'σ'] else lowerChar c

lemma lowerAfter_cons (before rest : List Char) (c : Char) :
    lowerAfter before (c :: rest) = lowerBetween before rest c ++ lowerAfter (c :: before) rest :=
  rfl

/-- A character is kept or becomes characters that may be partners, whatever stands around it. -/
lemma lowerBetween_eq_or (before rest : List Char) (c : Char) :
    (lowerBetween before rest c = [c] ∧ IsSettled c) ∨
      ∀ d ∈ lowerBetween before rest c, IsPartner d := by
  unfold lowerBetween
  split
  · have hfinal : IsPartner 'ς' := isPartner_of_all (by decide +kernel)
    have hinner : IsPartner 'σ' := isPartner_of_all (by decide +kernel)
    refine .inr (List.forall_mem_singleton.2 ?_)
    split
    · exact hfinal
    · exact hinner
  · next hsigma => exact (lowerChar_eq_or c).imp_left fun h => ⟨h, h, hsigma⟩

lemma lowerBetween_ne_nil (before rest : List Char) (c : Char) :
    lowerBetween before rest c ≠ [] := by
  unfold lowerBetween
  split
  · simp
  · exact lowerChar_ne_nil c

/-- A text of settled characters is its own lower case.

**Proof sketch.** Induction on the characters, whatever stands in front of them: none of them is a
capital sigma, so the context does not matter. -/
lemma lowerAfter_of_isSettled {cs : List Char} (h : ∀ c ∈ cs, IsSettled c) (before : List Char) :
    lowerAfter before cs = cs := by
  induction cs generalizing before with
  | nil => rfl
  | cons c rest ih =>
    obtain ⟨hc, hrest⟩ := List.forall_mem_cons.1 h
    rw [lowerAfter_cons, lowerBetween, if_neg hc.ne_sigma, hc.lowerChar_eq, ih hrest,
      List.singleton_append]

/-- Characters of lower-case text are settled; they were there before or may be partners. -/
lemma mem_lowerAfter {cs before : List Char} (h : d ∈ lowerAfter before cs) :
    (d ∈ cs ∧ IsSettled d) ∨ IsPartner d := by
  induction cs generalizing before with
  | nil => cases h
  | cons c rest ih =>
    rw [lowerAfter_cons] at h
    rcases List.mem_append.1 h with hhead | htail
    · obtain ⟨himage, hc⟩ | hpartners := lowerBetween_eq_or before rest c
      · rw [himage, List.mem_singleton] at hhead
        subst hhead
        exact .inl ⟨List.mem_cons_self, hc⟩
      · exact .inr (hpartners d hhead)
    · exact (ih htail).imp_left fun ⟨hmem, hd⟩ => ⟨List.mem_cons_of_mem c hmem, hd⟩

/-- **Lower case is stable**: a text in lower case stays as it is. -/
lemma lower_lower (text : String) : lower (lower text) = lower text := by
  have hsettled : ∀ c ∈ (lower text).toList, IsSettled c := by
    intro c hc
    rw [lower, String.toList_ofList] at hc
    exact (mem_lowerAfter hc).elim And.right IsPartner.isSettled
  rw [lower, lowerAfter_of_isSettled hsettled, String.ofList_toList]

/-- A character of lower-case text was there before or may be a partner. -/
lemma mem_lower {text : String} (h : d ∈ (lower text).toList) : d ∈ text.toList ∨ IsPartner d := by
  rw [lower, String.toList_ofList] at h
  exact (mem_lowerAfter h).imp_left And.left

/-- A text does not vanish. -/
lemma lowerAfter_ne_nil {cs : List Char} (h : cs ≠ []) (before : List Char) :
    lowerAfter before cs ≠ [] := by
  obtain ⟨c, rest, rfl⟩ := List.exists_cons_of_ne_nil h
  rw [lowerAfter_cons]
  exact List.append_ne_nil_of_left_ne_nil (lowerBetween_ne_nil before rest c) _

/-- A colon at the end of lower-case text was there before. -/
lemma getLast?_lowerAfter {cs before : List Char} (h : (lowerAfter before cs).getLast? = some ':') :
    cs.getLast? = some ':' := by
  induction cs generalizing before with
  | nil => cases h
  | cons c rest ih =>
    rw [lowerAfter_cons] at h
    obtain rfl | hne := eq_or_ne rest []
    · obtain ⟨himage, -⟩ | hpartners := lowerBetween_eq_or before [] c
      · simpa [himage, lowerAfter] using h
      · simp only [lowerAfter, List.append_nil] at h
        exact absurd rfl (hpartners ':' (List.mem_of_getLast? h)).ne_colon
    · rw [List.getLast?_append,
        Option.or_of_isSome (List.getLast?_isSome.2 (lowerAfter_ne_nil hne _))] at h
      rw [List.getLast?_cons_of_ne_nil hne]
      exact ih h

end RegisterMachine.Text
