import RegisterMachine.Proofs.Operand.DigitLimit

set_option autoImplicit false
set_option relaxedAutoImplicit false

/-!
# Operands and the texts within them

Brackets nest, and an operand in brackets holds the operand that they surround. So an operand and
its text are built alike: at every level the operand is the one that its text denotes, and there are
as many levels as the text has pairs of outer brackets. This holds whatever the registers are
called.

## Main definitions

* `RegisterMachine.Operand.nested` — an operand and all operands within its brackets.
* `RegisterMachine.Operand.Describes` — what an operand of each kind says of its own text.
* `RegisterMachine.Operand.outerPairs` — how many pairs of outer brackets a text has.
* `RegisterMachine.Operand.IsOverlongAmong` — texts that denote no operand.

## Main results

* `RegisterMachine.Operand.ofTextAmong_eq_ok_iff` — a text denotes the operand that describes it.
* `RegisterMachine.Operand.operands_describe_themselves` — what the operands of a text say of it.
-/

namespace RegisterMachine

namespace Operand

variable {names : Finset String} {text : String} {operand inner : Operand} {cs inside : List Char}

/-! ## Brackets -/

/-- A text stands in brackets. -/
def IsBracketed (text : String) : Prop :=
  ∃ inside : String, text = "[" ++ inside ++ "]"

/-- Without a line feed, everything between the first bracket and the last stands in them. -/
lemma bracketed?_eq_some_iff (h : '\n' ∉ cs) :
    bracketed? cs = some inside ↔ cs = '[' :: (inside ++ [']']) := by
  rw [bracketed?, Literal.beforeFinalBreak_of_not_mem h]
  constructor
  · intro hsome
    split at hsome
    · next rest =>
      split at hsome
      · next hlast =>
        rw [Bool.and_eq_true, decide_eq_true_eq] at hlast
        obtain ⟨front, rfl⟩ := List.getLast?_eq_some_iff.1 hlast.1
        obtain rfl := Option.some.inj hsome
        rw [List.dropLast_concat]
      · cases hsome
    · cases hsome
  · rintro rfl
    have hinside : '\n' ∉ inside := fun hmem => h (by simp [hmem])
    simp [hinside]

/-- The texts that have brackets, as strings. -/
lemma toList_brackets_iff {inside : String} :
    text = "[" ++ inside ++ "]" ↔ text.toList = '[' :: (inside.toList ++ [']']) := by
  rw [← String.toList_inj]
  simp [String.toList_append]

/-- A text without a line feed stands in brackets if the reader finds some. -/
lemma bracketed?_eq_none_iff (h : '\n' ∉ text.toList) :
    bracketed? text.toList = none ↔ ¬ IsBracketed text := by
  rw [Option.eq_none_iff_forall_ne_some, IsBracketed, not_exists]
  constructor
  · rintro hnone inside rfl
    exact hnone inside.toList ((bracketed?_eq_some_iff h).2 (toList_brackets_iff.1 rfl))
  · intro hbracket inside hsome
    refine hbracket (String.ofList inside) (toList_brackets_iff.2 ?_)
    rw [String.toList_ofList]
    exact (bracketed?_eq_some_iff h).1 hsome

/-- How many pairs of outer brackets a text has: as many as it has brackets at that end which has
fewer. -/
def outerPairs (cs : List Char) : Nat :=
  min (cs.takeWhile (· = '[')).length (cs.reverse.takeWhile (· = ']')).length

/-- What is taken from the front of a text ends before a last character outside the class. -/
lemma takeWhile_concat {p : Char → Bool} {c : Char} (hc : p c = false) (cs : List Char) :
    (cs ++ [c]).takeWhile p = cs.takeWhile p := by
  induction cs with
  | nil => simp [hc]
  | cons d cs ih => simp only [List.cons_append, List.takeWhile_cons, ih]

/-- Brackets around a text are one pair more. -/
lemma outerPairs_brackets (inside : List Char) :
    outerPairs ('[' :: (inside ++ [']'])) = outerPairs inside + 1 := by
  have hfront : (('[' :: (inside ++ [']'])).takeWhile (· = '[')).length =
      (inside.takeWhile (· = '[')).length + 1 := by
    rw [List.takeWhile_cons_of_pos (by decide), takeWhile_concat (by decide), List.length_cons]
  have hback : (('[' :: (inside ++ [']'])).reverse.takeWhile (· = ']')).length =
      (inside.reverse.takeWhile (· = ']')).length + 1 := by
    rw [List.reverse_cons, List.reverse_concat, takeWhile_concat (by decide),
      List.takeWhile_cons_of_pos (by decide), List.length_cons]
  rw [outerPairs, hfront, hback, outerPairs]
  omega

/-- A text that stands in no brackets has no pair of outer ones. -/
lemma outerPairs_eq_zero (h : ¬ IsBracketed text) : outerPairs text.toList = 0 := by
  refine Nat.eq_zero_of_not_pos fun hpos => h ?_
  rw [outerPairs, Nat.lt_min] at hpos
  obtain ⟨rest, hfront⟩ : ∃ rest, text.toList = '[' :: rest := by
    cases hcs : text.toList with
    | nil => simp [hcs] at hpos
    | cons c rest =>
      by_cases hc : c = '['
      · exact ⟨rest, by rw [hc]⟩
      · simp [hcs, hc] at hpos
  obtain ⟨front, hback⟩ : ∃ front, text.toList = front ++ [']'] := by
    rcases List.eq_nil_or_concat text.toList with hcs | ⟨front, c, hcs⟩
    · simp [hcs] at hpos
    · by_cases hc : c = ']'
      · exact ⟨front, by rw [hcs, hc, List.concat_eq_append]⟩
      · simp [hcs, hc] at hpos
  -- one character cannot be both brackets
  cases front with
  | nil => simp [hfront] at hback
  | cons c inside =>
    obtain ⟨rfl, -⟩ : '[' = c ∧ rest = inside ++ [']'] := by simpa [hfront] using hback
    refine ⟨String.ofList inside, toList_brackets_iff.2 ?_⟩
    rw [String.toList_ofList, hback, List.cons_append]

/-! ## What operands say of their texts -/

/-- An operand, and all operands within its brackets. -/
def nested : Operand → List Operand
  | .indirect text inner => .indirect text inner :: inner.nested
  | .register text => [.register text]
  | .literal text value => [.literal text value]
  | .symbol text => [.symbol text]

/-- How many brackets stand around the innermost operand. -/
def depth : Operand → Nat
  | .indirect _ inner => inner.depth + 1
  | .register _ | .literal _ _ | .symbol _ => 0

/-- What an operand says of its own text: brackets come first, then registers, then numbers. -/
inductive Describes (names : Finset String) : Operand → Prop
  | indirect (inner : Operand) : Describes names (.indirect ("[" ++ inner.text ++ "]") inner)
  | register {text : String} (hbracket : ¬ IsBracketed text) (hname : Text.lower text ∈ names) :
      Describes names (.register text)
  | literal {text : String} {value : Number} (hbracket : ¬ IsBracketed text)
      (hname : Text.lower text ∉ names) (hvalue : Literal.read text = .ok (some value)) :
      Describes names (.literal text value)
  | symbol {text : String} (hbracket : ¬ IsBracketed text) (hname : Text.lower text ∉ names)
      (hvalue : Literal.read text = .ok none) : Describes names (.symbol text)

/-- What is nested in an operand within brackets is nested in the whole. -/
lemma nested_subset (h : inner ∈ operand.nested) : inner.nested ⊆ operand.nested := by
  induction operand with
  | indirect text inside ih =>
    obtain rfl | h := List.mem_cons.1 h
    · exact List.Subset.refl _
    · exact List.subset_cons_of_subset _ (ih h)
  | register | literal | symbol =>
    obtain rfl := List.mem_singleton.1 h
    exact List.Subset.refl _

/-- A text without a line feed denotes an operand that describes it, at every level. -/
lemma describes_of_ofCharsAmong (hbreak : '\n' ∉ cs) (h : ofCharsAmong names cs = .ok operand) :
    operand.text = String.ofList cs ∧ ∀ u ∈ operand.nested, u.Describes names := by
  induction cs using innermost.induct generalizing operand with
  | case1 cs inside hbracket ih =>
    obtain rfl := (bracketed?_eq_some_iff hbreak).1 hbracket
    simp only [ofCharsAmong_of_bracketed hbracket, Except.bind_eq_ok, Except.pure_eq_ok] at h
    obtain ⟨inner, hinner, rfl⟩ := h
    obtain ⟨htext, hnested⟩ := ih (fun hmem => hbreak (by simp [hmem])) hinner
    have hbrackets : String.ofList ('[' :: (inside ++ [']'])) = "[" ++ inner.text ++ "]" := by
      rw [toList_brackets_iff, htext, String.toList_ofList, String.toList_ofList]
    refine ⟨rfl, List.forall_mem_cons.2 ⟨?_, hnested⟩⟩
    rw [hbrackets]
    exact .indirect inner
  | case2 cs hbracket =>
    have hplain : ¬ IsBracketed (String.ofList cs) := by
      rw [← bracketed?_eq_none_iff (by rwa [String.toList_ofList]), String.toList_ofList]
      exact hbracket
    rw [ofCharsAmong_of_not_bracketed hbracket, ofPlainTextAmong_eq_ok_iff] at h
    obtain ⟨hname, rfl⟩ | ⟨hname, ⟨value, hvalue, rfl⟩ | ⟨hvalue, rfl⟩⟩ := h
    · exact ⟨rfl, List.forall_mem_singleton.2 (.register hplain hname)⟩
    · exact ⟨rfl, List.forall_mem_singleton.2 (.literal hplain hname hvalue)⟩
    · exact ⟨rfl, List.forall_mem_singleton.2 (.symbol hplain hname hvalue)⟩

/-- An operand that describes its text at every level is the one that the text denotes. -/
lemma ofTextAmong_of_describes (hbreak : '\n' ∉ operand.text.toList)
    (h : ∀ u ∈ operand.nested, u.Describes names) :
    ofTextAmong names operand.text = .ok operand := by
  have hplain : ∀ {text}, '\n' ∉ text.toList → ¬ IsBracketed text →
      ofTextAmong names text = ofPlainTextAmong names text := by
    intro text hbreak hbracket
    rw [ofTextAmong, ofCharsAmong_of_not_bracketed ((bracketed?_eq_none_iff hbreak).2 hbracket),
      String.ofList_toList]
  induction operand with
  | indirect text inner ih =>
    obtain ⟨hself, hnested⟩ := List.forall_mem_cons.1 h
    cases hself with
    | indirect =>
      have hcs := toList_brackets_iff.1 (rfl : "[" ++ inner.text ++ "]" = _)
      have hinner : ofCharsAmong names inner.text.toList = .ok inner :=
        ih (fun hmem => hbreak (by rw [Operand.text, hcs]; simp [hmem])) hnested
      have hbracket := (bracketed?_eq_some_iff hbreak).2 hcs
      rw [ofTextAmong, ofCharsAmong_of_bracketed hbracket, hinner, String.ofList_toList]
      rfl
  | register text =>
    cases List.forall_mem_singleton.1 h with
    | register hbracket hname =>
      exact (hplain hbreak hbracket).trans (ofPlainTextAmong_eq_ok_iff.2 (.inl ⟨hname, rfl⟩))
  | literal text value =>
    cases List.forall_mem_singleton.1 h with
    | literal hbracket hname hvalue =>
      exact (hplain hbreak hbracket).trans
        (ofPlainTextAmong_eq_ok_iff.2 (.inr ⟨hname, .inl ⟨value, hvalue, rfl⟩⟩))
  | symbol text =>
    cases List.forall_mem_singleton.1 h with
    | symbol hbracket hname hvalue =>
      exact (hplain hbreak hbracket).trans
        (ofPlainTextAmong_eq_ok_iff.2 (.inr ⟨hname, .inr ⟨hvalue, rfl⟩⟩))

/-- **A text without a line feed denotes the operand that describes it at every level.** -/
lemma ofTextAmong_eq_ok_iff (hbreak : '\n' ∉ text.toList) :
    ofTextAmong names text = .ok operand ↔
      operand.text = text ∧ ∀ u ∈ operand.nested, u.Describes names := by
  constructor
  · intro h
    have hdescribes := describes_of_ofCharsAmong hbreak h
    rwa [String.ofList_toList] at hdescribes
  · rintro ⟨rfl, h⟩
    exact ofTextAmong_of_describes hbreak h

/-- The texts of nested operands are parts of the text. -/
lemma mem_text_of_mem_nested (h : ∀ u ∈ operand.nested, u.Describes names)
    (hinner : inner ∈ operand.nested) {c : Char} (hc : c ∈ inner.text.toList) :
    c ∈ operand.text.toList := by
  induction operand with
  | indirect text inside ih =>
    obtain ⟨hself, hnested⟩ := List.forall_mem_cons.1 h
    obtain rfl | hinside := List.mem_cons.1 hinner
    · exact hc
    · cases hself with
      | indirect =>
        rw [Operand.text, toList_brackets_iff.1 rfl]
        simp [ih hnested hinside]
  | register | literal | symbol =>
    obtain rfl := List.mem_singleton.1 hinner
    exact hc

/-- **An operand has as many brackets as its text has pairs of outer ones.** -/
lemma depth_eq_outerPairs (h : ∀ u ∈ operand.nested, u.Describes names) :
    operand.depth = outerPairs operand.text.toList := by
  induction operand with
  | indirect text inner ih =>
    obtain ⟨hself, hnested⟩ := List.forall_mem_cons.1 h
    cases hself with
    | indirect =>
      rw [depth, ih hnested, Operand.text, toList_brackets_iff.1 rfl, outerPairs_brackets]
  | register | literal | symbol =>
    cases List.forall_mem_singleton.1 h with
    | _ hbracket => exact (outerPairs_eq_zero hbracket).symm

/-! ## Texts without an operand -/

/-- The text within all brackets is none of the names, and is a decimal integer with too many
digits, not too many of which are left without the zeros in front. -/
structure IsOverlongAmong (names : Finset String) (text : String) : Prop where
  lower_not_mem : Text.lower (String.ofList (innermost text.toList)) ∉ names
  limit_lt : DigitLimit.limit < (Literal.integerDigits (innermost text.toList)).length
  significant_le :
    (Literal.significantDigits (innermost text.toList)).length ≤ Literal.maxIntegerDigits

/-- **A text denotes no operand if it is overlong.** -/
lemma ofTextAmong_eq_error_iff {e : DigitLimit} :
    ofTextAmong names text = .error e ↔
      IsOverlongAmong names text ∧
        e = ⟨(Literal.integerDigits (innermost text.toList)).length⟩ := by
  rw [ofTextAmong, ofCharsAmong_eq_error_iff, Literal.readChars_eq_error_iff]
  constructor
  · rintro ⟨hname, hlimit, hsignificant, rfl⟩
    exact ⟨⟨hname, hlimit, hsignificant⟩, rfl⟩
  · rintro ⟨⟨hname, hlimit, hsignificant⟩, rfl⟩
    exact ⟨hname, hlimit, hsignificant, rfl⟩

/-- **Operands describe their texts.** Whatever the registers are called, the operand that a text
without a line feed denotes has that text, and each operand nested in it is the one that its own
text denotes. The text of an operand in brackets is the inner text with brackets around it. All
other operands have a text that stands in no brackets: the lower-case spelling of a register's text
is one of the names, a literal has the value of its text, and a symbol's text is neither a name nor
a number. So the depth of an operand is the number of pairs of outer brackets. A text denotes no
operand if it is overlong, and only then. A machine reads its operands so, with the names of its
registers.

**Proof sketch.** An operand describes its text at every level if and only if the text denotes it
(`ofTextAmong_eq_ok_iff`), and what is nested in an operand that does so does so as well. Brackets
around a text are one pair of outer brackets more, and all other texts have none. -/
theorem operands_describe_themselves (names : Finset String) (text : String)
    (hbreak : '\n' ∉ text.toList) :
    (∀ operand, ofTextAmong names text = .ok operand →
      operand.text = text ∧
      (∀ u ∈ operand.nested, ofTextAmong names u.text = .ok u ∧ u.Describes names) ∧
      operand.depth = outerPairs text.toList) ∧
    ((∃ operand, ofTextAmong names text = .ok operand) ↔ ¬ IsOverlongAmong names text) ∧
    (IsOverlongAmong names text →
      ofTextAmong names text =
        .error ⟨(Literal.integerDigits (innermost text.toList)).length⟩) ∧
    ∀ count, ofTextAmong (RegisterName.names count) text = ofText count text := by
  refine ⟨fun operand hread => ?_, ?_, fun h => ofTextAmong_eq_error_iff.2 ⟨h, rfl⟩,
    fun count => ofTextAmong_names count text⟩
  · obtain ⟨rfl, hdescribes⟩ := (ofTextAmong_eq_ok_iff hbreak).1 hread
    refine ⟨rfl, fun u hu => ⟨?_, hdescribes u hu⟩, depth_eq_outerPairs hdescribes⟩
    exact ofTextAmong_of_describes
      (fun hmem => hbreak (mem_text_of_mem_nested hdescribes hu hmem))
      fun v hv => hdescribes v (nested_subset hu hv)
  · cases hread : ofTextAmong names text with
    | ok operand =>
      simp only [Except.ok.injEq, exists_eq', true_iff]
      intro hoverlong
      rw [ofTextAmong_eq_error_iff.2 ⟨hoverlong, rfl⟩] at hread
      cases hread
    | error e => simp [(ofTextAmong_eq_error_iff.1 hread).1]

/-- The outer brackets of a text are taken off at both ends, whatever stands between them, until one
end has none. -/
theorem operands_describe_themselves_of_brackets :
    let symbol := Operand.symbol "a][b"
    let operand := Operand.indirect "[[a][b]]" (.indirect "[a][b]" symbol)
    ofTextAmong (RegisterName.names 16) "[[a][b]]" = .ok operand ∧
      ofTextAmong (RegisterName.names 16) "[a][b]" = .ok (.indirect "[a][b]" symbol) ∧
      symbol.Describes (RegisterName.names 16) ∧
      outerPairs "[[a][b]]".toList = 2 := by
  intro symbol operand
  obtain ⟨hoperands, -, -, hmachine⟩ :=
    operands_describe_themselves (RegisterName.names 16) "[[a][b]]" (by decide)
  have hread : ofTextAmong (RegisterName.names 16) "[[a][b]]" = .ok operand := by
    have hsymbol : ofPlainText 16 (String.ofList "a][b".toList) = .ok symbol := by decide +kernel
    have houter : bracketed? "[[a][b]]".toList = some "[a][b]".toList := by decide
    have hinner : bracketed? "[a][b]".toList = some "a][b".toList := by decide
    have hplain : bracketed? "a][b".toList = none := by decide
    rw [hmachine, ofText, ofChars_of_bracketed houter, ofChars_of_bracketed hinner,
      ofChars_of_not_bracketed hplain, hsymbol]
    rfl
  obtain ⟨-, hnested, hdepth⟩ := hoperands operand hread
  exact ⟨hread, (hnested (.indirect "[a][b]" symbol) (by simp [operand, nested])).1,
    (hnested symbol (by simp [operand, nested, symbol])).2, hdepth.symm⟩

/-- A row of zeros denotes no operand on the reference machine if there are more than an integer may
have digits, although it has no brackets and no line feed. -/
theorem overlong_zeros_denote_no_operand :
    '\n' ∉ (String.ofList (List.replicate 4301 '0')).toList ∧
      ofTextAmong (RegisterName.names 16) (String.ofList (List.replicate 4301 '0')) =
        .error ⟨4301⟩ ∧
      ¬ ∃ operand,
        ofTextAmong (RegisterName.names 16) (String.ofList (List.replicate 4301 '0')) =
          .ok operand := by
  have hlimit : DigitLimit.limit < 4301 := by decide
  have hread : ofTextAmong (RegisterName.names 16) (String.ofList (List.replicate 4301 '0')) =
      .error ⟨4301⟩ := by
    rw [ofTextAmong_names, ofText_eq_error_iff, String.toList_ofList, innermost_zeros,
      integerDigits_zeros, List.length_replicate]
    exact ⟨isOverlong_zeros hlimit, rfl⟩
  refine ⟨?_, hread, ?_⟩
  · rw [String.toList_ofList]
    exact fun hmem => absurd (List.eq_of_mem_replicate hmem) (by decide)
  · rw [hread]
    simp

end Operand

end RegisterMachine
