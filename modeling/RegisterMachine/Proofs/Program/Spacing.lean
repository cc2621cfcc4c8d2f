import RegisterMachine.Proofs.Program.Line

set_option autoImplicit false
set_option relaxedAutoImplicit false

/-!
# Blanks on a line

The words behind a mnemonic are joined before they are split at commas. So it does not matter where
blanks stand behind the first token of an instruction, how many there are and which, nor how many
commas stand between its arguments or what its comment says: the first token and the characters
behind it that are no blanks decide.

## Main definitions

* `RegisterMachine.Line.firstToken` — the first token of a line.
* `RegisterMachine.Line.remainder` — the characters behind the first token, without the blanks.
* `RegisterMachine.Line.commaParts` — what stands between commas.

## Main results

* `RegisterMachine.Line.firstWord_eq_firstToken`, `RegisterMachine.Line.operandTexts_eq_commaParts`
  — the parts of a line without its words.
* `RegisterMachine.Line.statement_eq_instruction_iff` — when a line is an instruction, and which.
* `RegisterMachine.Line.spacing_means_nothing` — what the arguments of an instruction are.
-/

namespace RegisterMachine.Line

open Text

variable {cs : List Char} {mnemonic : String} {args : List String}

/-- The first token of a line: all up to the first blank, without the comment and the blanks in
front of it. -/
def firstToken (cs : List Char) : List Char :=
  (stripped cs).takeWhile (!isBlank ·)

/-- What follows the first token of a line in front of the comment, without the blanks. -/
def remainder (cs : List Char) : List Char :=
  ((stripped cs).dropWhile (!isBlank ·)).filter (!isBlank ·)

/-- The parts of a text between commas, without the empty ones. -/
def commaParts (cs : List Char) : List String :=
  ((cs.splitOn ',').filter (· ≠ [])).map String.ofList

/-! ## Parts of a line -/

/-- The words of a line that says something. -/
lemma words_stripped (h : stripped cs ≠ []) :
    words (stripped cs) = firstToken cs :: words ((stripped cs).dropWhile (!isBlank ·)) :=
  fields_eq_cons h fun _ hfirst => not_isBlank_of_head?_trim hfirst

/-- A line has a first token if it says something. -/
lemma firstToken_eq_nil_iff : firstToken cs = [] ↔ stripped cs = [] := by
  constructor
  · intro htoken
    by_contra hne
    have hmem : firstToken cs ∈ words (stripped cs) := by
      rw [words_stripped hne]
      exact List.mem_cons_self
    exact ne_nil_of_mem_fields hmem htoken
  · intro hempty
    rw [firstToken, hempty, List.takeWhile_nil]

/-- **The first word of a line is its first token.** -/
lemma firstWord_eq_firstToken (cs : List Char) : firstWord cs = firstToken cs := by
  by_cases hempty : stripped cs = []
  · rw [firstToken_eq_nil_iff.2 hempty, firstWord, hempty]
    rfl
  · rw [firstWord, words_stripped hempty, List.headD_cons]

/-- The other words of a line hold all that follows its first token but the blanks. -/
lemma flatten_tail_words (cs : List Char) : (words (stripped cs)).tail.flatten = remainder cs := by
  by_cases hempty : stripped cs = []
  · rw [remainder, hempty]
    rfl
  · rw [words_stripped hempty, List.tail_cons, words, flatten_fields, remainder]

/-- **The operands of a line are what stands between commas behind its first token.** -/
lemma operandTexts_eq_commaParts (cs : List Char) :
    operandTexts cs = commaParts (remainder cs) := by
  rw [operandTexts, arguments, flatten_tail_words, commaParts, fields, pieces_eq_splitOnP,
    List.splitOn]
  congr 2
  funext part
  cases part <;> rfl

/-! ## Instructions -/

/-- A line is an instruction if it has a first token that does not end with a colon. -/
lemma isInstruction_iff :
    isInstruction cs ↔ firstToken cs ≠ [] ∧ (firstToken cs).getLast? ≠ some ':' := by
  have hempty : stripped cs ≠ [] ↔ firstToken cs ≠ [] := firstToken_eq_nil_iff.symm.not
  rw [isInstruction, firstWord_eq_firstToken, Bool.and_eq_true, Bool.not_eq_true',
    List.isEmpty_eq_false_iff, bne_iff_ne, hempty]

/-- **The first token and what follows it without blanks decide** whether a line is an instruction,
and which. -/
lemma statement_eq_instruction_iff :
    (ofChars? cs).map statement = some (.instruction mnemonic args) ↔
      firstToken cs = mnemonic.toList ∧ mnemonic.toList ≠ [] ∧
        mnemonic.toList.getLast? ≠ some ':' ∧ args = commaParts (remainder cs) := by
  have hstatement : (ofChars? cs).map statement = some (.instruction mnemonic args) ↔
      isInstruction cs ∧ String.ofList (firstToken cs) = mnemonic ∧
        commaParts (remainder cs) = args := by
    rw [ofChars?_eq, ← firstWord_eq_firstToken, ← operandTexts_eq_commaParts]
    by_cases hinstruction : isInstruction cs
    · simp [hinstruction, not_isLabel_of_isInstruction hinstruction]
    · by_cases hlabel : isLabel cs <;> simp [hinstruction, hlabel]
  rw [hstatement, isInstruction_iff]
  constructor
  · rintro ⟨⟨hne, hcolon⟩, rfl, rfl⟩
    rw [String.toList_ofList]
    exact ⟨rfl, hne, hcolon, rfl⟩
  · rintro ⟨htoken, hne, hcolon, rfl⟩
    rw [htoken]
    exact ⟨⟨hne, hcolon⟩, String.ofList_toList, rfl⟩

/-- The text of an instruction is the mnemonic, a blank and the arguments with commas between. -/
lemma toList_instruction (mnemonic : String) (args : List String) :
    (mnemonic ++ " " ++ ",".intercalate args).toList = instructionText mnemonic args := by
  simp [instructionText, String.toList_append, String.toList_intercalate]

/-- **Blanks mean nothing behind a mnemonic.** If a line is an instruction, its mnemonic is its
first token, and its arguments are what follows the first token, in front of the comment, without
blanks and split at commas, with the empty parts dropped. So no argument is empty or holds a blank,
a comma or a semicolon. Every line that has the same first token, and the same behind it apart from
blanks, is the same instruction, and so is the mnemonic with a blank behind it and the arguments
with commas between them.

**Proof sketch.** The words of a line behind its first token hold all its characters there but the
blanks (`flatten_fields`), and these alone are split at commas. So the first token and they decide
(`statement_eq_instruction_iff`). The arguments can be joined with commas and split again because
none of them has a comma (`of_instructionText`). -/
theorem spacing_means_nothing (text mnemonic : String) (args : List String)
    (hread : (ofText? text).map statement = some (.instruction mnemonic args)) :
    mnemonic.toList = firstToken text.toList ∧
    args = commaParts (remainder text.toList) ∧
    (∀ arg ∈ args, arg ≠ "" ∧ ∀ c ∈ arg.toList, isBlank c = false ∧ c ≠ ',' ∧ c ≠ ';') ∧
    (∀ other : String, firstToken other.toList = firstToken text.toList →
      remainder other.toList = remainder text.toList →
      (ofText? other).map statement = some (.instruction mnemonic args)) ∧
    (ofText? (mnemonic ++ " " ++ ",".intercalate args)).map statement =
      some (.instruction mnemonic args) := by
  obtain ⟨htoken, hne, hcolon, hargs⟩ := statement_eq_instruction_iff.1 hread
  have htexts : ∀ arg ∈ args, IsOperandText arg := by
    rw [hargs, ← operandTexts_eq_commaParts]
    exact fun arg => isOperandText_of_mem
  have hmnemonic : IsToken mnemonic.toList := by
    rw [← htoken] at hne hcolon
    rw [← htoken, ← firstWord_eq_firstToken]
    exact isToken_firstWord (.inr (isInstruction_iff.2 ⟨hne, hcolon⟩))
  refine ⟨htoken.symm, hargs, fun arg harg => ⟨?_, fun c hc => ?_⟩,
    fun other hfirst hrest => ?_, ?_⟩
  · rintro rfl
    exact (htexts _ harg).isToken.ne_nil rfl
  · obtain ⟨harg, hcomma⟩ := htexts arg harg
    exact ⟨harg.not_isBlank c hc, hcomma c hc, harg.no_comment c hc⟩
  · exact statement_eq_instruction_iff.2 ⟨hfirst.trans htoken, hne, hcolon, by rw [hargs, hrest]⟩
  · obtain ⟨-, hfirst, hoperands⟩ := of_instructionText hmnemonic htexts hcolon
    rw [firstWord_eq_firstToken] at hfirst
    rw [operandTexts_eq_commaParts] at hoperands
    rw [ofText?, toList_instruction]
    exact statement_eq_instruction_iff.2 ⟨hfirst, hne, hcolon, hoperands.symm⟩

/-- Blanks within an argument, empty arguments and a comment leave no trace, and an ideographic
space is a blank as well. -/
theorem spacing_means_nothing_of_blanks :
    (ofText? "  MOV [ r0 ],, 0x 10 ,; a,b").map statement =
        some (.instruction "MOV" ["[r0]", "0x10"]) ∧
      (ofText? "MOV\u3000[r0],,0x10,").map statement =
        some (.instruction "MOV" ["[r0]", "0x10"]) ∧
      (ofText? "MOV [r0],0x10").map statement = some (.instruction "MOV" ["[r0]", "0x10"]) := by
  have hread : (ofText? "  MOV [ r0 ],, 0x 10 ,; a,b").map statement =
      some (.instruction "MOV" ["[r0]", "0x10"]) := by decide +kernel
  obtain ⟨-, -, -, hother, hjoined⟩ := spacing_means_nothing _ _ _ hread
  exact ⟨hread, hother "MOV\u3000[r0],,0x10," (by decide +kernel) (by decide +kernel), hjoined⟩

end RegisterMachine.Line
