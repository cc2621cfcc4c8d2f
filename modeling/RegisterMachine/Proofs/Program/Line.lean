import RegisterMachine.Program.Line
import RegisterMachine.Proofs.Text.Lines
import Mathlib.Data.List.TakeWhile

set_option autoImplicit false
set_option relaxedAutoImplicit false

/-!
# What a line says

What is left of a line without its comment and the blanks around it says a label if its first word
ends with a colon, an instruction if it has another first word, and otherwise nothing.

## Main definitions

* `RegisterMachine.Line.firstWord`, `RegisterMachine.Line.isLabel`,
  `RegisterMachine.Line.isInstruction` — the kinds of lines.
* `RegisterMachine.Line.labelName`, `RegisterMachine.Line.operandTexts` — the parts of a line.
* `RegisterMachine.Line.IsToken`, `RegisterMachine.Line.IsOperandText` — what words and operands are
  made of.
* `RegisterMachine.Line.labelText`, `RegisterMachine.Line.instructionText` — how lines are written.

## Main results

* `RegisterMachine.Line.ofChars?_eq` — the line that characters hold, by these kinds and parts.
* `RegisterMachine.Line.stripped_stripped` — stripping a stripped line changes nothing.
* `RegisterMachine.Line.isToken_firstWord`, `RegisterMachine.Line.isOperandText_of_mem` — the
  characters of words and operands.
* `RegisterMachine.Line.of_append_blank` — how a line behind a mnemonic is read.
* `RegisterMachine.Line.of_labelText`, `RegisterMachine.Line.of_instructionText` — lines that are
  written are read back.
-/

namespace RegisterMachine.Line

open Text

variable {cs : List Char} {c : Char}

/-- The first word of a line in front of its comment; no characters if there is none. -/
def firstWord (cs : List Char) : List Char :=
  (words (stripped cs)).headD []

/-- Whether something is left of a line and its first word ends with a colon. -/
def isLabel (cs : List Char) : Bool :=
  !(stripped cs).isEmpty && (firstWord cs).getLast? == some ':'

/-- Whether something is left of a line and its first word does not end with a colon. -/
def isInstruction (cs : List Char) : Bool :=
  !(stripped cs).isEmpty && (firstWord cs).getLast? != some ':'

/-- The first word of a line without the colon behind it. -/
def labelName (cs : List Char) : String :=
  String.ofList (firstWord cs).dropLast

/-- What stands between commas in the other words of a line, joined together. -/
def operandTexts (cs : List Char) : List String :=
  arguments (words (stripped cs)).tail

/-- **The line that characters hold.** -/
lemma ofChars?_eq (cs : List Char) :
    ofChars? cs =
      if isLabel cs then some ⟨String.ofList (stripped cs), .label (labelName cs)⟩
      else if isInstruction cs then
        some ⟨String.ofList (stripped cs),
          .instruction (String.ofList (firstWord cs)) (operandTexts cs)⟩
      else none := by
  have hempty : stripped cs = [] ↔ words (stripped cs) = [] := by
    rw [stripped, trim_eq_nil_iff, words_trim]
  cases hwords : words (stripped cs) with
  | nil =>
    have hread : ofChars? cs = none := by simp only [ofChars?, hwords]
    simp [hread, isLabel, isInstruction, hempty.2 hwords]
  | cons head rest =>
    have hread : ofChars? cs = some ⟨String.ofList (stripped cs), statementOf head rest⟩ := by
      simp only [ofChars?, hwords]
    have hne : stripped cs ≠ [] := fun h => by simp [hempty.1 h] at hwords
    by_cases hcolon : head.getLast? = some ':' <;>
      simp [hread, isLabel, isInstruction, labelName, operandTexts, firstWord, hwords, statementOf,
        hcolon, hne]

/-- No line is a label and an instruction. -/
lemma not_isLabel_of_isInstruction (h : isInstruction cs) : ¬ isLabel cs := by
  simp only [isInstruction, Bool.and_eq_true, bne_iff_ne] at h
  simp [isLabel, h.2]

/-! ## Stripped lines -/

/-- What is left of a line was there, in front of its comment. -/
lemma mem_of_mem_stripped (h : c ∈ stripped cs) : c ∈ cs ∧ c ≠ ';' := by
  have hfront : c ∈ cs.takeWhile (· ≠ ';') := mem_of_mem_trim h
  exact ⟨(List.takeWhile_subset _) hfront, by simpa using List.mem_takeWhile_imp hfront⟩

/-- **A stripped line is left as it is.** -/
lemma stripped_stripped (cs : List Char) : stripped (stripped cs) = stripped cs := by
  have htake : (stripped cs).takeWhile (· ≠ ';') = stripped cs :=
    List.takeWhile_eq_self_iff.2 fun c hc => by simpa using (mem_of_mem_stripped hc).2
  calc trim ((stripped cs).takeWhile (· ≠ ';'))
      = trim (stripped cs) := by rw [htake]
    _ = stripped cs := trim_trim _

/-- A stripped line says what the line says. -/
lemma ofChars?_stripped (cs : List Char) : ofChars? (stripped cs) = ofChars? cs := by
  simp only [ofChars?, stripped_stripped]

/-! ## Characters of words -/

/-- Characters that may stand together on a line in front of its comment. -/
structure IsToken (cs : List Char) : Prop where
  ne_nil : cs ≠ []
  not_isBlank : ∀ c ∈ cs, isBlank c = false
  no_comment : ∀ c ∈ cs, c ≠ ';'

instance (cs : List Char) : Decidable (IsToken cs) :=
  decidable_of_iff (cs ≠ [] ∧ cs.all (fun c => isBlank c = false) ∧ cs.all (· ≠ ';'))
    ⟨fun ⟨hne, hblank, hcomment⟩ => ⟨hne, by simpa using hblank, by simpa using hcomment⟩,
      fun ⟨hne, hblank, hcomment⟩ => ⟨hne, by simpa using hblank, by simpa using hcomment⟩⟩

/-- Characters that may stand together between commas. -/
structure IsOperandText (text : String) : Prop where
  isToken : IsToken text.toList
  no_comma : ∀ c ∈ text.toList, c ≠ ','

/-- A word in front of a comment is a token. -/
lemma isToken_of_mem_words {word : List Char} (h : word ∈ words (stripped cs)) : IsToken word := by
  rw [stripped, words_trim] at h
  refine ⟨ne_nil_of_mem_fields h, fun c hc => (mem_of_mem_fields h hc).2, fun c hc => ?_⟩
  simpa using List.all_eq_true.1 List.all_takeWhile c (mem_of_mem_fields h hc).1

/-- The first word of a line that says something is a token. -/
lemma isToken_firstWord (h : isLabel cs ∨ isInstruction cs) : IsToken (firstWord cs) := by
  have hne : words (stripped cs) ≠ [] := by
    intro hwords
    have hempty : stripped cs = [] := by
      rw [stripped, trim_eq_nil_iff, ← words_trim]
      exact hwords
    simp [isLabel, isInstruction, hempty] at h
  obtain ⟨head, rest, hwords⟩ := List.exists_cons_of_ne_nil hne
  rw [firstWord, hwords]
  exact isToken_of_mem_words (hwords ▸ List.mem_cons_self : head ∈ words (stripped cs))

/-- Operand texts of a line may stand between commas. -/
lemma isOperandText_of_mem {text : String} (h : text ∈ operandTexts cs) : IsOperandText text := by
  obtain ⟨field, hfield, rfl⟩ := List.mem_map.1 h
  have hword : ∀ c ∈ field, ∃ word, IsToken word ∧ c ∈ word := by
    intro c hc
    obtain ⟨word, hword, hc⟩ := List.mem_flatten.1 (mem_of_mem_fields hfield hc).1
    exact ⟨word, isToken_of_mem_words (List.mem_of_mem_tail hword), hc⟩
  refine ⟨⟨?_, ?_, ?_⟩, ?_⟩ <;> rw [String.toList_ofList]
  · exact ne_nil_of_mem_fields hfield
  · intro c hc
    obtain ⟨word, htoken, hc⟩ := hword c hc
    exact htoken.not_isBlank c hc
  · intro c hc
    obtain ⟨word, htoken, hc⟩ := hword c hc
    exact htoken.no_comment c hc
  · exact fun c hc => by simpa using (mem_of_mem_fields hfield hc).2

/-! ## Written lines -/

/-- The text of a label line. -/
def labelText (name : String) : List Char :=
  name.toList ++ [':']

/-- The text of an instruction line: the mnemonic, a blank and the operands, joined with commas. -/
def instructionText (mnemonic : String) (texts : List String) : List Char :=
  mnemonic.toList ++ ' ' :: [','].intercalate (texts.map String.toList)

/-- The words of a line without a comment. -/
lemma words_stripped_of_forall (h : ∀ c ∈ cs, c ≠ ';') : words (stripped cs) = words cs := by
  have htake : cs.takeWhile (· ≠ ';') = cs :=
    List.takeWhile_eq_self_iff.2 fun c hc => by simpa using h c hc
  rw [stripped, words_trim, htake]

/-- A line is a label or an instruction by its first word. -/
lemma kind_of_words {head : List Char} {rest : List (List Char)}
    (hwords : words (stripped cs) = head :: rest) :
    firstWord cs = head ∧ (isLabel cs ↔ head.getLast? = some ':') ∧
      (isInstruction cs ↔ head.getLast? ≠ some ':') := by
  have hne : stripped cs ≠ [] := by
    intro hempty
    rw [hempty] at hwords
    cases hwords
  have hfirst : firstWord cs = head := by rw [firstWord, hwords, List.headD_cons]
  simp [isLabel, isInstruction, hfirst, hne]

/-- Joined operand texts hold no blank and no semicolon. -/
lemma not_isBlank_of_mem_joined {texts : List String} (htexts : ∀ text ∈ texts, IsOperandText text)
    (hc : c ∈ [','].intercalate (texts.map String.toList)) : isBlank c = false ∧ c ≠ ';' := by
  obtain rfl | ⟨cs, hcs, hc⟩ := mem_of_mem_intercalate hc
  · decide
  · obtain ⟨text, htext, rfl⟩ := List.mem_map.1 hcs
    have htoken := (htexts text htext).isToken
    exact ⟨htoken.not_isBlank c hc, htoken.no_comment c hc⟩

/-- The text of a label line that is read is its first word. -/
lemma labelText_labelName (hlabel : isLabel cs) : labelText (labelName cs) = firstWord cs := by
  have hcolon : (firstWord cs).getLast? = some ':' := by
    simp only [isLabel, Bool.and_eq_true, beq_iff_eq] at hlabel
    exact hlabel.2
  obtain ⟨front, hfront⟩ := List.getLast?_eq_some_iff.1 hcolon
  rw [labelText, labelName, String.toList_ofList, hfront, List.dropLast_concat]

/-- A written label is read back. -/
lemma of_labelText {name : String} (h : IsToken (labelText name)) :
    isLabel (labelText name) ∧ labelName (labelText name) = name := by
  have hwords : words (stripped (labelText name)) = [labelText name] := by
    rw [words_stripped_of_forall h.no_comment]
    exact fields_eq_singleton h.ne_nil h.not_isBlank
  obtain ⟨hfirst, hlabel, -⟩ := kind_of_words hwords
  refine ⟨hlabel.2 (by simp [labelText]), ?_⟩
  rw [labelName, hfirst, labelText, List.dropLast_concat, String.ofList_toList]

/-- A line whose first word is a mnemonic is an instruction, whose operands stand between the commas
behind it, without the blanks. -/
lemma of_append_blank {mnemonic : String} {rest : List Char} (hmnemonic : IsToken mnemonic.toList)
    (hcolon : mnemonic.toList.getLast? ≠ some ':') (hcomment : ∀ c ∈ rest, c ≠ ';') :
    isInstruction (mnemonic.toList ++ ' ' :: rest) ∧
      firstWord (mnemonic.toList ++ ' ' :: rest) = mnemonic.toList ∧
      operandTexts (mnemonic.toList ++ ' ' :: rest) =
        (fields (· = ',') (rest.filter (!isBlank ·))).map String.ofList := by
  have hcomment' : ∀ c ∈ mnemonic.toList ++ ' ' :: rest, c ≠ ';' := by
    intro c hc
    rcases List.mem_append.1 hc with hhead | hrest
    · exact hmnemonic.no_comment c hhead
    · rcases List.mem_cons.1 hrest with rfl | hrest
      · decide
      · exact hcomment c hrest
  have hwords : words (stripped (mnemonic.toList ++ ' ' :: rest)) =
      mnemonic.toList :: words rest := by
    rw [words_stripped_of_forall hcomment', words, fields_append_cons _ _ (by decide : isBlank ' '),
      fields_eq_singleton hmnemonic.ne_nil hmnemonic.not_isBlank, List.singleton_append]
    rfl
  obtain ⟨hfirst, -, hinstruction⟩ := kind_of_words hwords
  refine ⟨hinstruction.2 hcolon, hfirst, ?_⟩
  -- the words behind the mnemonic are joined again before they are split at commas
  rw [operandTexts, hwords, List.tail_cons, arguments, words, flatten_fields]

section Instruction

variable {mnemonic : String} {texts : List String} (hmnemonic : IsToken mnemonic.toList)
  (htexts : ∀ text ∈ texts, IsOperandText text)

include hmnemonic htexts

/-- A written instruction is read back. -/
lemma of_instructionText (hcolon : mnemonic.toList.getLast? ≠ some ':') :
    isInstruction (instructionText mnemonic texts) ∧
      firstWord (instructionText mnemonic texts) = mnemonic.toList ∧
      operandTexts (instructionText mnemonic texts) = texts := by
  obtain ⟨hinstruction, hfirst, hread⟩ := of_append_blank hmnemonic hcolon
    fun c hc => (not_isBlank_of_mem_joined htexts hc).2
  refine ⟨hinstruction, hfirst, ?_⟩
  have hfilter : ([','].intercalate (texts.map String.toList)).filter (!isBlank ·) =
      [','].intercalate (texts.map String.toList) :=
    List.filter_eq_self.2 fun c hc => by simp [(not_isBlank_of_mem_joined htexts hc).1]
  have hfields : fields (· = ',') ([','].intercalate (texts.map String.toList)) =
      texts.map String.toList := by
    refine fields_intercalate (by decide) fun cs hcs => ?_
    obtain ⟨text, htext, rfl⟩ := List.mem_map.1 hcs
    exact ⟨(htexts text htext).isToken.ne_nil, fun c hc => by
      simpa using (htexts text htext).no_comma c hc⟩
  rw [instructionText, hread, hfilter, hfields, List.map_map]
  simp

/-- A written instruction is one line. -/
lemma isLineBreak_of_mem_instructionText (hc : c ∈ instructionText mnemonic texts) :
    isLineBreak c = false := by
  rcases List.mem_append.1 hc with hhead | hrest
  · exact isLineBreak_of_isBlank_eq_false (hmnemonic.not_isBlank c hhead)
  · rcases List.mem_cons.1 hrest with rfl | hrest
    · decide
    · exact isLineBreak_of_isBlank_eq_false (not_isBlank_of_mem_joined htexts hrest).1

/-- A written instruction is the only line of its text. -/
lemma lines_instructionText :
    lines (instructionText mnemonic texts) = [instructionText mnemonic texts] := by
  have hline := lines_intercalate (List.forall_mem_singleton.2
    ⟨by simp [instructionText], fun c hc =>
      isLineBreak_of_mem_instructionText hmnemonic htexts hc⟩)
  rwa [List.intercalate_singleton] at hline

end Instruction

end RegisterMachine.Line
