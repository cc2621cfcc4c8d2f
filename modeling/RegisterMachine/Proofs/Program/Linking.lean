import RegisterMachine.Proofs.Program
import RegisterMachine.Proofs.Program.Line
import Mathlib.Data.List.Forall2
import Mathlib.Data.List.Induction

set_option autoImplicit false
set_option relaxedAutoImplicit false

/-!
# Linking line by line

Linking takes the lines of a text one after the other, each with what the lines above have given.
This module says of every step when it succeeds, when it is refused, and with what.

## Main definitions

* `RegisterMachine.Program.addText` — the program with one more line of text.
* `RegisterMachine.Program.linkLines` — the program that lines of text denote.

## Main results

* `RegisterMachine.Program.link_eq_linkLines` — linking a text is linking its lines.
* `RegisterMachine.Program.linkLines_concat` — the last line comes last.
* `RegisterMachine.Program.linkLines_eq_error_iff` — where linking fails.
* `RegisterMachine.Program.addText_eq`, `RegisterMachine.Program.addText_eq_ok_iff` — what each kind
  of line does.
* `RegisterMachine.Program.addLabel_eq_ok_iff`, `RegisterMachine.Program.addLabel_eq_error_iff` and
  their siblings — success and refusal of each step.
* `RegisterMachine.Program.link_unifyBreaks` — unifying line breaks changes nothing.
-/

namespace RegisterMachine

/-! ## Lists of computations -/

namespace Except

variable {ε α β : Type} {f : α → Except ε β} {e : ε}

/-- A computation on every element of a list gives a result for each of them. -/
theorem mapM_eq_ok_iff {as : List α} {bs : List β} :
    as.mapM f = .ok bs ↔ List.Forall₂ (fun a b => f a = .ok b) as bs := by
  induction as generalizing bs with
  | nil => cases bs <;> simp
  | cons a as ih =>
    simp only [List.mapM_cons, bind_eq_ok, pure_eq_ok, ih, List.forall₂_cons_left_iff]
    constructor
    · rintro ⟨b, hb, rest, hrest, rfl⟩
      exact ⟨b, rest, hb, hrest, rfl⟩
    · rintro ⟨b, rest, hb, hrest, rfl⟩
      exact ⟨b, hb, rest, hrest, rfl⟩

/-- A computation on every element of a list fails as the first of them that fails. -/
theorem mapM_eq_error_iff {as : List α} :
    as.mapM f = .error e ↔ ∃ before a after, as = before ++ a :: after ∧
      (∀ b ∈ before, ∃ result, f b = .ok result) ∧ f a = .error e := by
  induction as with
  | nil => simp
  | cons a as ih =>
    simp only [List.mapM_cons, bind_eq_error, pure_eq_error, and_false, exists_false, or_false, ih]
    constructor
    · rintro (ha | ⟨result, hresult, before, b, after, rfl, hbefore, hb⟩)
      · exact ⟨[], a, as, rfl, by simp, ha⟩
      · exact ⟨a :: before, b, after, rfl, List.forall_mem_cons.2 ⟨⟨result, hresult⟩, hbefore⟩, hb⟩
    · rintro ⟨before, b, after, heq, hbefore, hb⟩
      cases before with
      | nil =>
        obtain ⟨rfl, rfl⟩ := List.cons.inj heq
        exact .inl hb
      | cons first before =>
        obtain ⟨rfl, rfl⟩ := List.cons.inj heq
        obtain ⟨⟨result, hresult⟩, hbefore⟩ := List.forall_mem_cons.1 hbefore
        exact .inr ⟨result, hresult, before, b, after, rfl, hbefore, hb⟩

end Except

namespace Program

variable {count number : Nat} {program next : Program} {source name : String} {e : LinkError}

/-! ## Labels -/

/-- The wording of the refusal of a label that was defined on a line above. -/
def duplicateMessage (name : String) (first : Nat) : String :=
  "Duplicate label '" ++ name ++ "' (first defined on line " ++ toString first ++ ")"

/-- A name is new if no label has it. -/
lemma findLabel?_eq_none_iff :
    program.findLabel? name = none ↔ ∀ label ∈ program.labels, label.name ≠ name := by
  simp [findLabel?]

/-- A label is added if it has a new name. -/
lemma addLabel_eq_ok_iff :
    program.addLabel number source name = .ok next ↔
      name ≠ "" ∧ program.findLabel? name = none ∧
        next = { program with
          labels := program.labels.push ⟨name, program.size + 1, number⟩ } := by
  unfold addLabel
  split
  · next hempty =>
    simp only [reduceCtorEq, false_iff]
    exact fun h => h.1 (by simpa using hempty)
  · next hempty =>
    have hne : name ≠ "" := by simpa using hempty
    cases hfind : program.findLabel? name <;> simp [hne, eq_comm]

/-- A label is refused if it has no name or the name of a label above. -/
lemma addLabel_eq_error_iff :
    program.addLabel number source name = .error e ↔
      (name = "" ∧ e = refuse .invalidLabel "Empty label name" number source) ∨
      (name ≠ "" ∧ ∃ first, program.findLabel? name = some first ∧
        e = refuse .duplicateLabel (duplicateMessage name first.line) number source) := by
  unfold addLabel
  split
  · next hempty =>
    obtain rfl : name = "" := by simpa using hempty
    constructor
    · rintro ⟨⟩
      exact .inl ⟨rfl, rfl⟩
    · rintro (⟨-, rfl⟩ | ⟨hne, -⟩)
      · rfl
      · exact absurd rfl hne
  · next hempty =>
    have hne : name ≠ "" := by simpa using hempty
    cases hfind : program.findLabel? name with
    | none => simp [hne]
    | some first =>
      constructor
      · rintro ⟨⟩
        exact .inr ⟨hne, first, rfl, rfl⟩
      · rintro (⟨hname, -⟩ | ⟨-, _, ⟨⟩, rfl⟩)
        · exact absurd hname hne
        · rfl

/-! ## Instructions -/

/-- Operands are read if all arguments denote one. -/
lemma readOperands_eq_ok_iff {arguments : List String} {operands : List Operand} :
    readOperands count arguments = .ok operands ↔
      List.Forall₂ (fun text operand => Operand.ofText count text = .ok operand) arguments
        operands := by
  rw [← Except.mapM_eq_ok_iff, readOperands]
  cases arguments.mapM (Operand.ofText count) <;> simp

/-- The operands of a line are refused as the first of them that hits the digit limit. -/
lemma readOperands_eq_error_iff {arguments : List String} :
    readOperands count arguments = .error e ↔
      ∃ before text after digits, arguments = before ++ text :: after ∧
        (∀ other ∈ before, ∃ operand, Operand.ofText count other = .ok operand) ∧
        Operand.ofText count text = .error digits ∧ e = .digitLimit digits := by
  unfold readOperands
  cases hread : arguments.mapM (Operand.ofText count) with
  | error digits =>
    obtain ⟨before, text, after, heq, hbefore, htext⟩ := Except.mapM_eq_error_iff.1 hread
    constructor
    · rintro ⟨⟩
      exact ⟨before, text, after, digits, heq, hbefore, htext, rfl⟩
    · rintro ⟨before', text', after', digits', heq', hbefore', htext', rfl⟩
      have hread' := Except.mapM_eq_error_iff.2 ⟨before', text', after', heq', hbefore', htext'⟩
      rw [hread] at hread'
      cases hread'
      rfl
  | ok operands =>
    simp only [reduceCtorEq, false_iff]
    rintro ⟨before, text, after, digits, heq, hbefore, htext, -⟩
    rw [Except.mapM_eq_error_iff.2 ⟨before, text, after, heq, hbefore, htext⟩] at hread
    cases hread

/-- The wording of the refusal of an alias for itself. -/
def selfAliasMessage (name : String) : String :=
  "Alias '" ++ name ++ "' refers to itself"

/-- The operands of an alias for itself start with a symbol and the same symbol again. -/
lemma isSelfAlias_iff {operands : List Operand} :
    isSelfAlias operands ↔ ∃ text rest, operands = .symbol text :: .symbol text :: rest := by
  unfold isSelfAlias
  split
  · simp [eq_comm]
  · next hother =>
    simp only [Bool.false_eq_true, false_iff]
    rintro ⟨text, rest, rfl⟩
    exact hother text text rest rfl

/-- An instruction is added if it does not alias a symbol to itself. -/
lemma addInstruction_eq_ok_iff {instruction : Instruction} :
    program.addInstruction instruction = .ok next ↔
      ¬ (instruction.mnemonic = "als" ∧ isSelfAlias instruction.operands) ∧
        next = { program with instructions := program.instructions.push instruction } := by
  unfold addInstruction
  split
  · next hself =>
    simp only [reduceCtorEq, false_iff]
    exact fun h => h.1 (by simpa using hself)
  · next hself =>
    simp only [Except.ok.injEq]
    exact ⟨fun h => ⟨by simpa using hself, h.symm⟩, fun h => h.2.symm⟩

/-- An instruction is refused if it aliases a symbol to itself. -/
lemma addInstruction_eq_error_iff {instruction : Instruction} :
    program.addInstruction instruction = .error e ↔
      ∃ text rest, instruction.mnemonic = "als" ∧
        instruction.operands = .symbol text :: .symbol text :: rest ∧
        e = refuse .aliasCycle (selfAliasMessage text) instruction.line instruction.source := by
  unfold addInstruction
  split
  · next hself =>
    obtain ⟨hmnemonic, hoperands⟩ : instruction.mnemonic = "als" ∧
      isSelfAlias instruction.operands := by simpa using hself
    obtain ⟨text, rest, hoperands⟩ := isSelfAlias_iff.1 hoperands
    constructor
    · rintro ⟨⟩
      exact ⟨text, rest, hmnemonic, hoperands, by rw [hoperands]; rfl⟩
    · rintro ⟨text', rest', -, hoperands', rfl⟩
      rw [hoperands']
      rfl
  · next hself =>
    simp only [reduceCtorEq, false_iff]
    rintro ⟨text, rest, hmnemonic, hoperands, -⟩
    have hself' : isSelfAlias instruction.operands := isSelfAlias_iff.2 ⟨text, rest, hoperands⟩
    simp [hmnemonic, hself'] at hself

/-! ## Lines -/

/-- The program with one more line of text, which may say nothing. -/
def addText (count : Nat) (program : Program) (number : Nat) (cs : List Char) :
    Except LinkError Program :=
  match Line.ofChars? cs with
  | none => .ok program
  | some line => program.addLine count number line

/-- The instruction on a line of text, with its operands. -/
def instructionOn (number : Nat) (cs : List Char) (operands : List Operand) : Instruction where
  mnemonic := Text.lower (String.ofList (Line.firstWord cs))
  operands
  line := number
  source := String.ofList (Line.stripped cs)

/-- **What each kind of line does.** -/
lemma addText_eq (cs : List Char) :
    program.addText count number cs =
      if Line.isLabel cs then
        program.addLabel number (String.ofList (Line.stripped cs)) (Line.labelName cs)
      else if Line.isInstruction cs then
        readOperands count (Line.operandTexts cs) >>= fun operands =>
          program.addInstruction (instructionOn number cs operands)
      else .ok program := by
  unfold addText
  cases hlabel : Line.isLabel cs with
  | true =>
    have hline : Line.ofChars? cs =
        some ⟨String.ofList (Line.stripped cs), .label (Line.labelName cs)⟩ := by
      simp [Line.ofChars?_eq, hlabel]
    simp only [hline]
    rfl
  | false =>
    cases hinstruction : Line.isInstruction cs with
    | true =>
      have hline : Line.ofChars? cs = some ⟨String.ofList (Line.stripped cs),
          .instruction (String.ofList (Line.firstWord cs)) (Line.operandTexts cs)⟩ := by
        simp [Line.ofChars?_eq, hlabel, hinstruction]
      simp only [hline]
      rfl
    | false =>
      have hline : Line.ofChars? cs = none := by
        simp [Line.ofChars?_eq, hlabel, hinstruction]
      simp only [hline]
      rfl

/-- **What a line adds that is not refused**: a label, an instruction or nothing. -/
lemma addText_eq_ok_iff {cs : List Char} :
    program.addText count number cs = .ok next ↔
      (Line.isLabel cs ∧
        program.addLabel number (String.ofList (Line.stripped cs)) (Line.labelName cs) =
          .ok next) ∨
      (Line.isInstruction cs ∧ ∃ operands,
        readOperands count (Line.operandTexts cs) = .ok operands ∧
          program.addInstruction (instructionOn number cs operands) = .ok next) ∨
      (¬ Line.isLabel cs ∧ ¬ Line.isInstruction cs ∧ next = program) := by
  rw [addText_eq]
  by_cases hlabel : Line.isLabel cs
  · have hinstruction : ¬ Line.isInstruction cs := by
      intro hinstruction
      exact Line.not_isLabel_of_isInstruction hinstruction hlabel
    simp [hlabel, hinstruction]
  · rw [if_neg hlabel]
    by_cases hinstruction : Line.isInstruction cs
    · rw [if_pos hinstruction, Except.bind_eq_ok]
      simp [hlabel, hinstruction]
    · simp [hlabel, hinstruction, eq_comm]

/-- The program that lines of text denote. -/
def linkLines (count : Nat) (lines : List (List Char)) : Except LinkError Program :=
  (lines.zipIdx 1).foldlM (fun program (cs, number) => program.addText count number cs) {}

/-- **The last line comes last**, with what the lines above have given. -/
lemma linkLines_concat (lines : List (List Char)) (cs : List Char) :
    linkLines count (lines ++ [cs]) =
      linkLines count lines >>= fun program => program.addText count (lines.length + 1) cs := by
  simp [linkLines, List.zipIdx_append, List.foldlM_append, Nat.add_comm]

/-- An instruction whose operands can be read is linked behind the lines above it, unless it may
define an alias, which might be refused. -/
lemma linkLines_concat_of_isInstruction {lines : List (List Char)} {cs : List Char}
    {operands : List Operand} (hlines : linkLines count lines = .ok program)
    (hinstruction : Line.isInstruction cs)
    (halias : Text.lower (String.ofList (Line.firstWord cs)) ≠ "als")
    (hoperands : readOperands count (Line.operandTexts cs) = .ok operands) :
    linkLines count (lines ++ [cs]) = .ok { program with
      instructions :=
        program.instructions.push (instructionOn (lines.length + 1) cs operands) } := by
  rw [linkLines_concat, hlines]
  refine addText_eq_ok_iff.2 (.inr (.inl ⟨hinstruction, operands, hoperands, ?_⟩))
  exact addInstruction_eq_ok_iff.2 ⟨fun hself => halias hself.1, rfl⟩

/-- Lines above lines that are linked are linked. -/
lemma exists_linkLines_of_append {above below : List (List Char)}
    (h : ∃ program, linkLines count (above ++ below) = .ok program) :
    ∃ program, linkLines count above = .ok program := by
  induction below using List.reverseRecOn with
  | nil => rwa [List.append_nil] at h
  | append_singleton below cs ih =>
    obtain ⟨program, hlink⟩ := h
    rw [← List.append_assoc, linkLines_concat, Except.bind_eq_ok] at hlink
    obtain ⟨before, hbefore, -⟩ := hlink
    exact ih ⟨before, hbefore⟩

/-- **Linking fails at a line under lines that are linked.**

**Proof sketch.** Induction on the lines from the last one: either the lines above it fail, or it
does. -/
lemma linkLines_eq_error_iff {lines : List (List Char)} :
    linkLines count lines = .error e ↔ ∃ above cs below program, lines = above ++ cs :: below ∧
      linkLines count above = .ok program ∧
      program.addText count (above.length + 1) cs = .error e := by
  induction lines using List.reverseRecOn with
  | nil => simp [linkLines]
  | append_singleton lines last ih =>
    rw [linkLines_concat, Except.bind_eq_error, ih]
    constructor
    · rintro (⟨above, cs, below, program, rfl, habove, hcs⟩ | ⟨program, hlines, hlast⟩)
      · exact ⟨above, cs, below ++ [last], program, by simp, habove, hcs⟩
      · exact ⟨lines, last, [], program, rfl, hlines, hlast⟩
    · rintro ⟨above, cs, below, program, hsplit, habove, hcs⟩
      rcases List.eq_nil_or_concat below with rfl | ⟨front, c, rfl⟩
      · obtain ⟨rfl, hlast⟩ := List.append_inj' hsplit rfl
        obtain rfl := List.singleton_inj.1 hlast
        exact .inr ⟨program, habove, hcs⟩
      · rw [List.concat_eq_append, ← List.cons_append, ← List.append_assoc] at hsplit
        obtain ⟨rfl, -⟩ := List.append_inj' hsplit rfl
        exact .inl ⟨above, cs, front, program, rfl, habove, hcs⟩

/-- **Linking a text is linking its lines.** Lines that say nothing may be passed over first. -/
lemma link_eq_linkLines (config : Config) (source : String) :
    link config source = linkLines config.registerCount (Text.lines source.toList) := by
  have hfold : ∀ (lines : List (List Char)) (start : Nat) (program : Program),
      ((lines.zipIdx start).filterMap fun place =>
          (Line.ofChars? place.1).map fun line => (place.2 + 1, line)).foldlM
        (fun program place => program.addLine config.registerCount place.1 place.2) program =
      (lines.zipIdx (start + 1)).foldlM
        (fun program place => program.addText config.registerCount place.2 place.1) program := by
    intro lines
    induction lines with
    | nil => exact fun _ _ => rfl
    | cons cs lines ih =>
      intro start program
      rw [List.zipIdx_cons, List.zipIdx_cons, List.foldlM_cons]
      cases hline : Line.ofChars? cs with
      | none =>
        rw [List.filterMap_cons_none (by simp [hline]), ih]
        simp only [addText, hline]
        rfl
      | some line =>
        rw [List.filterMap_cons_some (by simp [hline]; rfl), List.foldlM_cons]
        simp only [addText, hline, ih]
  exact hfold (Text.lines source.toList) 0 {}

/-- **A text with unified line breaks denotes the same program**, lines and numbers of lines
included, and is refused for the same reason. -/
lemma link_unifyBreaks (config : Config) (source : String) :
    link config (String.ofList (Text.unifyBreaks source.toList)) = link config source := by
  rw [link_eq_linkLines, link_eq_linkLines, String.toList_ofList, Text.lines_unifyBreaks]

end Program

end RegisterMachine
