import RegisterMachine.Proofs.Machine.Jump
import RegisterMachine.Proofs.Program.Refusal

set_option autoImplicit false
set_option relaxedAutoImplicit false

/-!
# Labels as operands of jumps

The name of a label is the first word of its line without the colon, and an operand is what stands
between commas. So a label can be jumped to by its name, also if the name looks like a register, a
number or something in brackets, but a name with a comma in it is cut in parts.

## Main results

* `RegisterMachine.Program.isToken_of_labelIndex?` — what names of labels are made of.
* `RegisterMachine.Program.link_instructionText` — the program of one written instruction.
* `RegisterMachine.Machine.labels_are_jump_targets` — jumps to labels by their names.
-/

namespace RegisterMachine

namespace Program

variable {program : Program} {name : String} {index : Nat}

/-- The name of a label may stand on a line as a word: it is not empty, and there are no blanks and
no semicolon in it. -/
lemma isToken_of_labelIndex? {config : Config} {source : String}
    (hlink : link config source = .ok program) (hlabel : program.labelIndex? name = some index) :
    Line.IsToken name.toList := by
  have hlayout := isLayoutOf_of_link hlink
  obtain ⟨label, hfind, -⟩ := Option.map_eq_some_iff.1 hlabel
  have hnamed : label.name ≠ "" := hlayout.named label (Array.mem_of_find?_eq_some hfind)
  obtain ⟨_, line, _, -, hline, rfl, -, rfl⟩ := hlayout.findLabel?_eq_some_iff.1 hfind
  have htoken := Line.isToken_firstWord (.inl hline)
  have hmem : ∀ c ∈ (Line.labelName line).toList, c ∈ Line.firstWord line := by
    intro c hc
    rw [Line.labelName, String.toList_ofList] at hc
    exact List.dropLast_subset _ hc
  refine ⟨fun hempty => hnamed (String.toList_eq_nil_iff.1 hempty), ?_, ?_⟩
  · exact fun c hc => htoken.not_isBlank c (hmem c hc)
  · exact fun c hc => htoken.no_comment c (hmem c hc)

/-- **A written instruction denotes the program of that instruction**, if its operands can be read
and it is no definition of an alias, which might be refused. -/
lemma link_instructionText (config : Config) {mnemonic : String} {texts : List String}
    {operands : List Operand} (hmnemonic : Line.IsToken mnemonic.toList)
    (hcolon : mnemonic.toList.getLast? ≠ some ':')
    (htexts : ∀ text ∈ texts, Line.IsOperandText text) (halias : Text.lower mnemonic ≠ "als")
    (hoperands : readOperands config.registerCount texts = .ok operands) :
    ∃ instruction, instruction.mnemonic = Text.lower mnemonic ∧
      instruction.operands = operands ∧
      link config (String.ofList (Line.instructionText mnemonic texts)) =
        .ok { instructions := #[instruction] } := by
  obtain ⟨hinstruction, hfirst, hread⟩ := Line.of_instructionText hmnemonic htexts hcolon
  have hfirst' : Text.lower (String.ofList (Line.firstWord
      (Line.instructionText mnemonic texts))) = Text.lower mnemonic := by
    rw [hfirst, String.ofList_toList]
  refine ⟨instructionOn 1 (Line.instructionText mnemonic texts) operands, hfirst', rfl, ?_⟩
  have hnone : linkLines config.registerCount [] = .ok {} := rfl
  rw [link_eq_linkLines, String.toList_ofList, Line.lines_instructionText hmnemonic htexts]
  exact linkLines_concat_of_isInstruction hnone hinstruction (by rwa [hfirst']) (by rwa [hread])

end Program

namespace Machine

/-- The mnemonic of the jump that is always taken is a word. -/
lemma isToken_jmp : Line.IsToken "jmp".toList := by
  decide

/-- **Labels can be jumped to by their names, unless there is a comma in the name.** Take a label of
a program whose name has no comma and denotes an operand, as all texts do that are no decimal
integers beyond the digit limit. The line `jmp name` is read as an instruction whose only operand
has the name for its text, whatever kind of operand it is. In a machine of the program the
instruction succeeds, and moves the program counter to just before the number that the label is
bound to. A name with a comma is the text of no operand of any program.

**Proof sketch.** The name is a word without a semicolon (`Program.isToken_of_labelIndex?`), so that
it stands as a whole in the text behind the mnemonic, and a text without commas is one operand text
(`Program.link_instructionText`). A jump looks up the text of its operand. -/
theorem labels_are_jump_targets {config : Config} {source name : String} {program : Program}
    {index : Nat} (hlink : Program.link config source = .ok program)
    (hlabel : program.labelIndex? name = some index) :
    (',' ∉ name.toList → ¬ Operand.IsOverlong config.registerCount name →
      ∃ instruction operand,
        Program.link config ("jmp " ++ name) = .ok { instructions := #[instruction] } ∧
        instruction.mnemonic = "jmp" ∧ instruction.operands = [operand] ∧ operand.text = name ∧
        ∀ machine : Machine, machine.program = program →
          execute instruction machine = .ok () { machine with pc := index - 1 }) ∧
    (',' ∈ name.toList → ∀ config source program, Program.link config source = .ok program →
      ∀ instruction ∈ program.instructions, ∀ operand ∈ instruction.operands,
        operand.text ≠ name) := by
  refine ⟨fun hcomma hreadable => ?_, ?_⟩
  · have hname : Line.IsOperandText name :=
      ⟨Program.isToken_of_labelIndex? hlink hlabel, fun c hc heq => hcomma (heq ▸ hc)⟩
    obtain ⟨operand, hoperand⟩ := Operand.exists_ofText_iff.2 hreadable
    have hread : Program.readOperands config.registerCount [name] = .ok [operand] :=
      Program.readOperands_eq_ok_iff.2 (.cons hoperand .nil)
    have hlower : Text.lower "jmp" = "jmp" := by decide +kernel
    obtain ⟨instruction, hmnemonic, hoperands, hlink'⟩ := Program.link_instructionText config
      isToken_jmp (by decide) (List.forall_mem_singleton.2 hname) (by rw [hlower]; decide) hread
    have hwritten : String.ofList (Line.instructionText "jmp" [name]) = "jmp " ++ name := by
      apply String.toList_injective
      simp [Line.instructionText]
    rw [hlower] at hmnemonic
    rw [hwritten] at hlink'
    have htext : operand.text = name := Operand.text_of_ofText hoperand
    refine ⟨instruction, operand, hlink', hmnemonic, hoperands, htext, ?_⟩
    rintro machine rfl
    have hopcode : Opcode.ofMnemonic? instruction.mnemonic = some (.jump .always) := by
      rw [hmnemonic]
      decide +kernel
    exact execute_of_jump hopcode hoperands rfl (htext ▸ hlabel)
  · rintro hcomma config source program hlink instruction hinstruction operand hoperand rfl
    obtain ⟨line, -, htext, -⟩ :=
      (Program.isLayoutOf_of_link hlink).exists_operandText hinstruction hoperand
    exact (Line.isOperandText_of_mem htext).no_comma ',' hcomma rfl

/-- A label in brackets can be jumped to, and no operand is a label with a comma. -/
theorem labels_are_jump_targets_of_brackets :
    let source := "[r0]:\nnop\na,b:"
    let program : Program :=
      { instructions := #[⟨"nop", [], 2, "nop"⟩]
        labels := #[⟨"[r0]", 1, 1⟩, ⟨"a,b", 2, 3⟩] }
    let machine := fresh .default .freshCapture program
    Program.link .default source = .ok program ∧
      (∃ instruction operand,
        Program.link .default "jmp [r0]" = .ok { instructions := #[instruction] } ∧
        instruction.operands = [operand] ∧ operand.text = "[r0]" ∧
        execute instruction machine = .ok () { machine with pc := 0 }) ∧
      ∀ instruction ∈ program.instructions, ∀ operand ∈ instruction.operands,
        operand.text ≠ "a,b" := by
  intro source program machine
  have hlink : Program.link .default source = .ok program := by decide +kernel
  have hbrackets : program.labelIndex? "[r0]" = some 1 := by decide +kernel
  have hcomma : program.labelIndex? "a,b" = some 2 := by decide +kernel
  have hreadable : ¬ Operand.IsOverlong Config.default.registerCount "[r0]" := by
    intro hoverlong
    have hlimit := hoverlong.limit_lt
    revert hlimit
    decide +kernel
  obtain ⟨instruction, operand, hjump, -, hoperands, htext, hexecute⟩ :=
    (labels_are_jump_targets hlink hbrackets).1 (by decide) hreadable
  refine ⟨hlink, ⟨instruction, operand, hjump, hoperands, htext, hexecute machine rfl⟩, ?_⟩
  exact (labels_are_jump_targets hlink hcomma).2 (by decide) .default source program hlink

/-- A comma cuts the name of a label in two operands, and the jump looks for the first of them. -/
theorem comma_cuts_label :
    let source := "jmp a,b\nhlt\na,b:"
    let jump : Instruction := ⟨"jmp", [.symbol "a", .symbol "b"], 1, "jmp a,b"⟩
    let program : Program :=
      { instructions := #[jump, ⟨"hlt", [], 2, "hlt"⟩]
        labels := #[⟨"a,b", 3, 3⟩] }
    let machine := fresh .default .freshCapture program
    Program.link .default source = .ok program ∧ program.labelIndex? "a,b" = some 3 ∧
      Program.link .default "jmp a,b" = .ok { instructions := #[jump] } ∧
      execute jump machine = .error (.undefinedLabel "a") machine ∧
      ∀ operand rest, jump.operands = operand :: rest → operand.text ≠ "a,b" := by
  intro source jump program machine
  refine ⟨by decide +kernel, by decide +kernel, by decide +kernel, rfl, ?_⟩
  intro operand rest hoperands
  obtain ⟨rfl, -⟩ := List.cons.inj hoperands
  decide

end Machine

end RegisterMachine
