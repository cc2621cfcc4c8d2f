import RegisterMachine.Proofs.Program.Layout
import RegisterMachine.Proofs.Text.LowerCase

set_option autoImplicit false
set_option relaxedAutoImplicit false

/-!
# Listings

A program can be written down again: every label and every instruction on a line of its own, without
comments and blanks. Linking what is written gives a program with the same labels and the same
instructions.

## Main definitions

* `RegisterMachine.Program.listing`, `RegisterMachine.Program.render` — the lines of a program and
  the text that they make.
* `RegisterMachine.Line.normalForm?` — what is written for a line of a source.
* `RegisterMachine.Program.SameStatements` — programs that differ at most in line numbers and in
  the texts of lines.

## Main results

* `RegisterMachine.Program.listing_of_linkLines` — a linked program is written as the normal forms
  of its lines.
* `RegisterMachine.Program.SameStatements.addText` — a line and its normal form do the same.
* `RegisterMachine.Program.listings_are_read_back` — linking undoes writing.
-/

namespace RegisterMachine

namespace Line

open Text

variable {cs text : List Char}

/-- What is written for a line of a source, unless it says nothing. -/
def normalForm? (cs : List Char) : Option (List Char) :=
  if isLabel cs then some (labelText (labelName cs))
  else if isInstruction cs then
    some (instructionText (lower (String.ofList (firstWord cs))) (operandTexts cs))
  else none

/-- A label is written with its name. -/
lemma normalForm?_of_isLabel (hlabel : isLabel cs) :
    normalForm? cs = some (labelText (labelName cs)) :=
  if_pos hlabel

/-- An instruction is written with its mnemonic in lower case. -/
lemma normalForm?_of_isInstruction (hinstruction : isInstruction cs) :
    normalForm? cs =
      some (instructionText (lower (String.ofList (firstWord cs))) (operandTexts cs)) := by
  rw [normalForm?, if_neg (not_isLabel_of_isInstruction hinstruction), if_pos hinstruction]

/-- Nothing is written for lines that say nothing. -/
lemma normalForm?_eq_none_iff : normalForm? cs = none ↔ ¬ isLabel cs ∧ ¬ isInstruction cs := by
  unfold normalForm?
  split
  · next hlabel => simp [hlabel]
  · next hlabel =>
    split
    · next hinstruction => simp [hinstruction]
    · next hinstruction => simp [hlabel, hinstruction]

/-- A mnemonic in lower case is a token, because lower-casing makes no blank and no semicolon. -/
lemma isToken_lower_firstWord (hinstruction : isInstruction cs) :
    IsToken (lower (String.ofList (firstWord cs))).toList := by
  have htoken := isToken_firstWord (.inr hinstruction)
  refine ⟨?_, ?_, ?_⟩
  · rw [lower, String.toList_ofList, String.toList_ofList]
    exact lowerAfter_ne_nil htoken.ne_nil []
  · intro c hc
    rcases mem_lower hc with hold | hpartner
    · rw [String.toList_ofList] at hold
      exact htoken.not_isBlank c hold
    · exact hpartner.not_isBlank
  · intro c hc
    rcases mem_lower hc with hold | hpartner
    · rw [String.toList_ofList] at hold
      exact htoken.no_comment c hold
    · exact hpartner.ne_semicolon

/-- A mnemonic in lower case does not end with a colon. -/
lemma getLast?_lower_firstWord (hinstruction : isInstruction cs) :
    (lower (String.ofList (firstWord cs))).toList.getLast? ≠ some ':' := by
  intro hlast
  rw [lower, String.toList_ofList, String.toList_ofList] at hlast
  have hcolon := getLast?_lowerAfter hlast
  simp [isInstruction, hcolon] at hinstruction

/-- **A normal form is one line.** -/
lemma isLineBreak_of_mem_normalForm? (h : normalForm? cs = some text) :
    text ≠ [] ∧ ∀ c ∈ text, isLineBreak c = false := by
  by_cases hlabel : isLabel cs
  · rw [normalForm?_of_isLabel hlabel, labelText_labelName hlabel] at h
    obtain rfl := Option.some.inj h
    have htoken := isToken_firstWord (.inl hlabel)
    refine ⟨htoken.ne_nil, ?_⟩
    intro c hc
    exact isLineBreak_of_isBlank_eq_false (htoken.not_isBlank c hc)
  by_cases hinstruction : isInstruction cs
  · rw [normalForm?_of_isInstruction hinstruction] at h
    obtain rfl := Option.some.inj h
    refine ⟨by simp [instructionText], ?_⟩
    intro c hc
    exact isLineBreak_of_mem_instructionText (isToken_lower_firstWord hinstruction)
      (fun _ htext => isOperandText_of_mem htext) hc
  · rw [normalForm?_eq_none_iff.2 ⟨hlabel, hinstruction⟩] at h
    cases h

/-- The normal form of a label line is read back. -/
lemma label_normalForm (hlabel : isLabel cs) :
    isLabel (labelText (labelName cs)) ∧ labelName (labelText (labelName cs)) = labelName cs := by
  refine of_labelText ?_
  rw [labelText_labelName hlabel]
  exact isToken_firstWord (.inl hlabel)

/-- The normal form of an instruction line is read back. -/
lemma instruction_normalForm (hinstruction : isInstruction cs) :
    let text := instructionText (lower (String.ofList (firstWord cs))) (operandTexts cs)
    isInstruction text ∧
      lower (String.ofList (firstWord text)) = lower (String.ofList (firstWord cs)) ∧
      operandTexts text = operandTexts cs := by
  intro text
  obtain ⟨hkind, hfirst, htexts⟩ := of_instructionText (isToken_lower_firstWord hinstruction)
    (fun _ htext => isOperandText_of_mem htext) (getLast?_lower_firstWord hinstruction)
  refine ⟨hkind, ?_, htexts⟩
  rw [hfirst, String.ofList_toList, lower_lower]

end Line

namespace Program

variable {count : Nat} {program next : Program} {lines : List (List Char)} {cs text : List Char}

/-- The lines that are written for the place with a number: the labels that are bound to it, in
their order, and the instruction with the number, if there is one. -/
def listingAt (program : Program) (i : Nat) : List (List Char) :=
  ((program.labels.toList.filter (·.index = i)).map fun label => Line.labelText label.name) ++
    (program.instructions[i - 1]?.map fun instruction =>
      Line.instructionText instruction.mnemonic (instruction.operands.map Operand.text)).toList

/-- The lines that are written for a program, from the first place to the one behind the last
instruction. -/
def listing (program : Program) : List (List Char) :=
  (List.range' 1 (program.size + 1)).flatMap program.listingAt

/-- The text that is written for a program. -/
def render (program : Program) : String :=
  String.ofList (['\n'].intercalate program.listing)

/-! ## Listings of linked programs -/

/-- The last place is written last. -/
lemma flatMap_places_succ (f : Nat → List (List Char)) (n : Nat) :
    (List.range' 1 (n + 1)).flatMap f = (List.range' 1 n).flatMap f ++ f (n + 1) := by
  rw [List.range'_1_concat, List.flatMap_append, List.flatMap_singleton, Nat.add_comm 1]

/-- No instruction stands at the place behind the last one. -/
lemma getElem?_size (program : Program) : program.instructions[program.size]? = none := by
  rw [Array.getElem?_eq_none_iff]
  exact Nat.le_refl _

/-- A new label is written last. -/
lemma listing_push_label (program : Program) (name : String) (number : Nat) :
    { program with labels := program.labels.push ⟨name, program.size + 1, number⟩ }.listing =
      program.listing ++ [Line.labelText name] := by
  set next : Program :=
    { program with labels := program.labels.push ⟨name, program.size + 1, number⟩ } with hnext
  have hsize : next.size = program.size := rfl
  have hold : ∀ i ∈ List.range' 1 program.size, next.listingAt i = program.listingAt i := by
    intro i hi
    have hne : program.size + 1 ≠ i := by
      have hlt := (List.mem_range'_1.1 hi).2
      omega
    simp [listingAt, hnext, List.filter_append, hne]
  have hlast : next.listingAt (program.size + 1) =
      program.listingAt (program.size + 1) ++ [Line.labelText name] := by
    simp [listingAt, hnext, List.filter_append, getElem?_size]
  rw [listing, listing, hsize, flatMap_places_succ, flatMap_places_succ, List.flatMap_congr hold,
    hlast, List.append_assoc]

/-- A new instruction is written last, if no label is bound behind it. -/
lemma listing_push_instruction (instruction : Instruction)
    (hlabels : ∀ label ∈ program.labels, label.index ≤ program.size + 1) :
    { program with instructions := program.instructions.push instruction }.listing =
      program.listing ++
        [Line.instructionText instruction.mnemonic (instruction.operands.map Operand.text)] := by
  set next : Program :=
    { program with instructions := program.instructions.push instruction } with hnext
  have hsize : next.size = program.size + 1 := by simp [size, hnext]
  have hold : ∀ i ∈ List.range' 1 program.size, next.listingAt i = program.listingAt i := by
    intro i hi
    have hne : i - 1 ≠ program.instructions.size := by
      have hbounds := List.mem_range'_1.1 hi
      rw [size] at hbounds
      omega
    simp [listingAt, hnext, Array.getElem?_push, hne]
  have hlast : next.listingAt (program.size + 1) = program.listingAt (program.size + 1) ++
      [Line.instructionText instruction.mnemonic (instruction.operands.map Operand.text)] := by
    have hget : next.instructions[program.size]? = some instruction := Array.getElem?_push_size
    simp only [listingAt, Nat.add_sub_cancel, getElem?_size, hget, Option.map_none, Option.map_some,
      Option.toList_none, Option.toList_some, List.append_nil]
    rfl
  -- the place behind the new instruction is empty, because no label is bound to it yet
  have hbehind : next.listingAt (program.size + 1 + 1) = [] := by
    have hnone : next.instructions[program.size + 1]? = none := by
      rw [← hsize]
      exact getElem?_size next
    have hfilter : next.labels.toList.filter (·.index = program.size + 1 + 1) = [] := by
      refine List.filter_eq_nil_iff.2 fun label hmem => ?_
      have hle := hlabels label (Array.mem_toList_iff.1 hmem)
      simp only [decide_eq_true_eq]
      omega
    simp [listingAt, hnone, hfilter]
  rw [listing, listing, hsize, flatMap_places_succ, flatMap_places_succ, flatMap_places_succ,
    List.flatMap_congr hold, hlast, hbehind, List.append_nil, List.append_assoc]

/-- The operands that are read from texts have these texts. -/
lemma map_text_of_readOperands {texts : List String} {operands : List Operand}
    (h : readOperands count texts = .ok operands) : operands.map Operand.text = texts := by
  rw [readOperands_eq_ok_iff] at h
  induction h with
  | nil => rfl
  | cons htext _ ih => rw [List.map_cons, Operand.text_of_ofText htext, ih]

/-- One more line is written in its normal form behind the others. -/
lemma listing_of_addText {number : Nat} (h : program.IsLayoutOf count lines)
    (hnext : program.addText count number cs = .ok next) :
    next.listing = program.listing ++ (Line.normalForm? cs).toList := by
  rcases addText_eq_ok_iff.1 hnext with ⟨hlabel, hadd⟩ | ⟨hinstruction, operands, hoperands, hadd⟩ |
    ⟨hlabel, hinstruction, rfl⟩
  · obtain ⟨-, -, rfl⟩ := addLabel_eq_ok_iff.1 hadd
    rw [listing_push_label, Line.normalForm?_of_isLabel hlabel]
    rfl
  · obtain ⟨-, rfl⟩ := addInstruction_eq_ok_iff.1 hadd
    rw [listing_push_instruction _ fun label hmem => h.index_le hmem, instructionOn,
      map_text_of_readOperands hoperands, Line.normalForm?_of_isInstruction hinstruction]
    rfl
  · rw [Line.normalForm?_eq_none_iff.2 ⟨hlabel, hinstruction⟩]
    exact (List.append_nil _).symm

/-- **A linked program is written as the normal forms of its lines.** -/
lemma listing_of_linkLines (h : linkLines count lines = .ok program) :
    program.listing = lines.filterMap Line.normalForm? := by
  induction lines using List.reverseRecOn generalizing program with
  | nil =>
    obtain rfl : program = {} := (Except.ok.inj h).symm
    rfl
  | append_singleton lines cs ih =>
    rw [linkLines_concat, Except.bind_eq_ok] at h
    obtain ⟨above, habove, hlast⟩ := h
    rw [listing_of_addText (isLayoutOf_of_linkLines habove) hlast, ih habove,
      List.filterMap_append]
    cases htext : Line.normalForm? cs <;> simp [htext]

/-! ## Reading listings -/

/-- The programs have the same labels, bound to the same places, and instructions with the same
mnemonics and operands. -/
structure SameStatements (program other : Program) : Prop where
  labels : other.labels.map (fun label => (label.name, label.index)) =
    program.labels.map fun label => (label.name, label.index)
  instructions :
    other.instructions.map (fun instruction => (instruction.mnemonic, instruction.operands)) =
      program.instructions.map fun instruction => (instruction.mnemonic, instruction.operands)

namespace SameStatements

variable {other : Program} {number otherNumber : Nat}

/-- Programs with the same statements have as many instructions. -/
lemma size_eq (h : program.SameStatements other) : other.size = program.size := by
  have hsize := congrArg Array.size h.instructions
  rwa [Array.size_map, Array.size_map] at hsize

/-- A label name that is new in a program is new in one with the same statements. -/
lemma findLabel?_eq_none (h : program.SameStatements other) {name : String}
    (hnew : program.findLabel? name = none) : other.findLabel? name = none := by
  rw [findLabel?_eq_none_iff] at hnew ⊢
  intro label hmem hname
  have hpair : (label.name, label.index) ∈
      other.labels.map fun label => (label.name, label.index) := Array.mem_map_of_mem hmem
  rw [h.labels, Array.mem_map] at hpair
  obtain ⟨first, hfirst, heq⟩ := hpair
  refine hnew first hfirst ?_
  rw [← hname]
  exact congrArg Prod.fst heq

/-- A label line and its normal form add the same label. -/
lemma addLabel (h : program.SameStatements other) {source otherSource name : String}
    (hnext : program.addLabel number source name = .ok next) :
    ∃ next', other.addLabel otherNumber otherSource name = .ok next' ∧
      next.SameStatements next' := by
  obtain ⟨hname, hnew, rfl⟩ := addLabel_eq_ok_iff.1 hnext
  refine ⟨_, addLabel_eq_ok_iff.2 ⟨hname, h.findLabel?_eq_none hnew, rfl⟩, ?_, ?_⟩
  · rw [Array.map_push, Array.map_push, h.labels, h.size_eq]
  · exact h.instructions

/-- Lines with the same mnemonic add the same instruction to the same operands. -/
lemma addInstruction (h : program.SameStatements other) {operands : List Operand}
    (hmnemonic : Text.lower (String.ofList (Line.firstWord text)) =
      Text.lower (String.ofList (Line.firstWord cs)))
    (hnext : program.addInstruction (instructionOn number cs operands) = .ok next) :
    ∃ next', other.addInstruction (instructionOn otherNumber text operands) = .ok next' ∧
      next.SameStatements next' := by
  obtain ⟨hself, rfl⟩ := addInstruction_eq_ok_iff.1 hnext
  have hself' : ¬ ((instructionOn otherNumber text operands).mnemonic = "als" ∧
      isSelfAlias operands) := by
    rw [instructionOn, hmnemonic]
    exact hself
  refine ⟨_, addInstruction_eq_ok_iff.2 ⟨hself', rfl⟩, ?_, ?_⟩
  · exact h.labels
  · rw [Array.map_push, Array.map_push, h.instructions, instructionOn, instructionOn, hmnemonic]

/-- **A line and its normal form do the same**, whatever their numbers are. -/
lemma addText (h : program.SameStatements other) (htext : Line.normalForm? cs = some text)
    (hnext : program.addText count number cs = .ok next) :
    ∃ next', other.addText count otherNumber text = .ok next' ∧ next.SameStatements next' := by
  rcases addText_eq_ok_iff.1 hnext with ⟨hlabel, hadd⟩ | ⟨hinstruction, operands, hoperands, hadd⟩ |
    ⟨hlabel, hinstruction, rfl⟩
  · rw [Line.normalForm?_of_isLabel hlabel] at htext
    obtain rfl := Option.some.inj htext
    obtain ⟨hkind, hname⟩ := Line.label_normalForm hlabel
    obtain ⟨next', hadd', hsame⟩ := h.addLabel hadd
    refine ⟨next', addText_eq_ok_iff.2 (.inl ⟨hkind, ?_⟩), hsame⟩
    rw [hname]
    exact hadd'
  · rw [Line.normalForm?_of_isInstruction hinstruction] at htext
    obtain rfl := Option.some.inj htext
    obtain ⟨hkind, hmnemonic, htexts⟩ := Line.instruction_normalForm hinstruction
    obtain ⟨next', hadd', hsame⟩ := h.addInstruction hmnemonic hadd
    refine ⟨next', addText_eq_ok_iff.2 (.inr (.inl ⟨hkind, operands, ?_, hadd'⟩)), hsame⟩
    rw [htexts]
    exact hoperands
  · rw [Line.normalForm?_eq_none_iff.2 ⟨hlabel, hinstruction⟩] at htext
    cases htext

end SameStatements

/-- A line that has no normal form adds nothing. -/
lemma eq_of_addText_of_normalForm? {number : Nat} (htext : Line.normalForm? cs = none)
    (hnext : program.addText count number cs = .ok next) : next = program := by
  obtain ⟨hlabel, hinstruction⟩ := Line.normalForm?_eq_none_iff.1 htext
  rcases addText_eq_ok_iff.1 hnext with ⟨hlabel', -⟩ | ⟨hinstruction', -⟩ | ⟨-, -, hsame⟩
  · exact absurd hlabel' hlabel
  · exact absurd hinstruction' hinstruction
  · exact hsame

/-- **The normal forms of lines are linked as the lines are.**

**Proof sketch.** Induction on the lines from the last one: it has no normal form and adds nothing,
or it has one that does the same to a program with the same statements. -/
lemma exists_linkLines_normalForms (h : linkLines count lines = .ok program) :
    ∃ again, linkLines count (lines.filterMap Line.normalForm?) = .ok again ∧
      program.SameStatements again := by
  induction lines using List.reverseRecOn generalizing program with
  | nil =>
    obtain rfl : program = {} := (Except.ok.inj h).symm
    exact ⟨{}, rfl, rfl, rfl⟩
  | append_singleton lines cs ih =>
    rw [linkLines_concat, Except.bind_eq_ok] at h
    obtain ⟨above, habove, hlast⟩ := h
    obtain ⟨again, hagain, hsame⟩ := ih habove
    rw [List.filterMap_append]
    cases htext : Line.normalForm? cs with
    | none =>
      obtain rfl := eq_of_addText_of_normalForm? htext hlast
      refine ⟨again, ?_, hsame⟩
      simpa [htext] using hagain
    | some text =>
      obtain ⟨next', hadd, hnext⟩ := hsame.addText htext hlast
      refine ⟨next', ?_, hnext⟩
      rw [List.filterMap_cons_some htext, List.filterMap_nil, linkLines_concat, hagain]
      exact hadd

/-- **Listings are read back.** When a program that is linked from a source is written down, with
the labels that are bound to a place in front of the instruction at that place, one statement on
each line, what is written can be linked in the same machine. The result has the same labels in the
same order, bound to the same places, as many instructions, and each of them has the same mnemonic
and the same operands.

**Proof sketch.** The listing consists of the normal forms of the lines of the source
(`listing_of_linkLines`). These hold no line break, so they are the lines of the text that is
written, and they are linked as the lines of the source are (`exists_linkLines_normalForms`): no
word holds a separator, and lower-casing makes none and is stable. -/
theorem listings_are_read_back {config : Config} {source : String}
    (hlink : link config source = .ok program) :
    ∃ again, link config program.render = .ok again ∧
      again.labels.map (fun label => (label.name, label.index)) =
        program.labels.map (fun label => (label.name, label.index)) ∧
      again.size = program.size ∧
      again.instructions.map (fun instruction => (instruction.mnemonic, instruction.operands)) =
        program.instructions.map fun instruction =>
          (instruction.mnemonic, instruction.operands) := by
  rw [link_eq_linkLines] at hlink
  obtain ⟨again, hagain, hsame⟩ := exists_linkLines_normalForms hlink
  have hlisting := listing_of_linkLines hlink
  have hlines : Text.lines program.render.toList = program.listing := by
    rw [render, String.toList_ofList]
    refine Text.lines_intercalate fun text htext => ?_
    rw [hlisting, List.mem_filterMap] at htext
    obtain ⟨cs, -, hnormal⟩ := htext
    exact Line.isLineBreak_of_mem_normalForm? hnormal
  refine ⟨again, ?_, hsame.labels, hsame.size_eq, hsame.instructions⟩
  rw [link_eq_linkLines, hlines, hlisting]
  exact hagain

/-- Two labels at one place keep their order, and a dotted capital letter stays two characters. -/
theorem listings_are_read_back_of_dotted :
    let source := "top: ; start\n:x: nop\n  MOV r0 , [ 1 ]\n\nİNC\nend:"
    let program : Program :=
      { instructions :=
          #[⟨"mov", [.register "r0", .indirect "[1]" (.literal "1" (.int 1))], 3, "MOV r0 , [ 1 ]"⟩,
            ⟨"i\u0307nc", [], 5, "İNC"⟩]
        labels := #[⟨"top", 1, 1⟩, ⟨":x", 1, 2⟩, ⟨"end", 3, 6⟩] }
    link .default source = .ok program ∧
      program.render = "top:\n:x:\nmov r0,[1]\ni\u0307nc \nend:" ∧
      ∃ again, link .default program.render = .ok again ∧
        again.labels.map (fun label => (label.name, label.index)) =
          #[("top", 1), (":x", 1), ("end", 3)] := by
  intro source program
  have hlink : link .default source = .ok program := by decide +kernel
  obtain ⟨again, hagain, hlabels, -, -⟩ := listings_are_read_back hlink
  refine ⟨hlink, by decide +kernel, again, hagain, ?_⟩
  simp [hlabels, program]

end Program

end RegisterMachine
