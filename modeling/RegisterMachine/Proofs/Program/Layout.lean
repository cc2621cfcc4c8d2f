import RegisterMachine.Proofs.Program.Linking
import RegisterMachine.Proofs.Program.Order
import Mathlib.Data.List.DropRight
import Mathlib.Data.List.Nodup
import Mathlib.Data.List.Pairwise

set_option autoImplicit false
set_option relaxedAutoImplicit false

/-!
# Layout of programs

The instructions of a program are those on the lines of its source, in their order, and each label
line gives one label, bound to the place behind the instructions above it.

## Main definitions

* `RegisterMachine.Instruction.IsReadFrom` — an instruction is the one that a line holds.
* `RegisterMachine.Program.labelsOf` — the labels that lines define.
* `RegisterMachine.Program.IsLayoutOf` — a program is laid out as its lines are.

## Main results

* `RegisterMachine.Program.isLayoutOf_of_linkLines` — a program that comes out of linking is laid
  out as its lines are.
* `RegisterMachine.Program.IsLayoutOf.findLabel?_eq_some_iff` — which labels are found.
* `RegisterMachine.Program.lines_become_instructions_and_labels` — the same of a source text.
-/

namespace RegisterMachine

/-- The instruction is the one that a line of text holds. -/
structure Instruction.IsReadFrom (count number : Nat) (cs : List Char) (instruction : Instruction) :
    Prop where
  /-- It has the number of the line. -/
  line : instruction.line = number
  /-- Its source is the line without comment and outer blanks. -/
  source : instruction.source = String.ofList (Line.stripped cs)
  /-- Its mnemonic is the first word in lower case. -/
  mnemonic : instruction.mnemonic = Text.lower (String.ofList (Line.firstWord cs))
  /-- It has one operand for each operand text of the line, which denotes the operand. -/
  operands : List.Forall₂ (fun text operand =>
    operand.text = text ∧ Operand.ofText count text = .ok operand) (Line.operandTexts cs)
      instruction.operands

namespace Program

variable {count number : Nat} {program next : Program} {lines : List (List Char)} {cs : List Char}
  {name : String}

/-- The labels that lines define, each bound to the place behind the instructions above it. -/
def labelsOf (lines : List (List Char)) : List Label :=
  ((lines.zipIdx 1).filter fun line => Line.isLabel line.1).map fun line =>
    { name := Line.labelName line.1
      index := (lines.take (line.2 - 1)).countP Line.isInstruction + 1
      line := line.2 }

/-- The instructions and labels of a program are those that lines hold. -/
structure IsLayoutOf (count : Nat) (lines : List (List Char)) (program : Program) : Prop where
  /-- There is one instruction for each instruction line. -/
  instructions : List.Forall₂ (fun line instruction =>
      Instruction.IsReadFrom count line.2 line.1 instruction)
    ((lines.zipIdx 1).filter fun line => Line.isInstruction line.1) program.instructions.toList
  /-- There is one label for each label line. -/
  labels : program.labels.toList = labelsOf lines
  /-- Labels have names. -/
  named : ∀ label ∈ program.labels, label.name ≠ ""
  /-- Labels have different names. -/
  distinct : (program.labels.toList.map Label.name).Nodup

/-! ## Lines in their order -/

/-- The last line has the last number. -/
lemma filter_zipIdx_concat (p : List Char → Bool) (lines : List (List Char)) (cs : List Char) :
    ((lines ++ [cs]).zipIdx 1).filter (fun line => p line.1) =
      (lines.zipIdx 1).filter (fun line => p line.1) ++
        if p cs then [(cs, lines.length + 1)] else [] := by
  rw [List.zipIdx_append, List.filter_append, List.zipIdx_singleton, Nat.add_comm 1]
  cases hp : p cs <;> simp [hp]

/-- A label on the last line is bound to the place behind all instructions. -/
lemma labelsOf_concat (lines : List (List Char)) (cs : List Char) :
    labelsOf (lines ++ [cs]) = labelsOf lines ++
      if Line.isLabel cs then
        [⟨Line.labelName cs, lines.countP Line.isInstruction + 1, lines.length + 1⟩]
      else [] := by
  have htake : ∀ line ∈ (lines.zipIdx 1).filter fun line => Line.isLabel line.1,
      (lines ++ [cs]).take (line.2 - 1) = lines.take (line.2 - 1) := by
    intro line hline
    have hlt := List.snd_lt_add_of_mem_zipIdx (List.mem_filter.1 hline).1
    exact List.take_append_of_le_length (by omega)
  rw [labelsOf, filter_zipIdx_concat, List.map_append]
  refine congrArg₂ _ (List.map_congr_left fun line hline => by rw [htake line hline]) ?_
  cases Line.isLabel cs <;> simp

/-- A label comes from the line that defines it. -/
lemma mem_labelsOf_iff {label : Label} :
    label ∈ labelsOf lines ↔ ∃ above first below, lines = above ++ first :: below ∧
      Line.isLabel first ∧
      label = ⟨Line.labelName first, above.countP Line.isInstruction + 1, above.length + 1⟩ := by
  simp only [labelsOf, List.mem_map, List.mem_filter, Prod.exists,
    List.mk_mem_zipIdx_iff_le_and_getElem?_sub]
  constructor
  · rintro ⟨first, number, ⟨⟨hpos, hget⟩, hlabel⟩, rfl⟩
    obtain ⟨hlt, rfl⟩ := List.getElem?_eq_some_iff.1 hget
    have hlength : (lines.take (number - 1)).length + 1 = number := by
      rw [List.length_take]
      omega
    refine ⟨lines.take (number - 1), lines[number - 1], lines.drop (number - 1 + 1), ?_, hlabel, ?_⟩
    · rw [List.getElem_cons_drop, List.take_append_drop]
    · rw [hlength]
  · rintro ⟨above, first, below, rfl, hlabel, rfl⟩
    exact ⟨first, above.length + 1, ⟨⟨by omega, by simp⟩, hlabel⟩, by simp⟩

/-- A program has as many instructions as there are instruction lines. -/
lemma IsLayoutOf.size_eq (h : program.IsLayoutOf count lines) :
    program.size = lines.countP Line.isInstruction := by
  have hlength := h.instructions.length_eq
  rw [← List.countP_eq_length_filter, Array.length_toList] at hlength
  calc program.size
      = (lines.zipIdx 1).countP fun line => Line.isInstruction line.1 := hlength.symm
    _ = ((lines.zipIdx 1).map Prod.fst).countP Line.isInstruction := by
        rw [List.countP_map]
        rfl
    _ = lines.countP Line.isInstruction := by rw [List.zipIdx_map_fst]

/-- A label is bound at most to the place behind the last instruction. -/
lemma IsLayoutOf.index_le (h : program.IsLayoutOf count lines) {label : Label}
    (hmem : label ∈ program.labels) : label.index ≤ program.size + 1 := by
  rw [← Array.mem_toList_iff, h.labels, mem_labelsOf_iff] at hmem
  obtain ⟨above, first, below, rfl, -, rfl⟩ := hmem
  rw [h.size_eq, List.countP_append]
  exact Nat.add_le_add_right (Nat.le_add_right _ _) 1

/-! ## Linking -/

namespace IsLayoutOf

/-- No lines make the empty program. -/
lemma empty : IsLayoutOf count [] {} where
  instructions := List.Forall₂.nil
  labels := rfl
  named := fun _ h => by simp at h
  distinct := List.nodup_nil

/-- A label line adds its label. -/
lemma addLabel (h : program.IsLayoutOf count lines) (hlabel : Line.isLabel cs)
    (hnext : program.addLabel (lines.length + 1) (String.ofList (Line.stripped cs))
      (Line.labelName cs) = .ok next) : next.IsLayoutOf count (lines ++ [cs]) := by
  obtain ⟨hne, hnew, rfl⟩ := addLabel_eq_ok_iff.1 hnext
  have hinstruction : ¬ Line.isInstruction cs := by
    intro hinstruction
    exact Line.not_isLabel_of_isInstruction hinstruction hlabel
  refine ⟨?_, ?_, fun label hmem => ?_, ?_⟩
  · rw [filter_zipIdx_concat, if_neg hinstruction, List.append_nil]
    exact h.instructions
  · rw [labelsOf_concat, if_pos hlabel, Array.toList_push, h.labels, h.size_eq]
  · rcases Array.mem_push.1 hmem with hold | rfl
    · exact h.named label hold
    · exact hne
  · rw [Array.toList_push, List.map_append, List.nodup_append]
    refine ⟨h.distinct, List.nodup_singleton _, ?_⟩
    intro old hold new hnewest
    obtain ⟨label, hmem, rfl⟩ := List.mem_map.1 hold
    rw [List.map_singleton, List.mem_singleton] at hnewest
    rw [hnewest]
    exact findLabel?_eq_none_iff.1 hnew label (Array.mem_toList_iff.1 hmem)

/-- An instruction line adds its instruction. -/
lemma addInstruction (h : program.IsLayoutOf count lines) (hinstruction : Line.isInstruction cs)
    {operands : List Operand}
    (hoperands : readOperands count (Line.operandTexts cs) = .ok operands)
    (hnext : program.addInstruction (instructionOn (lines.length + 1) cs operands) = .ok next) :
    next.IsLayoutOf count (lines ++ [cs]) := by
  obtain ⟨-, rfl⟩ := addInstruction_eq_ok_iff.1 hnext
  have hlabel : ¬ Line.isLabel cs := Line.not_isLabel_of_isInstruction hinstruction
  have hread : Instruction.IsReadFrom count (lines.length + 1) cs
      (instructionOn (lines.length + 1) cs operands) := by
    refine ⟨rfl, rfl, rfl, ?_⟩
    exact (readOperands_eq_ok_iff.1 hoperands).imp fun text operand htext =>
      ⟨Operand.text_of_ofText htext, htext⟩
  refine ⟨?_, ?_, h.named, h.distinct⟩
  · rw [filter_zipIdx_concat, if_pos hinstruction, Array.toList_push]
    exact List.rel_append h.instructions (List.Forall₂.cons hread List.Forall₂.nil)
  · rw [labelsOf_concat, if_neg hlabel, List.append_nil]
    exact h.labels

/-- A line that says nothing adds nothing. -/
lemma addBlank (h : program.IsLayoutOf count lines) (hlabel : ¬ Line.isLabel cs)
    (hinstruction : ¬ Line.isInstruction cs) : program.IsLayoutOf count (lines ++ [cs]) where
  instructions := by
    rw [filter_zipIdx_concat, if_neg hinstruction, List.append_nil]
    exact h.instructions
  labels := by
    rw [labelsOf_concat, if_neg hlabel, List.append_nil]
    exact h.labels
  named := h.named
  distinct := h.distinct

/-- One more line keeps a program laid out as its lines are. -/
lemma addText (h : program.IsLayoutOf count lines)
    (hnext : program.addText count (lines.length + 1) cs = .ok next) :
    next.IsLayoutOf count (lines ++ [cs]) := by
  rcases addText_eq_ok_iff.1 hnext with ⟨hlabel, hadd⟩ | ⟨hinstruction, operands, hoperands, hadd⟩ |
    ⟨hlabel, hinstruction, rfl⟩
  · exact h.addLabel hlabel hadd
  · exact h.addInstruction hinstruction hoperands hadd
  · exact h.addBlank hlabel hinstruction

end IsLayoutOf

/-- **A program that comes out of linking is laid out as its lines are.**

**Proof sketch.** Induction on the lines from the last one: it adds what it holds to a program that
is laid out as the lines above are. -/
lemma isLayoutOf_of_linkLines (h : linkLines count lines = .ok program) :
    program.IsLayoutOf count lines := by
  induction lines using List.reverseRecOn generalizing program with
  | nil =>
    obtain rfl : program = {} := (Except.ok.inj h).symm
    exact IsLayoutOf.empty
  | append_singleton lines cs ih =>
    rw [linkLines_concat, Except.bind_eq_ok] at h
    obtain ⟨above, habove, hlast⟩ := h
    exact (ih habove).addText hlast

/-- A program that is linked from a source is laid out as the lines of the source are. -/
lemma isLayoutOf_of_link {config : Config} {source : String}
    (h : link config source = .ok program) :
    program.IsLayoutOf config.registerCount (Text.lines source.toList) :=
  isLayoutOf_of_linkLines (by rwa [link_eq_linkLines] at h)

/-- An operand of a program is the reading of an operand text on a line with its instruction. -/
lemma IsLayoutOf.exists_operandText (h : program.IsLayoutOf count lines) {instruction : Instruction}
    (hinstruction : instruction ∈ program.instructions) {operand : Operand}
    (hoperand : operand ∈ instruction.operands) :
    ∃ line ∈ lines, operand.text ∈ Line.operandTexts line ∧
      Operand.ofText count operand.text = .ok operand := by
  obtain ⟨i, hi, rfl⟩ := List.getElem_of_mem (Array.mem_toList_iff.2 hinstruction)
  have hlines := h.instructions.length_eq
  have hread := h.instructions.get (by omega) hi
  obtain ⟨k, hk, rfl⟩ := List.getElem_of_mem hoperand
  have hoperands := hread.operands.length_eq
  obtain ⟨htext, hoperand⟩ := hread.operands.get (by rw [hoperands]; exact hk) hk
  simp only [List.get_eq_getElem] at htext hoperand
  have hmem := (List.mem_filter.1 (List.getElem_mem (hlines ▸ hi))).1
  refine ⟨_, List.fst_mem_of_mem_zipIdx hmem, ?_, by rw [htext, hoperand]⟩
  rw [htext]
  exact List.getElem_mem _

/-! ## The order of labels -/

/-- Labels are bound to places in ascending order. -/
lemma pairwise_labelsOf (lines : List (List Char)) :
    (labelsOf lines).Pairwise fun first second => first.index ≤ second.index := by
  have hnumbers : ((lines.zipIdx 1).map Prod.snd).Pairwise (· < ·) := by
    rw [List.zipIdx_map_snd]
    exact List.pairwise_lt_range'
  refine List.pairwise_map.2 (((List.pairwise_map.1 hnumbers).filter _).imp fun hlt => ?_)
  refine Nat.add_le_add_right (List.Sublist.countP_le ?_) 1
  exact List.take_sublist_take_left (by omega)

/-- Labels are found by their names. -/
lemma IsLayoutOf.findLabel?_eq (h : program.IsLayoutOf count lines) {label : Label}
    (hmem : label ∈ program.labels) : program.findLabel? label.name = some label := by
  cases hfind : program.findLabel? label.name with
  | none => exact absurd rfl (findLabel?_eq_none_iff.1 hfind label hmem)
  | some found =>
    have hname : found.name = label.name := by simpa using Array.find?_some hfind
    have hfound : found ∈ program.labels := Array.mem_of_find?_eq_some hfind
    rw [List.inj_on_of_nodup_map h.distinct (Array.mem_toList_iff.2 hfound)
      (Array.mem_toList_iff.2 hmem) hname]

/-- A program has a label of a name if a line defines it. -/
lemma IsLayoutOf.exists_label_iff (h : program.IsLayoutOf count lines) :
    (∃ label ∈ program.labels, label.name = name) ↔
      ∃ cs ∈ lines, Line.isLabel cs ∧ Line.labelName cs = name := by
  simp only [← Array.mem_toList_iff, h.labels, mem_labelsOf_iff]
  constructor
  · rintro ⟨_, ⟨above, cs, below, rfl, hlabel, rfl⟩, rfl⟩
    exact ⟨cs, by simp, hlabel, rfl⟩
  · rintro ⟨cs, hcs, hlabel, rfl⟩
    obtain ⟨above, below, rfl⟩ := List.mem_iff_append.1 hcs
    exact ⟨_, ⟨above, cs, below, rfl, hlabel, rfl⟩, rfl⟩

/-- **A name is found if a line defines it**, and what is found comes from the first such line. -/
lemma IsLayoutOf.findLabel?_eq_some_iff (h : program.IsLayoutOf count lines) {label : Label} :
    program.findLabel? name = some label ↔
      ∃ before first after, lines = before ++ first :: after ∧ Line.isLabel first ∧
        Line.labelName first = name ∧
        (∀ other ∈ before, Line.isLabel other → Line.labelName other ≠ name) ∧
        label = ⟨name, before.countP Line.isInstruction + 1, before.length + 1⟩ := by
  have hmem : ∀ label, label ∈ program.labels ↔ label ∈ labelsOf lines := by
    intro label
    rw [← h.labels, Array.mem_toList_iff]
  constructor
  · intro hfind
    obtain rfl : label.name = name := by simpa using Array.find?_some hfind
    obtain ⟨before, first, after, rfl, hfirst, rfl⟩ :=
      mem_labelsOf_iff.1 ((hmem label).1 (Array.mem_of_find?_eq_some hfind))
    refine ⟨before, first, after, rfl, hfirst, rfl, ?_, rfl⟩
    intro other hother hlabel hname
    -- a line further up with the name would have been found instead
    obtain ⟨front, back, rfl⟩ := List.mem_iff_append.1 hother
    have hearlier := h.findLabel?_eq ((hmem _).2 (mem_labelsOf_iff.2
      ⟨front, other, back ++ first :: after, by simp, hlabel, rfl⟩))
    rw [hname, hfind] at hearlier
    have hline := congrArg Label.line (Option.some.inj hearlier)
    simp at hline
  · rintro ⟨before, first, after, rfl, hfirst, rfl, -, rfl⟩
    have hfind := h.findLabel?_eq ((hmem _).2 (mem_labelsOf_iff.2
      ⟨before, first, after, rfl, hfirst, rfl⟩))
    exact hfind

/-- **Lines become instructions and labels.** A program that is linked from a source has one
instruction for each line with an instruction, in the order of the lines: with the number of the
line, counted from one, the text of the line without comment and outer blanks, the first word in
lower case and one operand for each operand text. It has one label for each line with a label, in
the order of the lines: it has the first word without its colon for a name, and it is bound to one
more than the number of instruction lines above it. All names are different, so each label is found
by its name, and it is bound to an instruction or to the place behind the last one.

**Proof sketch.** The program is laid out as the lines of the source are
(`isLayoutOf_of_linkLines`). Lines are numbered in ascending order, and so are the places of
labels, because there are no fewer instructions above a label further down. -/
theorem lines_become_instructions_and_labels {config : Config} {source : String}
    (hlink : link config source = .ok program) :
    let lines := Text.lines source.toList
    List.Forall₂ (fun line instruction =>
        Instruction.IsReadFrom config.registerCount line.2 line.1 instruction)
      ((lines.zipIdx 1).filter fun line => Line.isInstruction line.1)
      program.instructions.toList ∧
    (program.instructions.toList.Pairwise fun first second => first.line < second.line) ∧
    program.labels.toList =
      ((lines.zipIdx 1).filter fun line => Line.isLabel line.1).map (fun line =>
        { name := Line.labelName line.1
          index := (lines.take (line.2 - 1)).countP Line.isInstruction + 1
          line := line.2 }) ∧
    (program.labels.toList.map Label.name).Nodup ∧
    (program.labels.toList.Pairwise fun first second => first.index ≤ second.index) ∧
    ∀ label ∈ program.labels, program.labelIndex? label.name = some label.index ∧
      1 ≤ label.index ∧ label.index ≤ program.size + 1 := by
  intro lines
  have hlayout : program.IsLayoutOf config.registerCount lines :=
    isLayoutOf_of_linkLines (by rwa [link_eq_linkLines] at hlink)
  have hordered := isOrdered_of_link hlink
  refine ⟨hlayout.instructions, ?_, hlayout.labels, hlayout.distinct, ?_, fun label hmem => ?_⟩
  · refine List.pairwise_iff_getElem.2 fun i k hi hk hlt => ?_
    exact hordered.ascending i k _ _ hlt (by simp) (by simp)
  · rw [hlayout.labels]
    exact pairwise_labelsOf lines
  · have hindex : program.labelIndex? label.name = some label.index := by
      rw [labelIndex?, hlayout.findLabel?_eq hmem]
      rfl
    exact ⟨hindex, (isLinked_of_link hlink).labelIndex?_bounds hindex⟩

/-- A comment takes no place, and what follows a label on its line is ignored. -/
theorem lines_become_instructions_and_labels_of_comment :
    let source := "first:\n  MOV r0 , 1 ; one\n; none\nlast: nop\r\nhlt\nend::"
    let program : Program :=
      { instructions :=
          #[⟨"mov", [.register "r0", .literal "1" (.int 1)], 2, "MOV r0 , 1"⟩,
            ⟨"hlt", [], 5, "hlt"⟩]
        labels := #[⟨"first", 1, 1⟩, ⟨"last", 2, 4⟩, ⟨"end:", 3, 6⟩] }
    link .default source = .ok program ∧
      List.Forall₂ (fun line instruction => Instruction.IsReadFrom 16 line.2 line.1 instruction)
        [("  MOV r0 , 1 ; one".toList, 2), ("hlt".toList, 5)] program.instructions.toList ∧
      program.labelIndex? "end:" = some 3 := by
  intro source program
  have hlink : link .default source = .ok program := by decide +kernel
  obtain ⟨hinstructions, -, -, -, -, hlabels⟩ := lines_become_instructions_and_labels hlink
  have hlines : (((Text.lines source.toList).zipIdx 1).filter fun line =>
      Line.isInstruction line.1) = [("  MOV r0 , 1 ; one".toList, 2), ("hlt".toList, 5)] := by
    decide +kernel
  rw [hlines] at hinstructions
  exact ⟨hlink, hinstructions, (hlabels ⟨"end:", 3, 6⟩ (by simp [program])).1⟩

end Program

end RegisterMachine
