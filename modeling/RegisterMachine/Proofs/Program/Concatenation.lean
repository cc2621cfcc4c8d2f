import RegisterMachine.Proofs.Program.Layout

set_option autoImplicit false
set_option relaxedAutoImplicit false

/-!
# Sources behind each other

Two sources that can be linked apart can be linked as one text, if no label is defined in both: the
program of the second follows that of the first. A label that both define is refused where the
second source defines it.

## Main definitions

* `RegisterMachine.Program.followedBy` — one program behind another.

## Main results

* `RegisterMachine.Program.linkLines_append` — lines behind other lines denote the program behind
  theirs.
* `RegisterMachine.Program.linkLines_append_of_defined` — a label that is defined again is refused.
* `RegisterMachine.Program.sources_are_linked_in_parts` — the same of source texts.
-/

namespace RegisterMachine.Program

variable {count number lineCount : Nat} {first second next : Program}
  {above below lines : List (List Char)} {cs : List Char} {name : String}

/-- The programs one behind the other, where the first one was read from so many lines. Labels of
the second are bound to as many instructions more as the first one has. -/
def followedBy (first : Program) (lineCount : Nat) (second : Program) : Program where
  instructions := first.instructions ++ second.instructions.map fun instruction =>
    { instruction with line := instruction.line + lineCount }
  labels := first.labels ++ second.labels.map fun label =>
    { label with index := label.index + first.size, line := label.line + lineCount }

/-! ## Programs behind each other -/

lemma size_followedBy : (first.followedBy lineCount second).size = first.size + second.size := by
  simp [followedBy, size]

/-- No program behind another adds nothing to it. -/
lemma followedBy_empty : first.followedBy lineCount {} = first := by
  simp [followedBy]

/-- A name that is found in the first program is found there. -/
lemma findLabel?_followedBy {label : Label} (h : first.findLabel? name = some label) :
    (first.followedBy lineCount second).findLabel? name = some label := by
  rw [findLabel?] at h
  rw [findLabel?, followedBy, Array.find?_append, h, Option.some_or]

/-- A name is new if it is new in both programs. -/
lemma findLabel?_followedBy_eq_none (hfirst : first.findLabel? name = none)
    (hsecond : second.findLabel? name = none) :
    (first.followedBy lineCount second).findLabel? name = none := by
  rw [findLabel?_eq_none_iff] at hfirst hsecond ⊢
  intro label hmem
  rcases Array.mem_append.1 hmem with hlabel | hlabel
  · exact hfirst label hlabel
  · obtain ⟨other, hother, rfl⟩ := Array.mem_map.1 hlabel
    exact hsecond other hother

/-! ## Lines behind each other -/

/-- **A line adds the same to a program that follows another**, unless it defines a label of the
first program. -/
lemma addText_followedBy (hnext : second.addText count number cs = .ok next)
    (hnew : Line.isLabel cs → first.findLabel? (Line.labelName cs) = none) :
    (first.followedBy lineCount second).addText count (number + lineCount) cs =
      .ok (first.followedBy lineCount next) := by
  rw [addText_eq_ok_iff] at hnext ⊢
  rcases hnext with ⟨hlabel, hadd⟩ | ⟨hinstruction, operands, hoperands, hadd⟩ |
    ⟨hlabel, hinstruction, rfl⟩
  · obtain ⟨hname, hsecond, rfl⟩ := addLabel_eq_ok_iff.1 hadd
    refine .inl ⟨hlabel, addLabel_eq_ok_iff.2 ⟨hname, ?_, ?_⟩⟩
    · exact findLabel?_followedBy_eq_none (hnew hlabel) hsecond
    · rw [size_followedBy, Nat.add_comm first.size, Nat.add_right_comm]
      simp [followedBy]
  · obtain ⟨hself, rfl⟩ := addInstruction_eq_ok_iff.1 hadd
    refine .inr (.inl ⟨hinstruction, operands, hoperands, addInstruction_eq_ok_iff.2 ⟨hself, ?_⟩⟩)
    simp [followedBy, instructionOn]
  · exact .inr (.inr ⟨hlabel, hinstruction, rfl⟩)

/-- **Lines behind other lines denote the program behind theirs**, unless they define a label of it.

**Proof sketch.** Induction on the lines behind, from the last one: it has as many lines more above
it as there are in front. -/
lemma linkLines_append (habove : linkLines count above = .ok first)
    (hbelow : linkLines count below = .ok second)
    (hnew : ∀ cs ∈ below, Line.isLabel cs → first.findLabel? (Line.labelName cs) = none) :
    linkLines count (above ++ below) = .ok (first.followedBy above.length second) := by
  induction below using List.reverseRecOn generalizing second with
  | nil =>
    obtain rfl : second = {} := (Except.ok.inj hbelow).symm
    rw [List.append_nil, followedBy_empty, habove]
  | append_singleton below cs ih =>
    rw [linkLines_concat, Except.bind_eq_ok] at hbelow
    obtain ⟨before, hbefore, hlast⟩ := hbelow
    have hfront := ih hbefore fun other hother => hnew other (List.mem_append_left _ hother)
    have hadd : (first.followedBy above.length before).addText count
        (below.length + 1 + above.length) cs = .ok (first.followedBy above.length second) :=
      addText_followedBy hlast (hnew cs (by simp))
    rw [← List.append_assoc, linkLines_concat, hfront, List.length_append, Except.bind_eq_ok]
    refine ⟨_, rfl, ?_⟩
    rwa [Nat.add_comm above.length, Nat.add_right_comm]

/-- A label that is defined above is refused, and the refusal names the line that defines it. -/
lemma addText_eq_error_of_defined (hlayout : first.IsLayoutOf count lines)
    (hlabel : Line.isLabel cs) {label : Label}
    (hdefined : first.findLabel? (Line.labelName cs) = some label) :
    (first.followedBy lineCount second).addText count number cs =
      .error (refuse .duplicateLabel (duplicateMessage (Line.labelName cs) label.line) number
        (String.ofList (Line.stripped cs))) := by
  have hname : label.name = Line.labelName cs := by simpa using Array.find?_some hdefined
  have hne : Line.labelName cs ≠ "" := by
    rw [← hname]
    exact hlayout.named label (Array.mem_of_find?_eq_some hdefined)
  rw [addText_eq, if_pos hlabel]
  exact addLabel_eq_error_iff.2 (.inr ⟨hne, label, findLabel?_followedBy hdefined, rfl⟩)

/-- **A label of the program in front is refused at the first line behind that defines one**: the
lines above that line are linked, so that nothing is refused before. -/
lemma linkLines_append_of_defined (hfirst : linkLines count above = .ok first)
    (hbelow : ∃ second, linkLines count (lines ++ cs :: below) = .ok second)
    (hnew : ∀ other ∈ lines, Line.isLabel other → first.findLabel? (Line.labelName other) = none)
    (hlabel : Line.isLabel cs) {label : Label}
    (hdefined : first.findLabel? (Line.labelName cs) = some label) :
    linkLines count (above ++ (lines ++ cs :: below)) =
      .error (refuse .duplicateLabel (duplicateMessage (Line.labelName cs) label.line)
        (above.length + lines.length + 1) (String.ofList (Line.stripped cs))) := by
  obtain ⟨before, hbefore⟩ := exists_linkLines_of_append hbelow
  have hlinked := linkLines_append hfirst hbefore hnew
  refine linkLines_eq_error_iff.2 ⟨above ++ lines, cs, below, _, by simp, hlinked, ?_⟩
  rw [List.length_append]
  exact addText_eq_error_of_defined (isLayoutOf_of_linkLines hfirst) hlabel hdefined

/-- Of lines that define a label of a program, there is a first one. -/
lemma exists_first_defined (h : ∃ cs ∈ lines, Line.isLabel cs ∧
      ∃ label, first.findLabel? (Line.labelName cs) = some label) :
    ∃ before cs after label, lines = before ++ cs :: after ∧ Line.isLabel cs ∧
      first.findLabel? (Line.labelName cs) = some label ∧
      ∀ other ∈ before, Line.isLabel other → first.findLabel? (Line.labelName other) = none := by
  obtain ⟨cs, hmem, hlabel, label, hdefined⟩ := h
  have hsome : (lines.find? fun cs =>
      Line.isLabel cs && (first.findLabel? (Line.labelName cs)).isSome).isSome := by
    rw [List.find?_isSome]
    exact ⟨cs, hmem, by simp [hlabel, hdefined]⟩
  obtain ⟨cs, hfind⟩ := Option.isSome_iff_exists.1 hsome
  obtain ⟨hcs, before, after, hsplit, hbefore⟩ := List.find?_eq_some_iff_append.1 hfind
  obtain ⟨hlabel, hdefined⟩ : Line.isLabel cs ∧ (first.findLabel? (Line.labelName cs)).isSome := by
    simpa using hcs
  obtain ⟨label, hdefined⟩ := Option.isSome_iff_exists.1 hdefined
  refine ⟨before, cs, after, label, hsplit, hlabel, hdefined, fun other hother hkind => ?_⟩
  simpa [hkind] using hbefore other hother

/-! ## Sources -/

/-- **Sources are linked in parts.** Let two sources denote a program each, the first of them empty
or with a line feed at its end. If they define no label in common, the text of both denotes the
first program with the second one behind it: the instructions of the second have as many lines more
as the first source has, and its labels are bound to as many instructions more as the first program
has. If they define a label in common, the text of both is refused as a duplicate label at the first
line of the second source that defines a label of the first, and the message names the line of the
first source that defines it.

**Proof sketch.** A line feed parts the lines of the first source from those of the second
(`Text.lines_append`). Each line of the second adds the same to its program whether that follows the
first program or not (`addText_followedBy`), up to a line that defines a label of the first. -/
theorem sources_are_linked_in_parts {config : Config} {front back : String}
    {first second : Program} (hend : front = "" ∨ front.toList.getLast? = some '\n')
    (hfirst : link config front = .ok first) (hsecond : link config back = .ok second) :
    let above := Text.lines front.toList
    ((∀ label ∈ first.labels, ∀ other ∈ second.labels, label.name ≠ other.name) →
      link config (front ++ back) = .ok (first.followedBy above.length second)) ∧
    ((∃ label ∈ first.labels, ∃ other ∈ second.labels, label.name = other.name) →
      ∃ lines cs below before original after,
        Text.lines back.toList = lines ++ cs :: below ∧ Line.isLabel cs ∧
        (∀ other ∈ lines, Line.isLabel other →
          ∀ label ∈ first.labels, label.name ≠ Line.labelName other) ∧
        above = before ++ original :: after ∧ Line.isLabel original ∧
        Line.labelName original = Line.labelName cs ∧
        (∀ other ∈ before, Line.isLabel other → Line.labelName other ≠ Line.labelName cs) ∧
        link config (front ++ back) = .error (.fault
          { kind := .duplicateLabel
            message := duplicateMessage (Line.labelName cs) (before.length + 1)
            line := (above.length + lines.length + 1 : Nat)
            source := String.ofList (Line.stripped cs) })) := by
  intro above
  have hlines : Text.lines (front ++ back).toList = above ++ Text.lines back.toList := by
    rw [String.toList_append]
    refine Text.lines_append (hend.imp_left ?_) back.toList
    rintro rfl
    rfl
  rw [link_eq_linkLines] at hfirst hsecond
  rw [link_eq_linkLines, hlines]
  have hlayout := isLayoutOf_of_linkLines hfirst
  have hbehind := isLayoutOf_of_linkLines hsecond
  constructor
  · intro hdistinct
    refine linkLines_append hfirst hsecond fun cs hcs hlabel => ?_
    obtain ⟨other, hother, hname⟩ := hbehind.exists_label_iff.2 ⟨cs, hcs, hlabel, rfl⟩
    refine findLabel?_eq_none_iff.2 fun label hmem => ?_
    rw [← hname]
    exact hdistinct label hmem other hother
  · rintro ⟨label, hmem, other, hother, hname⟩
    obtain ⟨cs, hcs, hlabel, hdefined⟩ := hbehind.exists_label_iff.1 ⟨other, hother, rfl⟩
    have hfind := hlayout.findLabel?_eq hmem
    rw [hname, ← hdefined] at hfind
    obtain ⟨lines, cs, below, label, hsplit, hlabel, hfind, hnew⟩ :=
      exists_first_defined ⟨cs, hcs, hlabel, label, hfind⟩
    obtain ⟨before, original, after, habove, horiginal, hname, hfirst', rfl⟩ :=
      hlayout.findLabel?_eq_some_iff.1 hfind
    refine ⟨lines, cs, below, before, original, after, hsplit, hlabel, ?_, habove, horiginal, hname,
      hfirst', ?_⟩
    · intro other hother hkind
      exact findLabel?_eq_none_iff.1 (hnew other hother hkind)
    · rw [hsplit] at hsecond ⊢
      have hrefused := linkLines_append_of_defined hfirst ⟨second, hsecond⟩ hnew hlabel hfind
      exact hrefused

/-- The last label of the first source is bound to the first instruction of the second, and must not
be defined again. -/
theorem sources_are_linked_in_parts_of_last_label :
    let front := "top:\r\n  nop ; wait\nend:\n"
    let back := "\nhlt\nafter:"
    let other := "x:\nend: ; again"
    let first : Program :=
      { instructions := #[⟨"nop", [], 2, "nop"⟩], labels := #[⟨"top", 1, 1⟩, ⟨"end", 2, 3⟩] }
    let second : Program :=
      { instructions := #[⟨"hlt", [], 2, "hlt"⟩], labels := #[⟨"after", 2, 3⟩] }
    let third : Program := { labels := #[⟨"x", 1, 1⟩, ⟨"end", 1, 2⟩] }
    link .default front = .ok first ∧ link .default back = .ok second ∧
      link .default other = .ok third ∧
      link .default (front ++ back) = .ok
        { instructions := #[⟨"nop", [], 2, "nop"⟩, ⟨"hlt", [], 5, "hlt"⟩]
          labels := #[⟨"top", 1, 1⟩, ⟨"end", 2, 3⟩, ⟨"after", 3, 6⟩] } ∧
      link .default (front ++ other) = .error (.fault
        { kind := .duplicateLabel
          message := "Duplicate label 'end' (first defined on line 3)"
          line := 5
          source := "end:" }) ∧
      ∃ lines cs below, Text.lines other.toList = lines ++ cs :: below ∧ lines.length = 1 ∧
        Line.isLabel cs := by
  intro front back other first second third
  have hend : front = "" ∨ front.toList.getLast? = some '\n' := .inr (by decide)
  have hfirst : link .default front = .ok first := by decide +kernel
  have hsecond : link .default back = .ok second := by decide +kernel
  have hthird : link .default other = .ok third := by decide +kernel
  have hfault : link .default (front ++ other) = .error (.fault
      { kind := .duplicateLabel
        message := "Duplicate label 'end' (first defined on line 3)"
        line := 5
        source := "end:" }) := by decide +kernel
  have hlength : (Text.lines front.toList).length = 3 := by decide +kernel
  obtain ⟨hlink, -⟩ := sources_are_linked_in_parts hend hfirst hsecond
  obtain ⟨-, hrefuse⟩ := sources_are_linked_in_parts hend hfirst hthird
  obtain ⟨lines, cs, below, _, _, _, hsplit, hlabel, -, -, -, -, -, hrefused⟩ :=
    hrefuse ⟨⟨"end", 2, 3⟩, by simp [first], ⟨"end", 1, 2⟩, by simp [third], rfl⟩
  rw [hfault] at hrefused
  simp only [Except.error.injEq, LinkError.fault.injEq, Fault.mk.injEq] at hrefused
  obtain ⟨-, -, hline, -⟩ := hrefused
  refine ⟨hfirst, hsecond, hthird, ?_, hfault, lines, cs, below, hsplit, by omega, hlabel⟩
  rw [hlink (by decide +kernel)]
  decide +kernel

end RegisterMachine.Program
