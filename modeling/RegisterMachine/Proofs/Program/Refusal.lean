import RegisterMachine.Proofs.Operand.DigitLimit
import RegisterMachine.Proofs.Program.Layout

set_option autoImplicit false
set_option relaxedAutoImplicit false

/-!
# Refusals of the linker

A source is refused at the first line that offends: one that defines a label without a name, one
that defines the label of a line above, and one that aliases a symbol to itself. The refusal has the
number and the text of that line. Only where an operand is a decimal integer with too many digits,
the limit of the conversion is hit instead, and no line is named.

## Main definitions

* `RegisterMachine.Program.Offends` — the lines that are refused, each with its kind and message.
* `RegisterMachine.Program.IsUnreadable` — the lines that hit the digit limit.
* `RegisterMachine.Program.IsRefused` — both, each with its error.

## Main results

* `RegisterMachine.Program.addText_eq_error_iff` — why a line is refused.
* `RegisterMachine.Program.linkLines_eq_error_iff_isRefused`,
  `RegisterMachine.Program.exists_linkLines_iff` — lines are refused at the first of them that is.
* `RegisterMachine.Program.first_offence_is_reported` — sources without overlong operands.
* `RegisterMachine.Program.refusals_name_their_line` — all sources.
-/

namespace RegisterMachine.Program

variable {count : Nat} {program : Program} {above below lines : List (List Char)} {cs : List Char}
  {name : String} {e : LinkError}

/-! ## Offences -/

/-- The line must not stand under the lines above, for a reason of that kind and with that
message. -/
inductive Offends (count : Nat) (above : List (List Char)) (cs : List Char) :
    FaultKind → String → Prop
  /-- A label has no name. -/
  | unnamed (hlabel : Line.isLabel cs) (hname : Line.labelName cs = "") :
      Offends count above cs .invalidLabel "Empty label name"
  /-- A label was defined on a line above; the message names the first such line. -/
  | duplicate {before after : List (List Char)} {first : List Char} (hlabel : Line.isLabel cs)
      (habove : above = before ++ first :: after) (hfirst : Line.isLabel first)
      (hname : Line.labelName first = Line.labelName cs)
      (hnew : ∀ other ∈ before, Line.isLabel other → Line.labelName other ≠ Line.labelName cs) :
      Offends count above cs .duplicateLabel
        (duplicateMessage (Line.labelName cs) (before.length + 1))
  /-- A symbol is aliased to itself. -/
  | selfAlias {first second text : String} {rest : List String}
      (hinstruction : Line.isInstruction cs)
      (hmnemonic : Text.lower (String.ofList (Line.firstWord cs)) = "als")
      (htexts : Line.operandTexts cs = first :: second :: rest)
      (hfirst : Operand.ofText count first = .ok (.symbol text))
      (hsecond : Operand.ofText count second = .ok (.symbol text)) :
      Offends count above cs .aliasCycle (selfAliasMessage text)

/-- An operand of the line denotes nothing, because it has too many digits. -/
def IsUnreadable (count : Nat) (cs : List Char) : Prop :=
  Line.isInstruction cs ∧ ∃ text ∈ Line.operandTexts cs, Operand.IsOverlong count text

/-- Linking the line under the lines above fails with the error. -/
inductive IsRefused (count : Nat) (above : List (List Char)) (cs : List Char) : LinkError → Prop
  /-- The line offends, and its operands were read before that was seen. -/
  | offence {kind : FaultKind} {message : String} (hreadable : ¬ IsUnreadable count cs)
      (h : Offends count above cs kind message) :
      IsRefused count above cs
        (refuse kind message (above.length + 1) (String.ofList (Line.stripped cs)))
  /-- The first overlong operand hits the digit limit. -/
  | overlong {before after : List String} {text : String} (hinstruction : Line.isInstruction cs)
      (htexts : Line.operandTexts cs = before ++ text :: after)
      (hbefore : ∀ other ∈ before, ¬ Operand.IsOverlong count other)
      (htext : Operand.IsOverlong count text) :
      IsRefused count above cs
        (.digitLimit ⟨(Literal.integerDigits (Operand.innermost text.toList)).length⟩)

/-! ## Refusals of one line -/

/-- Operands are read unless one of them is overlong. -/
lemma exists_readOperands_iff {texts : List String} :
    (∃ operands, readOperands count texts = .ok operands) ↔
      ∀ text ∈ texts, ¬ Operand.IsOverlong count text := by
  simp only [readOperands_eq_ok_iff, ← Operand.exists_ofText_iff]
  induction texts with
  | nil => simp
  | cons text texts ih =>
    simp only [List.forall_mem_cons, ← ih, List.forall₂_cons_left_iff]
    constructor
    · rintro ⟨-, operand, operands, htext, htexts, rfl⟩
      exact ⟨⟨operand, htext⟩, operands, htexts⟩
    · rintro ⟨⟨operand, htext⟩, operands, htexts⟩
      exact ⟨operand :: operands, operand, operands, htext, htexts, rfl⟩

/-- Operands are not read if one of them is overlong, and the first such operand says so. -/
lemma readOperands_eq_error_iff_isOverlong {texts : List String} :
    readOperands count texts = .error e ↔
      ∃ before text after, texts = before ++ text :: after ∧
        (∀ other ∈ before, ¬ Operand.IsOverlong count other) ∧ Operand.IsOverlong count text ∧
        e = .digitLimit ⟨(Literal.integerDigits (Operand.innermost text.toList)).length⟩ := by
  simp only [readOperands_eq_error_iff, Operand.ofText_eq_error_iff, Operand.exists_ofText_iff]
  constructor
  · rintro ⟨before, text, after, _, htexts, hbefore, ⟨htext, rfl⟩, rfl⟩
    exact ⟨before, text, after, htexts, hbefore, htext, rfl⟩
  · rintro ⟨before, text, after, htexts, hbefore, htext, rfl⟩
    exact ⟨before, text, after, _, htexts, hbefore, ⟨htext, rfl⟩, rfl⟩

/-- A label line is refused if it offends. -/
lemma addLabel_eq_error_iff_offends (h : program.IsLayoutOf count above)
    (hlabel : Line.isLabel cs) :
    program.addLabel (above.length + 1) (String.ofList (Line.stripped cs)) (Line.labelName cs) =
        .error e ↔
      ∃ kind message, Offends count above cs kind message ∧
        e = refuse kind message (above.length + 1) (String.ofList (Line.stripped cs)) := by
  rw [addLabel_eq_error_iff]
  constructor
  · rintro (⟨hname, rfl⟩ | ⟨-, first, hfind, rfl⟩)
    · exact ⟨_, _, .unnamed hlabel hname, rfl⟩
    · obtain ⟨before, other, after, habove, hother, hname, hnew, rfl⟩ :=
        h.findLabel?_eq_some_iff.1 hfind
      exact ⟨_, _, .duplicate hlabel habove hother hname hnew, rfl⟩
  · rintro ⟨_, _, ⟨-, hname⟩ | ⟨-, habove, hother, hname, hnew⟩ | ⟨hinstruction⟩, rfl⟩
    · exact .inl ⟨hname, rfl⟩
    · have hfind := h.findLabel?_eq_some_iff.2 ⟨_, _, _, habove, hother, hname, hnew, rfl⟩
      have hne : Line.labelName cs ≠ "" := h.named _ (Array.mem_of_find?_eq_some hfind)
      exact .inr ⟨hne, _, hfind, rfl⟩
    · exact absurd hlabel (Line.not_isLabel_of_isInstruction hinstruction)

/-- An instruction line whose operands are read is refused if it offends. -/
lemma addInstruction_eq_error_iff_offends (hinstruction : Line.isInstruction cs)
    {operands : List Operand}
    (hoperands : readOperands count (Line.operandTexts cs) = .ok operands) :
    program.addInstruction (instructionOn (above.length + 1) cs operands) = .error e ↔
      ∃ kind message, Offends count above cs kind message ∧
        e = refuse kind message (above.length + 1) (String.ofList (Line.stripped cs)) := by
  have hlabel : ¬ Line.isLabel cs := Line.not_isLabel_of_isInstruction hinstruction
  rw [readOperands_eq_ok_iff] at hoperands
  rw [addInstruction_eq_error_iff]
  constructor
  · rintro ⟨text, rest, hmnemonic, hself, rfl⟩
    change operands = _ at hself
    rw [hself, List.forall₂_cons_right_iff] at hoperands
    obtain ⟨first, texts, hfirst, htail, htexts⟩ := hoperands
    obtain ⟨second, others, hsecond, -, rfl⟩ := List.forall₂_cons_right_iff.1 htail
    exact ⟨_, _, .selfAlias hinstruction hmnemonic htexts hfirst hsecond, rfl⟩
  · rintro ⟨_, _, ⟨hlabel'⟩ | ⟨hlabel'⟩ | ⟨-, hmnemonic, htexts, hfirst, hsecond⟩, rfl⟩
    · exact absurd hlabel' hlabel
    · exact absurd hlabel' hlabel
    · rw [htexts, List.forall₂_cons_left_iff] at hoperands
      obtain ⟨_, _, hfirst', htail, rfl⟩ := hoperands
      obtain ⟨_, rest, hsecond', -, rfl⟩ := List.forall₂_cons_left_iff.1 htail
      rw [hfirst] at hfirst'
      rw [hsecond] at hsecond'
      cases hfirst'
      cases hsecond'
      exact ⟨_, rest, hmnemonic, rfl, rfl⟩

/-- A line that offends says something. -/
lemma Offends.isLabel_or_isInstruction {kind : FaultKind} {message : String}
    (h : Offends count above cs kind message) : Line.isLabel cs ∨ Line.isInstruction cs := by
  cases h with
  | unnamed hlabel _ => exact .inl hlabel
  | duplicate hlabel _ _ _ _ => exact .inl hlabel
  | selfAlias hinstruction _ _ _ _ => exact .inr hinstruction

/-- A line without overlong operands is refused if it offends. -/
lemma isRefused_iff_of_readable (h : ¬ IsUnreadable count cs) :
    IsRefused count above cs e ↔ ∃ kind message, Offends count above cs kind message ∧
      e = refuse kind message (above.length + 1) (String.ofList (Line.stripped cs)) := by
  constructor
  · rintro (⟨-, hoffends⟩ | ⟨hinstruction, htexts, -, htext⟩)
    · exact ⟨_, _, hoffends, rfl⟩
    · exact absurd ⟨hinstruction, _, by simp [htexts], htext⟩ h
  · rintro ⟨kind, message, hoffends, rfl⟩
    exact .offence h hoffends

/-- A line with overlong operands is refused as the first of them. -/
lemma isRefused_iff_of_isUnreadable (h : IsUnreadable count cs) :
    IsRefused count above cs e ↔ readOperands count (Line.operandTexts cs) = .error e := by
  rw [readOperands_eq_error_iff_isOverlong]
  constructor
  · rintro (⟨hreadable, -⟩ | ⟨-, htexts, hbefore, htext⟩)
    · exact absurd h hreadable
    · exact ⟨_, _, _, htexts, hbefore, htext, rfl⟩
  · rintro ⟨before, text, after, htexts, hbefore, htext, rfl⟩
    exact .overlong h.1 htexts hbefore htext

/-- **Why a line is refused** under lines that are linked. -/
lemma addText_eq_error_iff (h : program.IsLayoutOf count above) :
    program.addText count (above.length + 1) cs = .error e ↔ IsRefused count above cs e := by
  rw [addText_eq]
  by_cases hlabel : Line.isLabel cs
  · have hreadable : ¬ IsUnreadable count cs := by
      rintro ⟨hinstruction, -⟩
      exact Line.not_isLabel_of_isInstruction hinstruction hlabel
    rw [if_pos hlabel, isRefused_iff_of_readable hreadable,
      addLabel_eq_error_iff_offends h hlabel]
  rw [if_neg hlabel]
  by_cases hinstruction : Line.isInstruction cs
  · rw [if_pos hinstruction, Except.bind_eq_error]
    cases hoperands : readOperands count (Line.operandTexts cs) with
    | ok operands =>
      have hreadable : ¬ IsUnreadable count cs := by
        rintro ⟨-, text, htext, hoverlong⟩
        exact exists_readOperands_iff.1 ⟨operands, hoperands⟩ text htext hoverlong
      have hadd : program.addInstruction (instructionOn (above.length + 1) cs operands) =
          .error e ↔ _ := addInstruction_eq_error_iff_offends hinstruction hoperands
      rw [isRefused_iff_of_readable hreadable, ← hadd]
      simp only [reduceCtorEq, false_or, Except.ok.injEq, exists_eq_left']
    | error first =>
      obtain ⟨before, text, after, htexts, -, htext, -⟩ :=
        readOperands_eq_error_iff_isOverlong.1 hoperands
      have hunreadable : IsUnreadable count cs := ⟨hinstruction, text, by simp [htexts], htext⟩
      rw [isRefused_iff_of_isUnreadable hunreadable, hoperands]
      simp only [reduceCtorEq, false_and, exists_false, or_false]
  · have hreadable : ¬ IsUnreadable count cs := by
      intro hunreadable
      exact hinstruction hunreadable.1
    rw [if_neg hinstruction, isRefused_iff_of_readable hreadable]
    simp only [reduceCtorEq, false_iff]
    rintro ⟨kind, message, hoffends, -⟩
    exact hoffends.isLabel_or_isInstruction.elim hlabel hinstruction

/-! ## Refusals of many lines -/

/-- **Lines are refused at one that is refused** under lines that are linked. -/
lemma linkLines_eq_error_iff_isRefused :
    linkLines count lines = .error e ↔ ∃ above cs below, lines = above ++ cs :: below ∧
      (∃ program, linkLines count above = .ok program) ∧ IsRefused count above cs e := by
  rw [linkLines_eq_error_iff]
  constructor
  · rintro ⟨above, cs, below, program, hsplit, habove, hcs⟩
    exact ⟨above, cs, below, hsplit, ⟨program, habove⟩,
      (addText_eq_error_iff (isLayoutOf_of_linkLines habove)).1 hcs⟩
  · rintro ⟨above, cs, below, hsplit, ⟨program, habove⟩, hcs⟩
    exact ⟨above, cs, below, program, hsplit, habove,
      (addText_eq_error_iff (isLayoutOf_of_linkLines habove)).2 hcs⟩

/-- **Lines are linked unless one of them is refused.** -/
lemma exists_linkLines_iff :
    (∃ program, linkLines count lines = .ok program) ↔
      ∀ above cs below, lines = above ++ cs :: below → ∀ e, ¬ IsRefused count above cs e := by
  constructor
  · rintro hlines above cs below rfl e hrefused
    rw [List.append_cons] at hlines
    obtain ⟨program, hlink⟩ := exists_linkLines_of_append hlines
    rw [linkLines_concat, Except.bind_eq_ok] at hlink
    obtain ⟨before, hbefore, hcs⟩ := hlink
    rw [(addText_eq_error_iff (isLayoutOf_of_linkLines hbefore)).2 hrefused] at hcs
    cases hcs
  · intro h
    cases hlink : linkLines count lines with
    | ok program => exact ⟨program, rfl⟩
    | error e =>
      obtain ⟨above, cs, below, hsplit, -, hrefused⟩ := linkLines_eq_error_iff_isRefused.1 hlink
      exact absurd hrefused (h above cs below hsplit e)

/-! ## Sources without overlong operands -/

/-- Operands under the limit are not overlong. -/
lemma not_isUnreadable
    (hdigits : Line.isInstruction cs → ∀ text ∈ Line.operandTexts cs,
      (Literal.integerDigits (Operand.innermost text.toList)).length ≤ DigitLimit.limit) :
    ¬ IsUnreadable count cs := by
  rintro ⟨hinstruction, text, htext, hoverlong⟩
  have hle := hdigits hinstruction text htext
  have hlt := hoverlong.limit_lt
  omega

/-- Readable lines are linked unless one of them offends. -/
lemma exists_linkLines_iff_of_readable (hreadable : ∀ cs ∈ lines, ¬ IsUnreadable count cs) :
    (∃ program, linkLines count lines = .ok program) ↔
      ∀ above cs below, lines = above ++ cs :: below →
        ∀ kind message, ¬ Offends count above cs kind message := by
  rw [exists_linkLines_iff]
  constructor
  · rintro h above cs below hsplit kind message hoffends
    have hcs := hreadable cs (by simp [hsplit])
    exact h above cs below hsplit _ (.offence hcs hoffends)
  · intro h above cs below hsplit e hrefused
    have hcs := hreadable cs (by simp [hsplit])
    obtain ⟨kind, message, hoffends, -⟩ := (isRefused_iff_of_readable hcs).1 hrefused
    exact h above cs below hsplit kind message hoffends

/-- Readable lines are refused at the first one that offends. -/
lemma linkLines_eq_error_iff_of_readable (hreadable : ∀ cs ∈ lines, ¬ IsUnreadable count cs) :
    linkLines count lines = .error e ↔
      ∃ above cs below kind message, lines = above ++ cs :: below ∧
        Offends count above cs kind message ∧
        (∀ front other back, above = front ++ other :: back →
          ∀ kind message, ¬ Offends count front other kind message) ∧
        e = refuse kind message (above.length + 1) (String.ofList (Line.stripped cs)) := by
  rw [linkLines_eq_error_iff_isRefused]
  constructor
  · rintro ⟨above, cs, below, rfl, habove, hrefused⟩
    rw [exists_linkLines_iff_of_readable fun other hother =>
      hreadable other (List.mem_append_left _ hother)] at habove
    obtain ⟨kind, message, hoffends, rfl⟩ :=
      (isRefused_iff_of_readable (hreadable cs (by simp))).1 hrefused
    exact ⟨above, cs, below, kind, message, rfl, hoffends, habove, rfl⟩
  · rintro ⟨above, cs, below, kind, message, rfl, hoffends, habove, rfl⟩
    rw [← exists_linkLines_iff_of_readable fun other hother =>
      hreadable other (List.mem_append_left _ hother)] at habove
    exact ⟨above, cs, below, rfl, habove, .offence (hreadable cs (by simp)) hoffends⟩

/-- Sources without overlong operands do not hit the digit limit. -/
lemma link_ne_digitLimit {config : Config} {source : String}
    (hdigits : ∀ cs ∈ Text.lines source.toList, Line.isInstruction cs →
      ∀ text ∈ Line.operandTexts cs,
        (Literal.integerDigits (Operand.innermost text.toList)).length ≤ DigitLimit.limit)
    (digits : DigitLimit) : link config source ≠ .error (.digitLimit digits) := by
  rw [link_eq_linkLines]
  intro hlink
  obtain ⟨_, _, _, kind, message, -, -, -, hrefuse⟩ := (linkLines_eq_error_iff_of_readable
    fun cs hcs => not_isUnreadable (hdigits cs hcs)).1 hlink
  cases hrefuse

/-- **The first offence is reported.** Let no operand of a source be a decimal integer with more
digits than the limit of the conversion, in however many brackets. The source is refused if and only
if a line offends: it defines a label without a name, it defines a label that a line above defines,
or it aliases a symbol to itself. The refusal is that of the first such line: it has the kind and
the message of the offence, the number of the line and its text without comment and outer blanks.

**Proof sketch.** Under the limit a line is refused if and only if it offends. Linking fails at a
refused line under lines that are linked (`linkLines_eq_error_iff_isRefused`), and lines are linked
unless one of them is refused (`exists_linkLines_iff`), so no line above offends. -/
theorem first_offence_is_reported {config : Config} {source : String}
    (hdigits : ∀ cs ∈ Text.lines source.toList, Line.isInstruction cs →
      ∀ text ∈ Line.operandTexts cs,
        (Literal.integerDigits (Operand.innermost text.toList)).length ≤ DigitLimit.limit) :
    let lines := Text.lines source.toList
    let count := config.registerCount
    ((∃ e, link config source = .error e) ↔
      ∃ above cs below kind message, lines = above ++ cs :: below ∧
        Offends count above cs kind message) ∧
    ∀ e, link config source = .error e ↔
      ∃ above cs below kind message, lines = above ++ cs :: below ∧
        Offends count above cs kind message ∧
        (∀ front other back, above = front ++ other :: back →
          ∀ kind message, ¬ Offends count front other kind message) ∧
        e = .fault { kind, message, line := (above.length + 1 : Nat),
                     source := String.ofList (Line.stripped cs) } := by
  intro lines count
  have hreadable : ∀ cs ∈ lines, ¬ IsUnreadable count cs := by
    intro cs hcs
    exact not_isUnreadable (hdigits cs hcs)
  rw [link_eq_linkLines]
  refine ⟨?_, fun e => linkLines_eq_error_iff_of_readable hreadable⟩
  constructor
  · rintro ⟨e, hlink⟩
    obtain ⟨above, cs, below, kind, message, hsplit, hoffends, -⟩ :=
      (linkLines_eq_error_iff_of_readable hreadable).1 hlink
    exact ⟨above, cs, below, kind, message, hsplit, hoffends⟩
  · rintro ⟨above, cs, below, kind, message, hsplit, hoffends⟩
    by_contra hnone
    -- if no error came out, all lines would be linked, but one of them offends
    obtain ⟨program, hlink⟩ : ∃ program, linkLines count lines = .ok program := by
      cases hlink : linkLines count lines with
      | ok program => exact ⟨program, rfl⟩
      | error e => exact absurd ⟨e, hlink⟩ hnone
    exact (exists_linkLines_iff_of_readable hreadable).1 ⟨program, hlink⟩ above cs below hsplit
      kind message hoffends

/-- An alias for itself on the fourth line is not reached. -/
theorem first_offence_is_reported_of_duplicate :
    let source := "loop:\n  inc r0\nloop: jmp loop ; again\nals x, x"
    link .default source = .error (.fault
      { kind := .duplicateLabel
        message := "Duplicate label 'loop' (first defined on line 1)"
        line := 3
        source := "loop: jmp loop" }) ∧
    ∃ above cs below, Text.lines source.toList = above ++ cs :: below ∧ above.length + 1 = 3 ∧
      Offends 16 above cs .duplicateLabel "Duplicate label 'loop' (first defined on line 1)" := by
  intro source
  have hlink : link .default source = .error (.fault
      { kind := .duplicateLabel
        message := "Duplicate label 'loop' (first defined on line 1)"
        line := 3
        source := "loop: jmp loop" }) := by decide +kernel
  have hdigits : ∀ cs ∈ Text.lines source.toList, Line.isInstruction cs →
      ∀ text ∈ Line.operandTexts cs,
        (Literal.integerDigits (Operand.innermost text.toList)).length ≤ DigitLimit.limit := by
    decide +kernel
  obtain ⟨above, cs, below, kind, message, hsplit, hoffends, -, hfault⟩ :=
    ((first_offence_is_reported hdigits).2 _).1 hlink
  simp only [LinkError.fault.injEq, Fault.mk.injEq] at hfault
  obtain ⟨rfl, rfl, hline, -⟩ := hfault
  exact ⟨hlink, above, cs, below, hsplit, by omega, hoffends⟩

/-! ## All sources -/

/-- A line with overlong operands hits the digit limit. -/
lemma exists_digitLimit (h : IsUnreadable count cs) :
    ∃ digits, IsRefused count above cs (.digitLimit digits) := by
  obtain ⟨hinstruction, text, htext, hoverlong⟩ := h
  cases hoperands : readOperands count (Line.operandTexts cs) with
  | ok operands =>
    exact absurd hoverlong (exists_readOperands_iff.1 ⟨operands, hoperands⟩ text htext)
  | error e =>
    obtain ⟨before, first, after, htexts, hbefore, hfirst, rfl⟩ :=
      readOperands_eq_error_iff_isOverlong.1 hoperands
    exact ⟨_, .overlong hinstruction htexts hbefore hfirst⟩

/-- **Refusals name their line, unless the digit limit is hit.** A source is refused with a fault if
and only if it has a line that offends, all of whose operands can be read, under lines that are
linked; the fault has the kind and the message of the offence, the number of the line and its text
without comment and outer blanks. A source is refused without a line if and only if it has a line
with an overlong operand under lines that are linked.

**Proof sketch.** Linking fails at a refused line under lines that are linked
(`linkLines_eq_error_iff_isRefused`), and a refusal is an offence or an overlong operand. -/
theorem refusals_name_their_line (config : Config) (source : String) :
    let lines := Text.lines source.toList
    let count := config.registerCount
    (∀ fault, link config source = .error (.fault fault) ↔
      ∃ above cs below, lines = above ++ cs :: below ∧
        (∃ program, linkLines count above = .ok program) ∧ ¬ IsUnreadable count cs ∧
        Offends count above cs fault.kind fault.message ∧
        fault.line = (above.length + 1 : Nat) ∧ fault.source = String.ofList (Line.stripped cs)) ∧
    ((∃ digits, link config source = .error (.digitLimit digits)) ↔
      ∃ above cs below, lines = above ++ cs :: below ∧
        (∃ program, linkLines count above = .ok program) ∧ IsUnreadable count cs) := by
  intro lines count
  rw [link_eq_linkLines]
  simp only [linkLines_eq_error_iff_isRefused]
  refine ⟨fun fault => ?_, ?_⟩
  · constructor
    · rintro ⟨above, cs, below, hsplit, habove, hreadable, hoffends⟩
      exact ⟨above, cs, below, hsplit, habove, hreadable, hoffends, rfl, rfl⟩
    · rintro ⟨above, cs, below, hsplit, habove, hreadable, hoffends, hline, hsource⟩
      have hrefused := IsRefused.offence hreadable hoffends
      rw [refuse, ← hline, ← hsource] at hrefused
      exact ⟨above, cs, below, hsplit, habove, hrefused⟩
  · constructor
    · rintro ⟨digits, above, cs, below, hsplit, habove, hrefused⟩
      refine ⟨above, cs, below, hsplit, habove, ?_⟩
      cases hrefused with
      | overlong hinstruction htexts _ htext => exact ⟨hinstruction, _, by simp [htexts], htext⟩
    · rintro ⟨above, cs, below, hsplit, habove, hunreadable⟩
      obtain ⟨digits, hrefused⟩ := exists_digitLimit hunreadable
      exact ⟨digits, above, cs, below, hsplit, habove, hrefused⟩

/-- A source of one instruction with an overlong operand is refused without a line. -/
lemma link_instructionText_of_isOverlong (config : Config) {mnemonic text : String}
    (hmnemonic : Line.IsToken mnemonic.toList) (hcolon : mnemonic.toList.getLast? ≠ some ':')
    (htext : Line.IsOperandText text) (hoverlong : Operand.IsOverlong config.registerCount text) :
    link config (String.ofList (Line.instructionText mnemonic [text])) =
      .error (.digitLimit ⟨(Literal.integerDigits (Operand.innermost text.toList)).length⟩) := by
  have htexts : ∀ other ∈ [text], Line.IsOperandText other := List.forall_mem_singleton.2 htext
  obtain ⟨hinstruction, -, hoperands⟩ := Line.of_instructionText hmnemonic htexts hcolon
  rw [link_eq_linkLines, String.toList_ofList, Line.lines_instructionText hmnemonic htexts,
    linkLines_eq_error_iff_isRefused]
  rw [← List.nil_append [text]] at hoperands
  refine ⟨[], _, [], rfl, ⟨{}, rfl⟩, ?_⟩
  exact .overlong hinstruction hoperands (List.forall_mem_nil _) hoverlong

/-- A row of zeros may be an operand. -/
lemma isOperandText_zeros {n : Nat} (hn : 0 < n) :
    Line.IsOperandText (String.ofList (List.replicate n '0')) := by
  have hzero : ∀ c ∈ (String.ofList (List.replicate n '0')).toList, c = '0' := by
    intro c hc
    rw [String.toList_ofList] at hc
    exact List.eq_of_mem_replicate hc
  refine ⟨⟨?_, ?_, ?_⟩, ?_⟩
  · rw [String.toList_ofList, Ne, List.replicate_eq_nil_iff]
    omega
  all_goals
    intro c hc
    rw [hzero c hc]
    decide

/-- A source that writes a row of zeros beyond the limit is refused without a line. -/
lemma link_zeros {n : Nat} (config : Config) (h : DigitLimit.limit < n) :
    link config (String.ofList
        (Line.instructionText "out" [String.ofList (List.replicate n '0')])) =
      .error (.digitLimit ⟨n⟩) := by
  have hmnemonic : Line.IsToken "out".toList := by
    have hchars : "out".toList = ['o', 'u', 't'] := rfl
    have hblank : Text.isBlank 'o' = false ∧ Text.isBlank 'u' = false ∧
        Text.isBlank 't' = false := by decide
    constructor <;> simp [hchars, hblank]
  have hlink := link_instructionText_of_isOverlong config hmnemonic (by decide)
    (isOperandText_zeros (by omega)) (Operand.isOverlong_zeros h)
  rwa [String.toList_ofList, Operand.innermost_zeros, Operand.integerDigits_zeros,
    List.length_replicate] at hlink

/-- Zeros in front do not count against the length of a number, but the conversion counts them. -/
theorem zeros_are_refused_without_line :
    link .default (String.ofList
        (Line.instructionText "out" [String.ofList (List.replicate 4301 '0')])) =
      .error (.digitLimit ⟨4301⟩) :=
  link_zeros .default (by decide)

end RegisterMachine.Program
