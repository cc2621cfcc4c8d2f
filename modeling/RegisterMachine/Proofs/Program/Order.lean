import RegisterMachine.Proofs.Program

set_option autoImplicit false
set_option relaxedAutoImplicit false

/-!
# Order of programs

Linking keeps the order of the source: instructions stand in the order of their lines, and a label
stands between the instructions of the lines above its own and those of the lines below.

## Main definitions

* `RegisterMachine.Program.Separates` — a label between the lines above and below its own.
* `RegisterMachine.Program.IsOrdered` — the invariant of linking, for the lines seen so far.

## Main results

* `RegisterMachine.Program.pairwise_numberedLines` — lines are numbered in ascending order.
* `RegisterMachine.Program.isOrdered_of_link` — a program that comes out of linking is ordered.
-/

namespace RegisterMachine.Program

variable {count number : Nat} {program next : Program} {seen lines : List (Nat × Line)}
  {line : Line}

/-- Lines are numbered in ascending order. -/
lemma pairwise_numberedLines (source : String) : (numberedLines source).Pairwise (·.1 < ·.1) := by
  have hnumbers : ((Text.lines source.toList).zipIdx.map Prod.snd).Pairwise (· < ·) := by
    rw [List.zipIdx_map_snd]
    exact List.pairwise_lt_range'
  refine List.Pairwise.filterMap _ (fun a b hlt x hx y hy => ?_) (List.pairwise_map.1 hnumbers)
  obtain ⟨_, -, rfl⟩ := Option.map_eq_some_iff.1 hx
  obtain ⟨_, -, rfl⟩ := Option.map_eq_some_iff.1 hy
  exact Nat.succ_lt_succ hlt

/-! ## Programs in the order of their lines -/

/-- A label stands between the instructions of the lines above its own and those of the lines
below. -/
structure Separates (program : Program) (label : Label) : Prop where
  /-- Instructions in front of it come from lines above. -/
  above : ∀ i instruction, program.instructions[i]? = some instruction → i + 1 < label.index →
    instruction.line < label.line
  /-- Instructions from it on come from lines below. -/
  below : ∀ i instruction, program.instructions[i]? = some instruction → label.index ≤ i + 1 →
    label.line < instruction.line

/-- An instruction of a program with one more is one of the old ones or the new one behind them. -/
lemma getElem?_push {instruction other : Instruction} {i : Nat}
    (h : (program.instructions.push instruction)[i]? = some other) :
    (i < program.size ∧ program.instructions[i]? = some other) ∨
      (i = program.size ∧ other = instruction) := by
  rw [Array.getElem?_push] at h
  split at h
  · next hi => exact .inr ⟨hi, (Option.some.inj h).symm⟩
  · exact .inl ⟨(Array.getElem?_eq_some_iff.1 h).1, h⟩

/-- A new instruction of a line below leaves a label where it stands. -/
lemma Separates.push {label : Label} {instruction : Instruction} (h : program.Separates label)
    (hle : label.index ≤ program.size + 1) (hlt : label.line < instruction.line) :
    { program with instructions := program.instructions.push instruction }.Separates label where
  above := fun i other hget hfront => by
    rcases getElem?_push hget with ⟨-, hold⟩ | ⟨rfl, -⟩
    · exact h.above i other hold hfront
    · omega
  below := fun i other hget hbehind => by
    rcases getElem?_push hget with ⟨-, hold⟩ | ⟨-, rfl⟩
    · exact h.below i other hold hbehind
    · exact hlt

/-- What holds of a program when so many lines have been linked. -/
structure IsOrdered (seen : List (Nat × Line)) (program : Program) : Prop where
  /-- Instructions come from lines that were seen. -/
  instructions : ∀ instruction ∈ program.instructions, ∃ line, (instruction.line, line) ∈ seen
  /-- Instructions stand in the order of their lines. -/
  ascending : ∀ (i k : Nat) (a b : Instruction), i < k → program.instructions[i]? = some a →
    program.instructions[k]? = some b → a.line < b.line
  /-- Labels come from lines that were seen, and are bound at most to the next instruction. -/
  labels : ∀ label ∈ program.labels,
    (∃ line, (label.line, line) ∈ seen) ∧ label.index ≤ program.size + 1
  /-- Labels stand at their lines. -/
  separates : ∀ label ∈ program.labels, program.Separates label
  /-- The labels of all lines that were seen are found. -/
  defined : ∀ number line name, (number, line) ∈ seen → line.statement = .label name →
    ∃ label, program.findLabel? name = some label ∧ label.line = number

namespace IsOrdered

/-- The empty program is ordered. -/
lemma empty : IsOrdered [] {} where
  instructions := fun _ h => by simp at h
  ascending := fun _ _ _ _ _ h => by simp at h
  labels := fun _ h => by simp at h
  separates := fun _ h => by simp at h
  defined := fun _ _ _ h => by simp at h

/-- Instructions come from lines above one that was not seen yet. -/
lemma instruction_line_lt (h : program.IsOrdered seen) (hseen : ∀ entry ∈ seen, entry.1 < number)
    {i : Nat} {instruction : Instruction} (hget : program.instructions[i]? = some instruction) :
    instruction.line < number := by
  obtain ⟨line, hmem⟩ := h.instructions instruction (Array.mem_of_getElem? hget)
  exact hseen _ hmem

/-- A new label stands behind all instructions. -/
lemma addLabel (h : program.IsOrdered seen) (hseen : ∀ entry ∈ seen, entry.1 < number)
    {name : String} (hstatement : line.statement = .label name)
    (hnext : program.addLabel number line.text name = .ok next) :
    next.IsOrdered (seen ++ [(number, line)]) := by
  unfold Program.addLabel at hnext
  split at hnext
  · cases hnext
  split at hnext
  · cases hnext
  · next hnew =>
    cases hnext
    refine ⟨fun instruction hmem => ?_, h.ascending, fun label hmem => ?_, fun label hmem => ?_,
      fun number' line' name' hmem hstatement' => ?_⟩
    · obtain ⟨other, hother⟩ := h.instructions instruction hmem
      exact ⟨other, List.mem_append_left _ hother⟩
    · rcases Array.mem_push.1 hmem with hold | rfl
      · obtain ⟨⟨other, hother⟩, hle⟩ := h.labels label hold
        exact ⟨⟨other, List.mem_append_left _ hother⟩, hle⟩
      · exact ⟨⟨line, by simp⟩, Nat.le_refl _⟩
    · rcases Array.mem_push.1 hmem with hold | rfl
      · obtain ⟨habove, hbelow⟩ := h.separates label hold
        exact ⟨habove, hbelow⟩
      · -- no instruction stands behind the new label
        refine ⟨fun i instruction hget _ => h.instruction_line_lt hseen hget,
          fun i instruction hget hle => ?_⟩
        have hlt : i < program.instructions.size := (Array.getElem?_eq_some_iff.1 hget).1
        change program.instructions.size + 1 ≤ i + 1 at hle
        omega
    · rw [findLabel?, Array.find?_push]
      rcases List.mem_append.1 hmem with hold | hnewest
      · obtain ⟨label, hfind, hline⟩ := h.defined number' line' name' hold hstatement'
        rw [findLabel?] at hfind
        exact ⟨label, by simp [hfind], hline⟩
      · obtain ⟨rfl, rfl⟩ : number' = number ∧ line' = line := by simpa using hnewest
        obtain rfl : name = name' := by simpa [hstatement] using hstatement'
        rw [findLabel?] at hnew
        exact ⟨⟨name, program.size + 1, number'⟩, by simp [hnew], rfl⟩

/-- A new instruction stands behind all others, and behind all labels. -/
lemma addInstruction (h : program.IsOrdered seen) (hseen : ∀ entry ∈ seen, entry.1 < number)
    {instruction : Instruction} (hline : instruction.line = number)
    (hstatement : ∀ name, line.statement ≠ .label name)
    (hnext : program.addInstruction instruction = .ok next) :
    next.IsOrdered (seen ++ [(number, line)]) := by
  unfold Program.addInstruction at hnext
  split at hnext
  · cases hnext
  · cases hnext
    refine ⟨fun other hmem => ?_, fun i k a b hlt ha hb => ?_, fun label hmem => ?_,
      fun label hmem => ?_, fun number' line' name hmem hstatement' => ?_⟩
    · rcases Array.mem_push.1 hmem with hold | rfl
      · obtain ⟨line', hmem'⟩ := h.instructions other hold
        exact ⟨line', List.mem_append_left _ hmem'⟩
      · exact ⟨line, by simp [hline]⟩
    · -- what stands in front of another instruction is an old one
      obtain hold | ⟨rfl, -⟩ := getElem?_push ha
      · obtain ⟨-, hold'⟩ | ⟨-, rfl⟩ := getElem?_push hb
        · exact h.ascending i k a b hlt hold.2 hold'
        · rw [hline]
          exact h.instruction_line_lt hseen hold.2
      · obtain ⟨hk, -⟩ | ⟨rfl, -⟩ := getElem?_push hb <;> omega
    · obtain ⟨⟨other, hother⟩, hle⟩ := h.labels label hmem
      refine ⟨⟨other, List.mem_append_left _ hother⟩, ?_⟩
      have hsize : (program.instructions.push instruction).size = program.size + 1 :=
        Array.size_push _
      rw [size, hsize]
      omega
    · obtain ⟨⟨other, hother⟩, hle⟩ := h.labels label hmem
      exact (h.separates label hmem).push hle (hline ▸ hseen _ hother)
    · rcases List.mem_append.1 hmem with hold | hnewest
      · exact h.defined number' line' name hold hstatement'
      · obtain ⟨rfl, rfl⟩ : number' = number ∧ line' = line := by simpa using hnewest
        exact absurd hstatement' (hstatement name)

/-- A new line below all that were seen keeps a program ordered. -/
lemma addLine (h : program.IsOrdered seen) (hseen : ∀ entry ∈ seen, entry.1 < number)
    (hnext : program.addLine count number line = .ok next) :
    next.IsOrdered (seen ++ [(number, line)]) := by
  unfold Program.addLine at hnext
  split at hnext
  · next hstatement => exact h.addLabel hseen hstatement hnext
  · next hstatement =>
    obtain ⟨operands, -, hadd⟩ := Except.bind_eq_ok.1 hnext
    exact h.addInstruction hseen rfl (by simp [hstatement]) hadd

/-- New lines in ascending order, below all that were seen, keep a program ordered.

**Proof sketch.** Induction on the new lines: the first of them is below all that were seen and
above the other new ones, so it may count as seen. -/
lemma addLines (h : program.IsOrdered seen) (hascending : (seen ++ lines).Pairwise (·.1 < ·.1))
    (hnext : lines.foldlM (fun program (number, line) => program.addLine count number line)
      program = .ok next) : next.IsOrdered (seen ++ lines) := by
  induction lines generalizing seen program with
  | nil =>
    obtain rfl : next = program := by simpa using hnext
    simpa using h
  | cons entry lines ih =>
    obtain ⟨number, line⟩ := entry
    simp only [List.foldlM_cons, Except.bind_eq_ok] at hnext
    obtain ⟨mid, hline, hrest⟩ := hnext
    have hseen : ∀ entry ∈ seen, entry.1 < number := fun entry hentry =>
      (List.pairwise_append.1 hascending).2.2 entry hentry (number, line) List.mem_cons_self
    have hmid := h.addLine hseen hline
    rw [List.append_cons] at hascending ⊢
    exact ih hmid hascending hrest

end IsOrdered

/-- **A program that comes out of linking is ordered.** -/
lemma isOrdered_of_link {config : Config} {source : String} (h : link config source = .ok program) :
    program.IsOrdered (numberedLines source) :=
  IsOrdered.empty.addLines (pairwise_numberedLines source) h

/-- All instructions come from lines above a label behind the last of them. -/
lemma Separates.line_lt {label : Label} (h : program.Separates label)
    (hend : program.size < label.index) {instruction : Instruction}
    (hmem : instruction ∈ program.instructions) : instruction.line < label.line := by
  obtain ⟨i, hi, rfl⟩ := Array.getElem_of_mem hmem
  refine h.above i _ (by simp) ?_
  change program.instructions.size < label.index at hend
  omega

/-- **The instruction that a label is bound to comes from the next line below it** that has one. -/
lemma IsOrdered.line_le {label : Label} {target other : Instruction} (h : program.IsOrdered seen)
    (hseparates : program.Separates label) (hpos : 1 ≤ label.index)
    (htarget : program.instructions[label.index - 1]? = some target)
    (hother : other ∈ program.instructions) (hbelow : label.line < other.line) :
    target.line ≤ other.line := by
  obtain ⟨i, hi, rfl⟩ := Array.getElem_of_mem hother
  have hget : program.instructions[i]? = some program.instructions[i] := by simp
  -- an instruction in front of the label comes from a line above
  have hle : label.index ≤ i + 1 := by
    by_contra hfront
    have habove := hseparates.above i _ hget (by omega)
    omega
  obtain heq | hlt : label.index - 1 = i ∨ label.index - 1 < i := by omega
  · rw [heq, hget] at htarget
    exact Nat.le_of_eq (congrArg Instruction.line (Option.some.inj htarget).symm)
  · exact Nat.le_of_lt (h.ascending _ i _ _ hlt htarget hget)

/-- **A label is found by its name, and stands at its line.** -/
lemma exists_label_of_link {config : Config} {source name : String}
    (h : link config source = .ok program) (hline : (number, line) ∈ numberedLines source)
    (hstatement : line.statement = .label name) :
    ∃ label, program.labelIndex? name = some label.index ∧ label.line = number ∧
      program.Separates label := by
  have hordered := isOrdered_of_link h
  obtain ⟨label, hfind, hnumber⟩ := hordered.defined number line name hline hstatement
  exact ⟨label, by rw [labelIndex?, hfind]; rfl, hnumber,
    hordered.separates label (Array.mem_of_find?_eq_some hfind)⟩

end RegisterMachine.Program
