import RegisterMachine.Proofs.Program.Linking

set_option autoImplicit false
set_option relaxedAutoImplicit false

/-!
# Tidied sources

A source can be tidied: every line loses its comment and the blanks around it, and all lines end
with line feeds. Linking a tidied source does what linking the source does, since a line is read
without its comment and outer blanks anyhow, and no line break is left in it.

## Main definitions

* `RegisterMachine.Program.tidied` — a source without comments and outer blanks.

## Main results

* `RegisterMachine.Program.linkLines_map_stripped` — stripped lines denote the same program.
* `RegisterMachine.Program.comments_and_indentation_mean_nothing` — so do tidied sources.
-/

namespace RegisterMachine.Program

variable {count number : Nat} {program : Program}

/-- The source with every line stripped, and with a line feed between lines. -/
def tidied (source : String) : String :=
  String.ofList (['\n'].intercalate ((Text.lines source.toList).map Line.stripped))

/-- A stripped line does what the line does. -/
lemma addText_stripped (cs : List Char) :
    program.addText count number (Line.stripped cs) = program.addText count number cs := by
  simp only [addText, Line.ofChars?_stripped]

/-- **Stripped lines denote the same program**, or are refused for the same reason.

**Proof sketch.** Induction on the lines from the last one: stripping keeps the number of the lines
above it. -/
lemma linkLines_map_stripped (lines : List (List Char)) :
    linkLines count (lines.map Line.stripped) = linkLines count lines := by
  induction lines using List.reverseRecOn with
  | nil => rfl
  | append_singleton lines cs ih =>
    rw [List.map_append, List.map_singleton, linkLines_concat, linkLines_concat, ih,
      List.length_map]
    simp only [addText_stripped]

/-- An empty line behind the others adds nothing. -/
lemma linkLines_concat_nil (lines : List (List Char)) :
    linkLines count (lines ++ [[]]) = linkLines count lines := by
  rw [linkLines_concat]
  cases linkLines count lines <;> rfl

/-- An empty last line may be left out. -/
lemma linkLines_dropLast {lines : List (List Char)} (h : lines.getLast? = some []) :
    linkLines count lines.dropLast = linkLines count lines := by
  obtain ⟨front, rfl⟩ := List.getLast?_eq_some_iff.1 h
  rw [List.dropLast_concat, linkLines_concat_nil]

/-- **Comments, indentation and line breaks mean nothing.** Take every line of a source without its
comment and without the blanks around it, and join these lines with line feeds. The text denotes the
same program as the source, with the same numbers and texts of lines, or is refused with the same
error.

**Proof sketch.** A stripped line holds no line break, so that cutting the text into lines gives the
stripped lines back, but for an empty last one (`Text.lines_intercalate_eq`). Stripping a stripped
line changes nothing (`Line.stripped_stripped`), so that each of them does what its line does. -/
theorem comments_and_indentation_mean_nothing (config : Config) (source : String) :
    link config (tidied source) = link config source := by
  have hbreaks : ∀ part ∈ (Text.lines source.toList).map Line.stripped, ∀ c ∈ part,
      Text.isLineBreak c = false := by
    intro part hpart c hc
    obtain ⟨line, hline, rfl⟩ := List.mem_map.1 hpart
    exact Text.isLineBreak_of_mem_lines hline (Line.mem_of_mem_stripped hc).1
  rw [link_eq_linkLines, link_eq_linkLines, tidied, String.toList_ofList,
    Text.lines_intercalate_eq hbreaks, ← linkLines_map_stripped (Text.lines source.toList)]
  split
  · next hlast => exact linkLines_dropLast hlast
  · rfl

example : tidied "a: ; one\r\n\tnop\n\n" = "a:\nnop\n" := by decide +kernel

end RegisterMachine.Program
