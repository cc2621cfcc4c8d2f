import RegisterMachine.Proofs.Text.Blank
import RegisterMachine.Text.Lines

set_option autoImplicit false
set_option relaxedAutoImplicit false

/-!
# Lines of a text

A line break is a blank, so words run within a line. Lines that are joined with line feeds are the
lines of the text that comes out.

## Main results

* `RegisterMachine.Text.isBlank_of_isLineBreak` — line breaks are blanks.
* `RegisterMachine.Text.isLineBreak_of_mem_lines` — lines hold no line break.
* `RegisterMachine.Text.lines_intercalate_eq`, `RegisterMachine.Text.lines_intercalate` — cutting a
  text into lines undoes joining them.
* `RegisterMachine.Text.lines_append` — the lines of two texts, one behind the other.
* `RegisterMachine.Text.lines_unifyBreaks` — unifying line breaks keeps the lines.
-/

namespace RegisterMachine.Text

/-- A line break is a blank. -/
lemma isBlank_of_isLineBreak {c : Char} (h : isLineBreak c) : isBlank c := by
  simp only [isLineBreak, isBlank, Bool.or_eq_true, Bool.and_eq_true, decide_eq_true_eq,
    beq_iff_eq] at h ⊢
  omega

/-- A character that is no blank breaks no line. -/
lemma isLineBreak_of_isBlank_eq_false {c : Char} (h : isBlank c = false) : isLineBreak c = false :=
  Bool.eq_false_iff.2 fun hbreak => by simp [isBlank_of_isLineBreak hbreak] at h

/-- A text without carriage returns has no pairs to join. -/
lemma joinPairs_of_not_mem {cs : List Char} (h : '\r' ∉ cs) : joinPairs cs = cs := by
  induction cs with
  | nil => rfl
  | cons c cs ih =>
    obtain ⟨hc, hcs⟩ := not_or.1 (mt List.mem_cons.2 h)
    simp only [joinPairs, List.foldr_cons] at ih ⊢
    rw [ih hcs, if_neg (Ne.symm hc)]

/-- No line of a text holds a line break. -/
lemma isLineBreak_of_mem_lines {cs line : List Char} (h : line ∈ lines cs) {c : Char}
    (hc : c ∈ line) : isLineBreak c = false := by
  have hpiece : line ∈ pieces isLineBreak (joinPairs cs) := by
    unfold lines at h
    dsimp only at h
    split at h
    · exact List.dropLast_subset _ h
    · exact h
  have hfield : line ∈ fields isLineBreak (joinPairs cs) :=
    List.mem_filter.2 ⟨hpiece, by simp [List.ne_nil_of_mem hc]⟩
  exact (mem_of_mem_fields hfield hc).2

/-- **Cutting a text into lines undoes joining them**, except that an empty last line is lost: a
line feed at the end of a text starts no line. -/
lemma lines_intercalate_eq {parts : List (List Char)}
    (h : ∀ part ∈ parts, ∀ c ∈ part, isLineBreak c = false) :
    lines (['\n'].intercalate parts) =
      if parts.getLast? = some [] then parts.dropLast else parts := by
  obtain rfl | hne := eq_or_ne parts []
  · rfl
  have hreturn : '\r' ∉ ['\n'].intercalate parts := by
    intro hmem
    obtain heq | ⟨part, hpart, hc⟩ := mem_of_mem_intercalate hmem
    · exact absurd heq (by decide)
    · exact absurd (h part hpart _ hc) (by decide)
  have hpieces : pieces isLineBreak (joinPairs (['\n'].intercalate parts)) = parts := by
    rw [joinPairs_of_not_mem hreturn]
    exact pieces_intercalate (by decide) hne h
  rw [lines, hpieces]

/-- Lines that are not empty come back when they are joined and cut again. -/
lemma lines_intercalate {parts : List (List Char)}
    (h : ∀ part ∈ parts, part ≠ [] ∧ ∀ c ∈ part, isLineBreak c = false) :
    lines (['\n'].intercalate parts) = parts := by
  have hlast : parts.getLast? ≠ some [] := fun hlast =>
    (h [] (List.mem_of_getLast? hlast)).1 rfl
  rw [lines_intercalate_eq fun part hpart => (h part hpart).2, if_neg hlast]

/-! ## Texts behind each other -/

lemma joinPairs_cons (c : Char) (cs : List Char) :
    joinPairs (c :: cs) =
      if c = '\r' then c :: dropLineFeed (joinPairs cs) else c :: joinPairs cs := rfl

lemma dropLineFeed_cons (c : Char) (cs : List Char) :
    dropLineFeed (c :: cs) = if c = '\n' then cs else c :: cs := by
  unfold dropLineFeed
  split
  · next heq =>
    obtain ⟨rfl, rfl⟩ := List.cons.inj heq
    rfl
  · next hother => exact (if_neg fun hc => hother cs (by rw [hc])).symm

/-- A line feed is dropped from the first of two texts, unless that is empty. -/
lemma dropLineFeed_append {front : List Char} (h : front ≠ []) (back : List Char) :
    dropLineFeed (front ++ back) = dropLineFeed front ++ back := by
  obtain ⟨c, rest, rfl⟩ := List.exists_cons_of_ne_nil h
  rw [List.cons_append, dropLineFeed_cons, dropLineFeed_cons]
  split <;> rfl

/-- A text that ends with a line feed still ends with a line break when its pairs are joined. -/
lemma exists_joinPairs_concat (cs : List Char) :
    ∃ front c, joinPairs (cs ++ ['\n']) = front ++ [c] ∧ isLineBreak c := by
  induction cs with
  | nil => exact ⟨[], '\n', rfl, by decide⟩
  | cons d cs ih =>
    obtain ⟨front, c, hjoin, hc⟩ := ih
    rw [List.cons_append, joinPairs_cons, hjoin]
    split
    · next hreturn =>
      subst hreturn
      cases front with
      | nil =>
        -- the last line feed may belong to a pair with this carriage return
        rw [List.nil_append, dropLineFeed_cons]
        split
        · exact ⟨[], '\r', rfl, by decide⟩
        · exact ⟨['\r'], c, rfl, hc⟩
      | cons first front =>
        rw [dropLineFeed_append (List.cons_ne_nil first front)]
        exact ⟨'\r' :: dropLineFeed (first :: front), c, rfl, hc⟩
    · exact ⟨d :: front, c, rfl, hc⟩

/-- Pairs are joined on both sides of a line feed, which starts none. -/
lemma joinPairs_append (front back : List Char) :
    joinPairs (front ++ '\n' :: back) = joinPairs (front ++ ['\n']) ++ joinPairs back := by
  induction front with
  | nil => rfl
  | cons c front ih =>
    have hne : joinPairs (front ++ ['\n']) ≠ [] := by
      obtain ⟨_, _, hjoin, -⟩ := exists_joinPairs_concat front
      simp [hjoin]
    rw [List.cons_append, List.cons_append, joinPairs_cons, joinPairs_cons, ih,
      dropLineFeed_append hne]
    split <;> rfl

/-- **A line feed parts the lines in front of it from those behind it.** -/
lemma lines_append {front : List Char} (h : front = [] ∨ front.getLast? = some '\n')
    (back : List Char) : lines (front ++ back) = lines front ++ lines back := by
  obtain rfl | hlast := h
  · rfl
  obtain ⟨cs, rfl⟩ := List.getLast?_eq_some_iff.1 hlast
  obtain ⟨joined, c, hjoin, hc⟩ := exists_joinPairs_concat cs
  have hfront : pieces isLineBreak (joinPairs (cs ++ ['\n'])) =
      pieces isLineBreak joined ++ [[]] := by
    rw [hjoin, pieces_append_cons joined [] hc, pieces_nil]
  have hboth : pieces isLineBreak (joinPairs (cs ++ ['\n'] ++ back)) =
      pieces isLineBreak joined ++ pieces isLineBreak (joinPairs back) := by
    rw [List.append_assoc, List.singleton_append, joinPairs_append, hjoin, List.append_assoc,
      List.singleton_append, pieces_append_cons joined _ hc]
  -- so the last piece of the text behind is the last one of both
  have hne : pieces isLineBreak (joinPairs back) ≠ [] := by
    rw [pieces_eq_splitOnP]
    exact List.splitOnP_ne_nil _ _
  simp only [lines, hfront, hboth, List.dropLast_concat, List.getLast?_append,
    Option.or_of_isSome (List.getLast?_isSome.2 hne), List.dropLast_append_of_ne_nil hne]
  split <;> rfl

/-! ## Unified line breaks -/

/-- No carriage return is left when line breaks are unified. -/
lemma not_mem_unifyBreaks (cs : List Char) : '\r' ∉ unifyBreaks cs := by
  intro hmem
  obtain ⟨c, -, hc⟩ := List.mem_map.1 hmem
  split at hc
  · cases hc
  · exact absurd hc ‹_›

/-- Exchanging separators for separators keeps the pieces. -/
lemma pieces_map {p : Char → Bool} {f : Char → Char} (hf : ∀ c, p (f c) = p c)
    (hkept : ∀ c, p c = false → f c = c) (cs : List Char) : pieces p (cs.map f) = pieces p cs := by
  induction cs with
  | nil => rfl
  | cons c cs ih =>
    rw [List.map_cons, pieces_cons, pieces_cons, hf, ih]
    cases hc : p c with
    | true => rfl
    | false => rw [hkept c hc]

/-- **Unifying line breaks keeps the lines**: a carriage return ends a line just as a line feed
does, and the two in a row end one line. -/
lemma lines_unifyBreaks (cs : List Char) : lines (unifyBreaks cs) = lines cs := by
  have hpieces : pieces isLineBreak (joinPairs (unifyBreaks cs)) =
      pieces isLineBreak (joinPairs cs) := by
    rw [joinPairs_of_not_mem (not_mem_unifyBreaks cs)]
    refine pieces_map (fun c => ?_) (fun c hc => ?_) _
    · split
      · next hreturn => rw [hreturn]; rfl
      · rfl
    · refine if_neg ?_
      rintro rfl
      cases hc
  simp only [lines, hpieces]

end RegisterMachine.Text
