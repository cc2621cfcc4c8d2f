import RegisterMachine.Text.Blank
import Mathlib.Data.List.TakeWhile
import Mathlib.Tactic.Common

set_option autoImplicit false
set_option relaxedAutoImplicit false

/-!
# Splitting and trimming

The fields of a text hold its characters up to the separators, and joining fields with a separator
and splitting again gives them back. Trimming a text keeps its words.

## Main results

* `RegisterMachine.Text.flatten_fields` — fields hold all characters but the separators.
* `RegisterMachine.Text.fields_eq_cons` — the first field ends at the first separator.
* `RegisterMachine.Text.fields_intercalate` — splitting undoes joining.
* `RegisterMachine.Text.words_trim`, `RegisterMachine.Text.trim_eq_nil_iff` — words of a trimmed
  text.
* `RegisterMachine.Text.trim_trim` — trimming a trimmed text changes nothing.
-/

namespace RegisterMachine.Text

variable {p : Char → Bool} {cs field : List Char}

/-! ## Fields -/

/-- Pieces are what the library splits a list into. -/
lemma pieces_eq_splitOnP (p : Char → Bool) (cs : List Char) : pieces p cs = cs.splitOnP p := by
  induction cs with
  | nil => rfl
  | cons c cs ih =>
    rw [pieces_cons, ih, List.splitOnP_cons_eq_if_modifyHead]
    split
    · rfl
    · obtain ⟨piece, rest, hsplit⟩ := List.exists_cons_of_ne_nil (List.splitOnP_ne_nil p cs)
      rw [hsplit]
      rfl

/-- Pieces hold the characters that are no separators, in their order. -/
lemma flatten_pieces (p : Char → Bool) (cs : List Char) :
    (pieces p cs).flatten = cs.filter (!p ·) := by
  induction cs with
  | nil => rfl
  | cons c cs ih =>
    rw [pieces_cons]
    cases hc : p c with
    | true => simpa [hc] using ih
    | false =>
      cases hrest : pieces p cs with
      | nil =>
        rw [hrest] at ih
        simp [consFirst, hc, ← ih]
      | cons piece rest =>
        rw [hrest] at ih
        simp [consFirst, hc, ← ih]

/-- **Fields hold all characters but the separators**, in their order. -/
lemma flatten_fields (p : Char → Bool) (cs : List Char) :
    (fields p cs).flatten = cs.filter (!p ·) := by
  rw [fields, List.flatten_filter_not_isEmpty, flatten_pieces]

/-- A field is not empty. -/
lemma ne_nil_of_mem_fields (h : field ∈ fields p cs) : field ≠ [] := by
  simpa using (List.mem_filter.1 h).2

/-- A field holds characters of the text, and no separator. -/
lemma mem_of_mem_fields (h : field ∈ fields p cs) {c : Char} (hc : c ∈ field) :
    c ∈ cs ∧ p c = false := by
  have hmem : c ∈ (fields p cs).flatten := List.mem_flatten.2 ⟨field, h, hc⟩
  rw [flatten_fields] at hmem
  simpa using hmem

/-- A text has no fields if it holds nothing but separators. -/
lemma fields_eq_nil_iff : fields p cs = [] ↔ ∀ c ∈ cs, p c := by
  constructor
  · intro h
    have hflatten := flatten_fields p cs
    rw [h] at hflatten
    simpa using hflatten.symm
  · intro h
    refine List.eq_nil_iff_forall_not_mem.2 fun field hfield => ?_
    obtain ⟨c, hc⟩ := List.exists_mem_of_ne_nil field (ne_nil_of_mem_fields hfield)
    obtain ⟨hmem, hfalse⟩ := mem_of_mem_fields hfield hc
    simp [h c hmem] at hfalse

/-- A text without separators is one field. -/
lemma fields_eq_singleton (hne : cs ≠ []) (h : ∀ c ∈ cs, p c = false) : fields p cs = [cs] := by
  rw [fields, pieces_eq_splitOnP, List.splitOnP_eq_singleton h]
  simp [hne]

/-- A separator parts the pieces in front of it from those behind it. -/
lemma pieces_append_cons (xs ys : List Char) {c : Char} (hc : p c) :
    pieces p (xs ++ c :: ys) = pieces p xs ++ pieces p ys := by
  simp only [pieces_eq_splitOnP, List.splitOnP_append_cons xs ys hc]

/-- A separator parts the fields in front of it from those behind it. -/
lemma fields_append_cons (xs ys : List Char) {c : Char} (hc : p c) :
    fields p (xs ++ c :: ys) = fields p xs ++ fields p ys := by
  rw [fields, pieces_append_cons xs ys hc, List.filter_append]
  rfl

/-- **The first field ends at the first separator**, if the text does not start with one. -/
lemma fields_eq_cons (hne : cs ≠ []) (h : ∀ c, cs.head? = some c → p c = false) :
    fields p cs = cs.takeWhile (!p ·) :: fields p (cs.dropWhile (!p ·)) := by
  obtain ⟨first, rest, rfl⟩ := List.exists_cons_of_ne_nil hne
  have hfront : ∀ c ∈ (first :: rest).takeWhile (!p ·), p c = false := fun c hc => by
    simpa using List.mem_takeWhile_imp hc
  have hfield : (first :: rest).takeWhile (!p ·) ≠ [] := by simp [h first rfl]
  have hsplit := List.takeWhile_append_dropWhile (p := (!p ·)) (l := first :: rest)
  have hback := List.head?_dropWhile_not (!p ·) (first :: rest)
  generalize (first :: rest).takeWhile (!p ·) = front at hfront hfield hsplit
  generalize (first :: rest).dropWhile (!p ·) = back at hsplit hback
  rw [← hsplit]
  cases back with
  | nil => rw [List.append_nil, fields_eq_singleton hfield hfront, fields_eq_nil_iff.2 (by simp)]
  | cons c back =>
    have hc : p c := by simpa using hback
    -- the separator parts the first field from the rest, and makes no field of its own
    rw [fields_append_cons front back hc, fields_eq_singleton hfield hfront, List.singleton_append]
    exact congrArg _ (fields_append_cons [] back hc).symm

/-- Characters of a joined text are the separator or belong to a part. -/
lemma mem_of_mem_intercalate {c d : Char} {parts : List (List Char)}
    (h : d ∈ [c].intercalate parts) : d = c ∨ ∃ part ∈ parts, d ∈ part := by
  induction parts with
  | nil => simp at h
  | cons part parts ih =>
    cases parts with
    | nil => exact .inr ⟨part, List.mem_cons_self, by simpa using h⟩
    | cons next parts =>
      rw [List.intercalate_cons_cons, List.append_assoc, List.mem_append, List.singleton_append,
        List.mem_cons] at h
      obtain hpart | rfl | hrest := h
      · exact .inr ⟨part, List.mem_cons_self, hpart⟩
      · exact .inl rfl
      · exact (ih hrest).imp_right fun ⟨other, hother, hd⟩ =>
          ⟨other, List.mem_cons_of_mem part hother, hd⟩

/-- Pieces that are joined with a separator come back, empty ones too. -/
lemma pieces_intercalate {c : Char} (hc : p c) {parts : List (List Char)} (hne : parts ≠ [])
    (h : ∀ part ∈ parts, ∀ d ∈ part, p d = false) : pieces p ([c].intercalate parts) = parts := by
  rw [pieces_eq_splitOnP]
  induction parts with
  | nil => exact absurd rfl hne
  | cons part parts ih =>
    obtain ⟨hpart, hparts⟩ := List.forall_mem_cons.1 h
    cases parts with
    | nil => rw [List.intercalate_singleton, List.splitOnP_eq_singleton hpart]
    | cons next parts =>
      rw [List.intercalate_cons_cons, List.append_assoc, List.singleton_append,
        List.splitOnP_append_cons_of_forall_mem hpart c hc,
        ih (List.cons_ne_nil next parts) hparts]

/-- **Splitting undoes joining.** Fields that are joined with a separator come back. -/
lemma fields_intercalate {c : Char} (hc : p c) {parts : List (List Char)}
    (h : ∀ part ∈ parts, part ≠ [] ∧ ∀ d ∈ part, p d = false) :
    fields p ([c].intercalate parts) = parts := by
  obtain rfl | hne := eq_or_ne parts []
  · rfl
  · rw [fields, pieces_intercalate hc hne fun part hpart => (h part hpart).2]
    exact List.filter_eq_self.2 fun part hpart => by simpa using (h part hpart).1

/-! ## Trimming -/

/-- Separators behind a text make no fields. -/
lemma fields_append_of_forall (xs : List Char) {ys : List Char} (h : ∀ c ∈ ys, p c) :
    fields p (xs ++ ys) = fields p xs := by
  cases ys with
  | nil => rw [List.append_nil]
  | cons c ys =>
    obtain ⟨hc, hys⟩ := List.forall_mem_cons.1 h
    rw [fields_append_cons xs ys hc, fields_eq_nil_iff.2 hys, List.append_nil]

/-- Separators in front of a text make no fields. -/
lemma fields_dropWhile (p : Char → Bool) (cs : List Char) :
    fields p (cs.dropWhile p) = fields p cs := by
  induction cs with
  | nil => rfl
  | cons c cs ih =>
    cases hc : p c with
    | true =>
      rw [List.dropWhile_cons_of_pos hc, ih]
      exact (fields_append_cons [] cs hc).symm
    | false => rw [List.dropWhile_cons_of_neg (by simp [hc])]

/-- What is dropped at the end of a text belongs to the class. -/
lemma exists_append_dropEndWhile (p : Char → Bool) (cs : List Char) :
    ∃ dropped, cs = dropEndWhile p cs ++ dropped ∧ ∀ c ∈ dropped, p c := by
  induction cs with
  | nil => exact ⟨[], rfl, by simp⟩
  | cons c cs ih =>
    obtain ⟨dropped, hcs, hdropped⟩ := ih
    rw [dropEndWhile_cons]
    split
    · next h =>
      obtain ⟨hempty, hc⟩ : dropEndWhile p cs = [] ∧ p c := by simpa using h
      rw [hempty, List.nil_append] at hcs
      exact ⟨c :: cs, rfl, List.forall_mem_cons.2 ⟨hc, by rwa [hcs]⟩⟩
    · exact ⟨dropped, by rw [List.cons_append, ← hcs], hdropped⟩

/-- Blanks at the ends of a text make no words. -/
lemma words_trim (cs : List Char) : words (trim cs) = words cs := by
  obtain ⟨dropped, hcs, hdropped⟩ :=
    exists_append_dropEndWhile isBlank (cs.dropWhile isBlank)
  calc fields isBlank (dropEndWhile isBlank (cs.dropWhile isBlank))
      = fields isBlank (cs.dropWhile isBlank) := by
        conv_rhs => rw [hcs, fields_append_of_forall _ hdropped]
    _ = fields isBlank cs := fields_dropWhile isBlank cs

/-- Nothing is left of a text if all of it belongs to the class that is dropped at its end. -/
lemma dropEndWhile_eq_nil_iff : dropEndWhile p cs = [] ↔ ∀ c ∈ cs, p c := by
  induction cs with
  | nil => simp [dropEndWhile_nil]
  | cons c cs ih =>
    rw [dropEndWhile_cons]
    split
    · next h =>
      obtain ⟨hempty, hc⟩ : dropEndWhile p cs = [] ∧ p c := by simpa using h
      simpa [hc] using ih.1 hempty
    · next h =>
      simp only [Bool.and_eq_true, List.isEmpty_iff, ih, not_and] at h
      simp only [reduceCtorEq, List.forall_mem_cons, false_iff, not_and]
      exact fun hc hcs => h hcs hc

/-- **A text is trimmed to nothing if it has no words.** -/
lemma trim_eq_nil_iff : trim cs = [] ↔ words cs = [] := by
  rw [trim, dropEndWhile_eq_nil_iff, ← fields_eq_nil_iff, fields_dropWhile]
  rfl

/-- Nothing more is dropped at the end of what is left. -/
lemma dropEndWhile_dropEndWhile (p : Char → Bool) (cs : List Char) :
    dropEndWhile p (dropEndWhile p cs) = dropEndWhile p cs := by
  induction cs with
  | nil => rfl
  | cons c cs ih =>
    rw [dropEndWhile_cons]
    split
    · rfl
    · next h => rw [dropEndWhile_cons, ih, if_neg h]

/-- Nothing is dropped at the end of a text that has no character of the class. -/
lemma dropEndWhile_eq_self (h : ∀ c ∈ cs, p c = false) : dropEndWhile p cs = cs := by
  induction cs with
  | nil => rfl
  | cons c cs ih =>
    obtain ⟨hc, hcs⟩ := List.forall_mem_cons.1 h
    rw [dropEndWhile_cons, ih hcs, if_neg (by simp [hc])]

/-- Nothing is dropped at the start of a text that has no character of the class. -/
lemma dropWhile_eq_self (h : ∀ c ∈ cs, p c = false) : cs.dropWhile p = cs := by
  cases cs with
  | nil => rfl
  | cons c cs => exact List.dropWhile_cons_of_neg (by simp [h c])

/-- A text without blanks is trimmed already. -/
lemma trim_eq_self (h : ∀ c ∈ cs, isBlank c = false) : trim cs = cs := by
  rw [trim, dropWhile_eq_self h, dropEndWhile_eq_self h]

/-- Trimming makes no characters. -/
lemma mem_of_mem_trim {c : Char} (h : c ∈ trim cs) : c ∈ cs := by
  obtain ⟨dropped, hcs, -⟩ := exists_append_dropEndWhile isBlank (cs.dropWhile isBlank)
  refine (List.dropWhile_suffix isBlank).subset ?_
  rw [hcs]
  exact List.mem_append_left dropped h

/-- A trimmed text starts with no blank. -/
lemma not_isBlank_of_head?_trim {c : Char} (h : (trim cs).head? = some c) : isBlank c = false := by
  obtain ⟨dropped, hcs, -⟩ := exists_append_dropEndWhile isBlank (cs.dropWhile isBlank)
  change cs.dropWhile isBlank = trim cs ++ dropped at hcs
  -- what is left starts with the first character that is no blank
  have hfirst := List.head?_dropWhile_not isBlank cs
  rw [hcs, List.head?_append, h] at hfirst
  simpa using hfirst

/-- **A trimmed text is left as it is.** -/
lemma trim_trim (cs : List Char) : trim (trim cs) = trim cs := by
  have hfront : (trim cs).dropWhile isBlank = trim cs := by
    cases htrim : trim cs with
    | nil => rfl
    | cons c rest =>
      have hfirst : (trim cs).head? = some c := by rw [htrim, List.head?_cons]
      exact List.dropWhile_cons_of_neg (by simp [not_isBlank_of_head?_trim hfirst])
  calc dropEndWhile isBlank ((trim cs).dropWhile isBlank)
      = dropEndWhile isBlank (trim cs) := by rw [hfront]
    _ = trim cs := dropEndWhile_dropEndWhile isBlank (cs.dropWhile isBlank)

end RegisterMachine.Text
