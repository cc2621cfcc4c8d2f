set_option autoImplicit false
set_option relaxedAutoImplicit false

/-!
# Blank space and pieces

Trimming and splitting of text, over lists of characters.

## Main definitions

* `RegisterMachine.Text.isBlank` — the characters that count as white space.
* `RegisterMachine.Text.trim` — the text without blanks at both ends.
* `RegisterMachine.Text.pieces` — the parts of a text between separators.
* `RegisterMachine.Text.words` — the maximal runs of characters that are not blank.
-/

namespace RegisterMachine.Text

/-- White space: the ASCII layout characters, the four information separators, and the Unicode
spaces and separators. The zero-width space and the byte-order mark do not count. -/
def isBlank (c : Char) : Bool :=
  let n := c.toNat
  (0x09 ≤ n && n ≤ 0x0D) || (0x1C ≤ n && n ≤ 0x20) || n == 0x85 || n == 0xA0 || n == 0x1680 ||
    (0x2000 ≤ n && n ≤ 0x200A) || n == 0x2028 || n == 0x2029 || n == 0x202F || n == 0x205F ||
    n == 0x3000

/-- The text without the characters of a class at its end. -/
def dropEndWhile (p : Char → Bool) (cs : List Char) : List Char :=
  cs.foldr (fun c rest => if rest.isEmpty && p c then [] else c :: rest) []

/-- The text without blanks at both ends. -/
def trim (cs : List Char) : List Char :=
  dropEndWhile isBlank (cs.dropWhile isBlank)

/-- Puts a character in front of the first piece. -/
def consFirst (c : Char) : List (List Char) → List (List Char)
  | [] => [[c]]
  | piece :: rest => (c :: piece) :: rest

/-- The parts of a text between its separators, one more than there are separators; parts may be
empty. -/
def pieces (isSeparator : Char → Bool) (cs : List Char) : List (List Char) :=
  cs.foldr (fun c parts => if isSeparator c then [] :: parts else consFirst c parts) [[]]

/-- The non-empty pieces. -/
def fields (isSeparator : Char → Bool) (cs : List Char) : List (List Char) :=
  (pieces isSeparator cs).filter (!·.isEmpty)

/-- The maximal runs of characters that are not blank. -/
def words (cs : List Char) : List (List Char) :=
  fields isBlank cs

theorem dropEndWhile_nil (p : Char → Bool) : dropEndWhile p [] = [] := rfl

theorem dropEndWhile_cons (p : Char → Bool) (c : Char) (cs : List Char) :
    dropEndWhile p (c :: cs) =
      if (dropEndWhile p cs).isEmpty && p c then [] else c :: dropEndWhile p cs := rfl

theorem pieces_nil (p : Char → Bool) : pieces p [] = [[]] := rfl

theorem pieces_cons (p : Char → Bool) (c : Char) (cs : List Char) :
    pieces p (c :: cs) = if p c then [] :: pieces p cs else consFirst c (pieces p cs) := rfl

end RegisterMachine.Text
