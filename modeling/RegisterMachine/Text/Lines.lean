import RegisterMachine.Text.Blank

set_option autoImplicit false
set_option relaxedAutoImplicit false

/-!
# Lines

A text is cut into lines at every line break; a carriage return with a line feed right behind it
is one break, and a break at the very end starts no further line.

## Main definitions

* `RegisterMachine.Text.isLineBreak` — the characters that end a line.
* `RegisterMachine.Text.joinPairs` — every two-character break made one character.
* `RegisterMachine.Text.lines` — the lines of a text.
* `RegisterMachine.Text.unifyBreaks` — carriage returns turned into line feeds.
-/

namespace RegisterMachine.Text

/-- The characters that end a line. -/
def isLineBreak (c : Char) : Bool :=
  let n := c.toNat
  (0x0A ≤ n && n ≤ 0x0D) || (0x1C ≤ n && n ≤ 0x1E) || n == 0x85 || n == 0x2028 || n == 0x2029

/-- The text without a line feed at its start. -/
def dropLineFeed : List Char → List Char
  | '\n' :: rest => rest
  | cs => cs

/-- The text with each carriage return and line feed pair made a lone carriage return. -/
def joinPairs (cs : List Char) : List Char :=
  cs.foldr (fun c rest => if c = '\r' then c :: dropLineFeed rest else c :: rest) []

/-- The lines of a text, without their breaks. -/
def lines (cs : List Char) : List (List Char) :=
  let parts := pieces isLineBreak (joinPairs cs)
  if parts.getLast? = some [] then parts.dropLast else parts

/-- The text with a line feed for each carriage return, alone or before a line feed. -/
def unifyBreaks (cs : List Char) : List Char :=
  (joinPairs cs).map fun c => if c = '\r' then '\n' else c

end RegisterMachine.Text
