import RegisterMachine.Text.Printable

set_option autoImplicit false
set_option relaxedAutoImplicit false

/-!
# Quoted text

Text in quotes, as messages show it: apostrophes around it unless it holds one and no quotation
mark, a backslash before what would be misread, and numeric escapes for what cannot be printed.

## Main definitions

* `RegisterMachine.Text.quoted` — the quoted form of a text.
-/

namespace RegisterMachine.Text

/-- The lower-case hexadecimal form of a number, padded with zeros to a width. -/
def hexPadded (width n : Nat) : List Char :=
  let digits := Nat.toDigits 16 n
  List.replicate (width - digits.length) '0' ++ digits

/-- A numeric escape of two, four or eight digits, the shortest that fits. -/
def numericEscape (n : Nat) : List Char :=
  if n < 0x100 then '\\' :: 'x' :: hexPadded 2 n
  else if n < 0x10000 then '\\' :: 'u' :: hexPadded 4 n
  else '\\' :: 'U' :: hexPadded 8 n

/-- What stands for one character between two quote characters. -/
def quotedChar (quote c : Char) : List Char :=
  if c = quote || c = '\\' then ['\\', c]
  else if c = '\n' then ['\\', 'n']
  else if c = '\r' then ['\\', 'r']
  else if c = '\t' then ['\\', 't']
  else if isPrintable c then [c]
  else numericEscape c.toNat

/-- The quote character that a text takes: a quotation mark if the text holds an apostrophe and
no quotation mark, otherwise an apostrophe. -/
def quoteFor (cs : List Char) : Char :=
  if cs.contains '\'' && !cs.contains '"' then '"' else '\''

/-- The quoted form of a text. -/
def quoted (text : String) : String :=
  let cs := text.toList
  let quote := quoteFor cs
  String.ofList ([quote] ++ cs.flatMap (quotedChar quote) ++ [quote])

end RegisterMachine.Text
