import RegisterMachine.Text.CaseTable

set_option autoImplicit false
set_option relaxedAutoImplicit false

/-!
# Lower case

Full lower-casing: each letter becomes its lower-case partner, the dotted capital I becomes two
characters, and a capital sigma at the end of a word becomes the final form.

## Main definitions

* `RegisterMachine.Text.lowerChar` — lower case of one character, whatever stands around it.
* `RegisterMachine.Text.lower` — lower case of a text.
-/

namespace RegisterMachine.Text

/-- Whether a code point lies in one of the ranges. -/
def inRanges (ranges : List (Nat × Nat)) (n : Nat) : Bool :=
  ranges.any fun (first, last) => first ≤ n && n ≤ last

/-- Whether a character is a letter with case for the final sigma rule. -/
def isCased (c : Char) : Bool :=
  inRanges casedRanges c.toNat

/-- Whether the final sigma rule looks through a character. -/
def isCaseIgnorable (c : Char) : Bool :=
  inRanges caseIgnorableRanges c.toNat

/-- Whether a code point is one of the letters of a run. -/
def LowerRun.contains (run : LowerRun) (n : Nat) : Bool :=
  run.first ≤ n && n ≤ run.last && (n - run.first) % run.stride == 0

/-- The partner of a letter in a run. -/
def LowerRun.apply (run : LowerRun) (n : Nat) : Char :=
  Char.ofNat (n + run.shift).toNat

/-- Lower case of one character, whatever stands around it. -/
def lowerChar (c : Char) : List Char :=
  if c.toNat < 0x80 then [c.toLower]
  else if c = 'İ' then ['i', '\u0307']
  else match lowerRuns.find? (·.contains c.toNat) with
    | some run => [run.apply c.toNat]
    | none => [c]

/-- Whether the nearest character that is not looked through is a letter with case. -/
def startsCased (cs : List Char) : Bool :=
  ((cs.dropWhile isCaseIgnorable).head?.map isCased).getD false

/-- Lower case of the text `rest` that follows the characters `before`, the nearest one first. A
capital sigma takes the final form if a letter stands before it and none after it. -/
def lowerAfter (before : List Char) : List Char → List Char
  | [] => []
  | c :: rest =>
    let image :=
      if c = 'Σ' then [if startsCased before && !startsCased rest then 'ς' else 'σ']
      else lowerChar c
    image ++ lowerAfter (c :: before) rest

/-- Lower case of a text. -/
def lower (text : String) : String :=
  String.ofList (lowerAfter [] text.toList)

end RegisterMachine.Text
