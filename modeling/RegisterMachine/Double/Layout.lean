import RegisterMachine.Double.Shortest

set_option autoImplicit false
set_option relaxedAutoImplicit false

/-!
# The text of a double

A double is written with the shortest decimal that reads back. Numbers of moderate size are
written positionally, with at least one digit behind the point; the others as one digit, the rest
behind the point, and an exponent with a sign.

## Main definitions

* `RegisterMachine.Double.Layout` — which exponents are positional, and how wide the others are.
* `RegisterMachine.Double.Layout.write` — a decimal, laid out.
* `RegisterMachine.Double.text` — the text of a double.
-/

namespace RegisterMachine.Double

/-- Where positional writing begins and ends, by the exponent of the leading digit, and how many
digits an exponent has at least. -/
structure Layout where
  lowest : Int
  highest : Int
  exponentWidth : Nat
  deriving DecidableEq, Repr

/-- A number of zeros. -/
def zeros (n : Nat) : List Char :=
  List.replicate n '0'

/-- Digits with a point behind the digit of the given exponent, and a zero where there would be no
digit on one side of it. -/
def positional (digits : List Char) (exponent : Int) : List Char :=
  if exponent < 0 then '0' :: '.' :: zeros (-exponent - 1).toNat ++ digits
  else
    let whole := exponent.toNat + 1
    if digits.length ≤ whole then digits ++ zeros (whole - digits.length) ++ ['.', '0']
    else digits.take whole ++ '.' :: digits.drop whole

/-- An exponent with its sign, padded with zeros to a width. -/
def signedExponent (width : Nat) (exponent : Int) : List Char :=
  let digits := Nat.toDigits 10 exponent.natAbs
  (if exponent < 0 then '-' else '+') :: zeros (width - digits.length) ++ digits

/-- Digits with a point behind the first, if more follow, and an exponent. -/
def scientific (width : Nat) (digits : List Char) (exponent : Int) : List Char :=
  let mantissa :=
    match digits with
    | first :: next :: rest => first :: '.' :: next :: rest
    | _ => digits
  mantissa ++ 'e' :: signedExponent width exponent

/-- A decimal, laid out: digits whose first one has the given exponent. -/
def Layout.write (layout : Layout) (digits : List Char) (exponent : Int) : List Char :=
  if layout.lowest ≤ exponent && exponent ≤ layout.highest then positional digits exponent
  else scientific layout.exponentWidth digits exponent

/-- Numbers from `0.0001` to just below `10 ^ 16` are written positionally; other exponents have
two digits or more. -/
def layout : Layout := ⟨-4, 15, 2⟩

/-- The text of a double. -/
def text (x : Float) : String :=
  match exact x with
  | .nan => "nan"
  | .infinite negative => if negative then "-inf" else "inf"
  | .finite negative units =>
    let body :=
      if units = 0 then layout.write ['0'] 0
      else
        let (digits, place) := shortest x
        let shown := Nat.toDigits 10 digits
        layout.write shown (place + shown.length - 1)
    String.ofList (if negative then '-' :: body else body)

end RegisterMachine.Double
