import RegisterMachine.Double.Basic

set_option autoImplicit false
set_option relaxedAutoImplicit false

/-!
# Shortest decimals

The decimal with the fewest digits that still rounds to a given double. For each power of ten, the
coarsest first, the two multiples of it around the double are tried; the first power with a
multiple that rounds to the double wins, and of two multiples the nearer one.

## Main definitions

* `RegisterMachine.Double.Interval` — the numbers that round to a double.
* `RegisterMachine.Double.shortest` — the shortest decimal that rounds to a double.
-/

namespace RegisterMachine.Double

/-- The numbers that round to a positive double, in quarters of a unit: `below` and `above` are
the distances to its two ends, which belong to the interval if `closed`. -/
structure Interval where
  centre : Nat
  below : Nat
  above : Nat
  closed : Bool

/-- The interval of a positive finite double. Below a power of two the doubles lie twice as close,
except next to the smallest exponent. The ends round to the even significand. -/
def Interval.of (x : Float) : Interval :=
  let step := 1 <<< scale x
  let atPower := magnitudeBits x % leadingBit = 0 && 1 < magnitudeBits x / leadingBit
  { centre := 4 * significand x * step
    below := if atPower then step else 2 * step
    above := 2 * step
    closed := significand x % 2 = 0 }

/-- Whether a multiple of a grid width lies in the interval, everything taken `zoom` times. -/
def Interval.contains (i : Interval) (zoom point : Nat) : Bool :=
  let low := (i.centre - i.below) * zoom
  let high := (i.centre + i.above) * zoom
  if i.closed then low ≤ point && point ≤ high else low < point && point < high

/-- The multiple of `10 ^ place` in the interval that is nearest to its centre, as the factor of
that power; of two equally near ones, the even one. -/
def Interval.multiple? (i : Interval) (place : Int) : Option Nat :=
  let zoom := Nat.pow 10 (-place).toNat
  let width := Nat.pow 10 place.toNat * (4 * unitsPerOne)
  let lower := i.centre * zoom / width
  let upper := lower + 1
  match i.contains zoom (lower * width), i.contains zoom (upper * width) with
  | true, true => some (roundDiv (i.centre * zoom) width)
  | true, false => some lower
  | false, true => some upper
  | false, false => none

/-- A power of ten above a positive double, but not far above. -/
def placeAbove (units : Nat) : Int :=
  ((units.log2 : Int) - 1074) * 30103 / 100000 + 2

/-- The shortest decimal that rounds to a positive finite double: digits, and the power of ten
that they count. Seventeen digits are always enough. -/
def shortest (x : Float) : Nat × Int :=
  let i := Interval.of x
  let top := placeAbove (significand x <<< scale x)
  let found := (List.range 21).findSome? fun (k : Nat) =>
    let place := top - k
    (i.multiple? place).map fun digits => (digits, place)
  found.getD (0, 0)

end RegisterMachine.Double
