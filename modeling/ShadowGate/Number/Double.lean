import ShadowGate.Number.Power

/-!
# Doubles as exact numbers

A finite double is `± mantissa * 2 ^ exponent` with natural `mantissa`; rounding, truncation and
decimal text are computed from that form in exact arithmetic.

* `Dyadic.ofFloat` — reads the form off the bits.
* `truncate`, `roundHalfAway` — the integer part, and the nearest integer with halves going away
  from zero.
* `clamp` — cuts a value to an interval by two comparisons, so an undefined value and a negative
  zero pass through unchanged.
-/

namespace ShadowGate.Number

/-- A sign, a natural number and a power of two: the value `± mantissa * 2 ^ exponent`. -/
structure Dyadic where
  /-- whether the sign bit is set -/
  negative : Bool
  /-- the natural factor -/
  mantissa : Nat
  /-- the power of two -/
  exponent : Int
deriving DecidableEq, Repr

namespace Dyadic

/-- The exact value of a finite double. -/
def ofFloat (x : Float) : Dyadic :=
  let bits := x.toBits.toNat
  let field := bits / twoTo 52 % twoTo 11
  let fraction := bits % twoTo 52
  { negative := bits / twoTo 63 == 1
    mantissa := if field = 0 then fraction else fraction + twoTo 52
    exponent := (Nat.max field 1 : Int) - 1075 }

/-- The numerator of the magnitude over `den`. -/
def num (d : Dyadic) : Nat := d.mantissa * twoTo d.exponent.toNat

/-- A power of two: the denominator of the magnitude. -/
def den (d : Dyadic) : Nat := twoTo (-d.exponent).toNat

/-- The magnitude rounded to a natural number, halves up. -/
def roundMagnitude (d : Dyadic) : Nat := (2 * d.num + d.den) / (2 * d.den)

/-- The integer part, toward zero. -/
def truncate (d : Dyadic) : Int :=
  let n : Int := (d.num / d.den : Nat)
  if d.negative then -n else n

end Dyadic

/-- The integer part of a double as a signed 64-bit number: beyond the range it stops at the
nearer end, and an undefined value counts as zero. -/
def truncateToInt64 (x : Float) : Int :=
  if x.isNaN then 0
  else if x.isFinite then max int64Min (min int64Max (Dyadic.ofFloat x).truncate)
  else if x < 0 then int64Min
  else int64Max

/-- The integer part of a double as an unsigned 64-bit number, cut to the range. -/
def truncateToNat64 (x : Float) : Nat :=
  if x.isNaN then 0
  else if x.isFinite then min (nat64Bound - 1) (Dyadic.ofFloat x).truncate.toNat
  else if x < 0 then 0
  else nat64Bound - 1

/-- The nearest integral double; a half goes away from zero. -/
def roundHalfAway (x : Float) : Float :=
  if x.isFinite then
    let d := Dyadic.ofFloat x
    let n := Float.ofNat d.roundMagnitude
    if d.negative then -n else n
  else x

/-- The larger bound that `x` exceeds, the smaller one that it falls short of, or `x` itself. -/
def clamp (x lo hi : Float) : Float :=
  if x < lo then lo else if x > hi then hi else x

/-- The sum from the first element on. The empty sum is the neutral element, negative zero. -/
def sum : List Float → Float
  | [] => -0.0
  | x :: xs => xs.foldl (· + ·) x

end ShadowGate.Number
