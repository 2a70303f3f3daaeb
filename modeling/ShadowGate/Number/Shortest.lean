import ShadowGate.Number.Double

/-!
# Shortest decimal text

The decimal text of a double with the fewest digits that read back as the same double; of those
with equally many digits, the nearest.

* `Span` — the double and the ends of the interval of reals that round to it, over one
  denominator. An end belongs to the interval exactly when the mantissa is even.
* `shortestDigits` — for 1, 2, … 17 digits, the two neighbours of the value on that grid are
  tried; the first grid with a hit wins.
* `floatText` — the layout: positional from `1e-5` up to below `1e16`, with at least one decimal;
  exponential with a signed exponent elsewhere.
-/

namespace ShadowGate.Number

/-- A number `digits * 10 ^ exponent`. -/
structure Decimal where
  /-- the digits, read as one natural number -/
  digits : Nat
  /-- the power of ten -/
  exponent : Int
deriving DecidableEq, Repr

/-- A positive double between the ends of the interval of reals that round to it, all over `den`. -/
structure Span where
  /-- lower end -/
  low : Nat
  /-- the double itself -/
  value : Nat
  /-- upper end -/
  high : Nat
  /-- the common denominator -/
  den : Nat
  /-- whether the ends round to the double too -/
  closed : Bool

namespace Span

/-- The span of a finite double's magnitude. Below a power of two the grid of doubles is finer, so
the lower end is nearer. -/
def ofDyadic (d : Dyadic) : Span :=
  let atPower := d.mantissa == twoTo 52 && d.exponent != -1074
  let quarter : Dyadic := { d with exponent := d.exponent - 2 }
  let up := twoTo quarter.exponent.toNat
  { low := (4 * d.mantissa - (if atPower then 1 else 2)) * up
    value := 4 * d.mantissa * up
    high := (4 * d.mantissa + 2) * up
    den := quarter.den
    closed := d.mantissa % 2 == 0 }

/-- Whether `value / den < 10 ^ k`. -/
def belowPower (s : Span) (k : Int) : Bool :=
  s.value * tenTo (-k).toNat < s.den * tenTo k.toNat

/-- The least exponent from `k` on, within `fuel` steps, whose power of ten exceeds the value. -/
def leadingFrom (s : Span) : Nat → Int → Int
  | 0, k => k
  | fuel + 1, k => if s.belowPower k then k else leadingFrom s fuel (k + 1)

/-- The `k` with `10 ^ (k - 1) ≤ value < 10 ^ k`. A bound from the binary lengths starts the
search at most three steps early. -/
def leading (s : Span) : Int :=
  let bits : Int := (Nat.log2 s.value : Int) - (Nat.log2 s.den : Int)
  s.leadingFrom 8 (Int.fdiv ((bits - 1) * 30103) 100000)

/-- Whether `c * 10 ^ (k - n)` rounds to the double. -/
def hit (s : Span) (shift : Int) (c : Nat) : Bool :=
  let point := c * tenTo shift.toNat * s.den
  let up := tenTo (-shift).toNat
  (s.low * up < point && point < s.high * up)
    || (s.closed && (point == s.low * up || point == s.high * up))

/-- The better of the value's two neighbours on the grid of multiples of `10 ^ shift`, if one of
them rounds to the double. -/
def onGrid (s : Span) (shift : Int) : Option Nat :=
  let up := tenTo (-shift).toNat
  let step := tenTo shift.toNat * s.den
  let c := s.value * up / step
  let below := s.value * up - c * step
  let above := (c + 1) * step - s.value * up
  match s.hit shift c, s.hit shift (c + 1) with
  | true, true => some (if below < above || (below == above && c % 2 == 0) then c else c + 1)
  | true, false => some c
  | false, true => some (c + 1)
  | false, false => none

/-- Try `n` digits, then one more, up to `fuel` more. -/
def digitsFrom (s : Span) (k : Int) : Nat → Nat → Decimal
  | 0, n => ⟨s.value * tenTo (n - k).toNat / (s.den * tenTo (k - n).toNat), k - n⟩
  | fuel + 1, n =>
    match s.onGrid (k - n) with
    | some c => ⟨c, k - n⟩
    | none => digitsFrom s k fuel (n + 1)

end Span

/-- Drop trailing zero digits, at most `fuel` of them. -/
def Decimal.trimZeros : Nat → Decimal → Decimal
  | 0, d => d
  | fuel + 1, d =>
    if d.digits % 10 = 0 && d.digits != 0 then
      trimZeros fuel ⟨d.digits / 10, d.exponent + 1⟩
    else d

/-- The fewest digits that read back as the magnitude of a finite, non-zero double. -/
def shortestDigits (d : Dyadic) : Decimal :=
  let s := Span.ofDyadic d
  (s.digitsFrom s.leading 17 1).trimZeros 20

/-- The decimal digits of a natural number. -/
def natChars (n : Nat) : List Char := Nat.toDigits 10 n

/-- A natural number in decimal. -/
def natText (n : Nat) : String := String.ofList (natChars n)

/-- The decimal digits of an integer, with a minus sign if negative. -/
def intChars (n : Int) : List Char :=
  if n < 0 then '-' :: natChars n.natAbs else natChars n.natAbs

/-- Digits with a point after the first `point` of them; at least one decimal. -/
def positional (digits : List Char) (point : Int) : List Char :=
  if point ≤ 0 then
    '0' :: '.' :: (List.replicate (-point).toNat '0' ++ digits)
  else
    let whole := digits.take point.toNat
    let zeros := List.replicate (point.toNat - digits.length) '0'
    let decimals := digits.drop point.toNat
    whole ++ zeros ++ '.' :: (if decimals.isEmpty then ['0'] else decimals)

/-- One digit before the point, if any follow it, and a signed exponent. -/
def exponential (digits : List Char) (power : Int) : List Char :=
  let mantissa :=
    match digits with
    | [] => []
    | [d] => [d]
    | d :: rest => d :: '.' :: rest
  let mark := if power < 0 then ['e', '-'] else ['e', '+']
  mantissa ++ mark ++ natChars power.natAbs

/-- **The text of a finite double**: the fewest digits, positional from `1e-5` up to below `1e16`. -/
def floatChars (x : Float) : List Char :=
  let d := Dyadic.ofFloat x
  let body :=
    if d.mantissa = 0 then ['0', '.', '0']
    else
      let s := shortestDigits d
      let digits := natChars s.digits
      let point := s.exponent + digits.length
      if -5 < point && point ≤ 16 then positional digits point
      else exponential digits (point - 1)
  if d.negative then '-' :: body else body

/-- Digits with a point after the first `point` of them, and no point where no decimals follow. -/
def plainDigits (digits : List Char) (point : Int) : List Char :=
  let decimals := digits.drop point.toNat
  if point ≤ 0 then
    '0' :: '.' :: (List.replicate (-point).toNat '0' ++ digits)
  else
    digits.take point.toNat ++ List.replicate (point.toNat - digits.length) '0'
      ++ (if decimals.isEmpty then [] else '.' :: decimals)

/-- A finite double as plain text: the fewest digits, never an exponent, and no decimals for a
whole number. -/
def plainChars (x : Float) : List Char :=
  let d := Dyadic.ofFloat x
  let body :=
    if d.mantissa = 0 then ['0']
    else
      let s := shortestDigits d
      let digits := natChars s.digits
      plainDigits digits (s.exponent + digits.length)
  if d.negative then '-' :: body else body

end ShadowGate.Number
