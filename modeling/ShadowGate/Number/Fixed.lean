import ShadowGate.Number.Shortest

/-!
# Fixed decimal text

Text with a fixed number of decimals: the exact value is rounded to that grid, and a tie goes to
the even neighbour. The sign of a negative zero is written.
-/

namespace ShadowGate.Number

/-- A quotient rounded to the nearest natural number, ties to even. -/
def divHalfEven (num den : Nat) : Nat :=
  let q := num / den
  let twice := 2 * (num % den)
  if twice < den then q
  else if den < twice then q + 1
  else if q % 2 = 0 then q
  else q + 1

/-- Pad with zeros on the left up to `width` digits. -/
def padZeros (width : Nat) (digits : List Char) : List Char :=
  List.replicate (width - digits.length) '0' ++ digits

/-- The magnitude with two decimals. -/
def twoDecimals (d : Dyadic) : List Char :=
  let hundredths := divHalfEven (100 * d.num) d.den
  natChars (hundredths / 100) ++ '.' :: padZeros 2 (natChars (hundredths % 100))

/-- **A double with two decimals.** -/
def fixed2 (x : Float) : String :=
  if x.isNaN then "NaN"
  else if x.isFinite then
    let d := Dyadic.ofFloat x
    String.ofList (if d.negative then '-' :: twoDecimals d else twoDecimals d)
  else if x < 0 then "-inf"
  else "inf"

/-- The name of a double that is not finite. -/
def nonFiniteName (x : Float) : String :=
  if x.isNaN then "NaN" else if x < 0 then "-inf" else "inf"

end ShadowGate.Number
