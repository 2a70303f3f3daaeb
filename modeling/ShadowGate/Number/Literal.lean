import ShadowGate.Number.Double

/-!
# Reading decimal text

Two rules turn decimal text into a double.

* `nearest` — the double nearest to the decimal, as settings text is read.
* `scaled` — a whole significand, rounded to a double, then multiplied or divided by one power of
  ten; this is how numbers of a data document are read. The two agree while the significand and
  the power are exact.
* `float?`, `nat64?`, `int64?` — whole texts: an optional sign, digits, and for a double an
  optional fraction and exponent, or a name of an infinity or of the undefined value.
-/

namespace ShadowGate.Number

/-- An ASCII digit. -/
def isDigit (c : Char) : Bool := '0' ≤ c && c ≤ '9'

/-- The value of an ASCII digit. -/
def digitValue (c : Char) : Nat := c.toNat - '0'.toNat

/-- The number that digits spell. -/
def ofDigits (cs : List Char) : Nat := cs.foldl (fun n c => 10 * n + digitValue c) 0

/-- Split off the digits at the front. -/
def spanDigits (cs : List Char) : List Char × List Char :=
  (cs.takeWhile isDigit, cs.dropWhile isDigit)

/-- Positive infinity. -/
def infinity : Float := 1.0 / 0.0

/-- The undefined value. -/
def undefined : Float := 0.0 / 0.0

/-- The double nearest to `digits * 10 ^ exponent`. Beyond the range of doubles the power is not
computed. -/
def nearest (digits : Nat) (exponent : Int) : Float :=
  let width : Int := (Nat.toDigits 10 digits).length
  if digits = 0 then 0.0
  else if exponent + width > 400 then infinity
  else if exponent + width < -400 then 0.0
  else if exponent < 0 then Float.ofScientific digits true exponent.natAbs
  else Float.ofScientific digits false exponent.natAbs

/-- A power of ten up to `10 ^ 308`, rounded to a double. -/
def powerOfTen (n : Nat) : Float := Float.ofScientific 1 false n

/-- Scale a double by a power of ten, in one step where the power is a double and by `10 ^ 308` at
a time below that. `none` is a result beyond the range. -/
def scaleBy (x : Float) (exponent : Int) : Option Float :=
  if -308 ≤ exponent ∧ exponent ≤ 308 then
    if exponent ≥ 0 then
      let y := x * powerOfTen exponent.toNat
      if y.isInf then none else some y
    else some (x / powerOfTen exponent.natAbs)
  else if x == 0.0 then some x
  else if exponent ≥ 0 then none
  else scaleBy (x / powerOfTen 308) (exponent + 308)
termination_by (-exponent).toNat

/-- A significand of at most 64 bits times a power of ten. -/
def scaled (significand : Nat) (exponent : Int) : Option Float :=
  scaleBy (Float.ofNat significand) exponent

/-! ## Whole texts -/

/-- A sign at the front, positive if there is none. -/
def splitSign : List Char → Bool × List Char
  | '-' :: rest => (true, rest)
  | '+' :: rest => (false, rest)
  | cs => (false, cs)

/-- The exponent part of a number: nothing, or a mark, an optional sign and digits. -/
def exponent? : List Char → Option Int
  | [] => some 0
  | c :: rest =>
    if c = 'e' ∨ c = 'E' then
      let (negative, digits) := splitSign rest
      if !digits.isEmpty && digits.all isDigit then
        let n : Int := ofDigits digits
        some (if negative then -n else n)
      else none
    else none

/-- The magnitude of a double: digits with an optional point among them and an optional exponent. -/
def magnitude? (cs : List Char) : Option Float :=
  let (whole, rest) := spanDigits cs
  let (fraction, rest) :=
    match rest with
    | '.' :: rest => spanDigits rest
    | _ => ([], rest)
  if whole.isEmpty && fraction.isEmpty then none
  else do
    let power ← exponent? rest
    pure (nearest (ofDigits (whole ++ fraction)) (power - fraction.length))

/-- ASCII lower case. -/
def asciiLower (cs : List Char) : List Char := cs.map Char.toLower

/-- A double written out: sign, then a name or a magnitude. -/
def float? (s : String) : Option Float :=
  let (negative, cs) := splitSign s.toList
  let name := String.ofList (asciiLower cs)
  let magnitude :=
    if name = "inf" ∨ name = "infinity" then some infinity
    else if name = "nan" then some undefined
    else magnitude? cs
  magnitude.map fun x => if negative then -x else x

/-- Digits only, at least one. -/
def wholeNumber? (cs : List Char) : Option Nat :=
  if !cs.isEmpty && cs.all isDigit then some (ofDigits cs) else none

/-- An unsigned 64-bit number; a plus sign is allowed. -/
def nat64? (s : String) : Option Nat :=
  let digits :=
    match s.toList with
    | '+' :: rest => rest
    | cs => cs
  (wholeNumber? digits).filter (· < nat64Bound)

/-- A signed 64-bit number. -/
def int64? (s : String) : Option Int :=
  let (negative, digits) := splitSign s.toList
  (wholeNumber? digits).bind fun n =>
    let value : Int := if negative then -(n : Int) else n
    if int64Min ≤ value ∧ value ≤ int64Max then some value else none

end ShadowGate.Number
