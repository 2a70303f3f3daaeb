import ShadowGate.Json.Printer
import ShadowGate.Number.Literal

/-!
# Reading a value

The reader of compact and of blank-padded text. It is a recursive descent over the characters; the
fuel is one more than their number, which every descent stays below.

* Lists and objects nest at most `maxDepth` deep.
* A whole number that fits 64 bits stays whole; `-0` and any other number become doubles. Digits
  that no longer fit the significand of 64 bits only shift its scale.
* `Json.readRaw` — fields in the order of the text, repeated names kept. `Json.read` — the
  normal form. `Json.ofBytes?` — the value that bytes encode.
-/

namespace ShadowGate.Json

/-- How deep lists and objects may nest. -/
def maxDepth : Nat := 127

/-- A blank between tokens. -/
def isGap (c : Char) : Bool := c == ' ' || c == '\n' || c == '\t' || c == '\r'

/-- Drop blanks. -/
def skip (cs : List Char) : List Char := cs.dropWhile isGap

/-! ## Text -/

/-- The first unit of a pair that spells one character. -/
def isHighUnit (n : Nat) : Bool := 0xD800 ≤ n && n < 0xDC00

/-- The second unit of a pair that spells one character. -/
def isLowUnit (n : Nat) : Bool := 0xDC00 ≤ n && n < 0xE000

/-- The character that a high and a low unit spell. -/
def pairChar (high low : Nat) : Char :=
  Char.ofNat (0x10000 + (high - 0xD800) * 0x400 + (low - 0xDC00))

/-- The character that a one-letter escape stands for. -/
def escapeLetter? (c : Char) : Option Char :=
  match c with
  | '"' => some '"'
  | '\\' => some '\\'
  | '/' => some '/'
  | 'b' => some '\x08'
  | 'f' => some '\x0c'
  | 'n' => some '\n'
  | 'r' => some '\r'
  | 't' => some '\t'
  | _ => none

/-- Put a character in front of the text that was read after it. -/
def consText (c : Char) (r : Option (List Char × List Char)) : Option (List Char × List Char) :=
  r.map fun p => (c :: p.1, p.2)

/-- The characters of a text up to its closing quote, the opening one being read already. A unit
escaped by number is a character of its own, unless it is the first of a pair; half a pair is
refused, and so is a control character that is not escaped. -/
def textBody : List Char → Option (List Char × List Char)
  | [] => none
  | '"' :: rest => some ([], rest)
  | '\\' :: 'u' :: a :: b :: c :: d :: rest =>
    match Text.hexNumber? [a, b, c, d] with
    | none => none
    | some n =>
      if isHighUnit n then
        match rest with
        | '\\' :: 'u' :: e :: f :: g :: h :: rest =>
          match Text.hexNumber? [e, f, g, h] with
          | none => none
          | some m => if isLowUnit m then consText (pairChar n m) (textBody rest) else none
        | _ => none
      else if isLowUnit n then none
      else consText (Char.ofNat n) (textBody rest)
  | '\\' :: letter :: rest =>
    match escapeLetter? letter with
    | none => none
    | some c => consText c (textBody rest)
  | c :: rest => if c = '\\' ∨ c.toNat < 0x20 then none else consText c (textBody rest)

/-! ## Numbers -/

/-- Extend a significand by digits as long as it fits 64 bits; the digits left over follow. -/
def accumulate (significand : Nat) : List Char → Nat × List Char
  | [] => (significand, [])
  | c :: rest =>
    let next := 10 * significand + Number.digitValue c
    if next < Number.nat64Bound then accumulate next rest else (significand, c :: rest)

/-- An exponent after its mark: sign and digits, at least one. -/
def exponentPart (cs : List Char) : Option (Bool × List Char × List Char) :=
  let (negative, rest) := Number.splitSign cs
  let (digits, rest) := Number.spanDigits rest
  if digits.isEmpty then none else some (negative, digits, rest)

/-- A significand with a scale and the digits of an exponent. An exponent that does not fit 31
bits leaves zero, or is refused if it would grow. -/
def withExponent (significand : Nat) (scale : Int) (negative : Bool) (digits : List Char) :
    Option Float :=
  let e : Int := Number.ofDigits digits
  if e < 2147483648 then
    let total := if negative then scale - e else scale + e
    Number.scaled significand (max (-2147483648) (min 2147483647 total))
  else if significand ≠ 0 ∧ !negative then none
  else some 0.0

/-- The fraction and exponent of a number whose whole digits are read: the double, unless neither
is there. -/
def fractional (whole : List Char) (cs : List Char) : Option (Option Float × List Char) :=
  let (significand, spare) := accumulate 0 whole
  let power (significand : Nat) (scale : Int) (cs : List Char) :
      Option (Option Float × List Char) :=
    match cs with
    | c :: rest =>
      if c = 'e' ∨ c = 'E' then do
        let (negative, digits, rest) ← exponentPart rest
        let x ← withExponent significand scale negative digits
        pure (some x, rest)
      else do
        let x ← Number.scaled significand scale
        pure (some x, cs)
    | [] => do
      let x ← Number.scaled significand scale
      pure (some x, [])
  match cs with
  | '.' :: rest =>
    let (digits, rest) := Number.spanDigits rest
    if digits.isEmpty then none
    else
      let (significand, left) := accumulate significand digits
      power significand (spare.length - (digits.length - left.length : Nat)) rest
  | c :: _ =>
    if c = 'e' ∨ c = 'E' then power significand spare.length cs
    else if spare.isEmpty then some (none, cs)
    else power significand spare.length cs
  | [] => if spare.isEmpty then some (none, cs) else power significand spare.length cs

/-- The whole digits of a number: a zero alone, or digits that start with another one. -/
def wholeDigits (cs : List Char) : Option (List Char × List Char) :=
  let (digits, rest) := Number.spanDigits cs
  match digits with
  | [] => none
  | ['0'] => some (digits, rest)
  | '0' :: _ => none
  | _ => some (digits, rest)

/-- A number with its sign read already. -/
def numberBody (negative : Bool) (cs : List Char) : Option (Json × List Char) := do
  let (whole, rest) ← wholeDigits cs
  let (x?, rest) ← fractional whole rest
  match x? with
  | some x => pure (.float (if negative then -x else x), rest)
  | none =>
    let n := Number.ofDigits whole
    if !negative then pure (.int n, rest)
    else if 0 < n ∧ n ≤ 9223372036854775808 then pure (.int (-n), rest)
    else pure (.float (-Float.ofNat n), rest)

/-! ## Values -/

mutual

/-- A value at the front, after blanks. `depth` is how much deeper it may nest. -/
def value : Nat → Nat → List Char → Option (Json × List Char)
  | 0, _, _ => none
  | fuel + 1, depth, cs =>
    match skip cs with
    | 'n' :: 'u' :: 'l' :: 'l' :: rest => some (.null, rest)
    | 't' :: 'r' :: 'u' :: 'e' :: rest => some (.bool true, rest)
    | 'f' :: 'a' :: 'l' :: 's' :: 'e' :: rest => some (.bool false, rest)
    | '"' :: rest => do
      let (s, rest) ← textBody rest
      pure (.str (String.ofList s), rest)
    | '[' :: rest =>
      match depth with
      | 0 => none
      | depth + 1 =>
        match skip rest with
        | ']' :: rest => some (.arr [], rest)
        | rest => do
          let (v, rest) ← value fuel depth rest
          let (items, rest) ← moreItems fuel depth rest
          pure (.arr (v :: items), rest)
    | '{' :: rest =>
      match depth with
      | 0 => none
      | depth + 1 =>
        match skip rest with
        | '}' :: rest => some (.obj [], rest)
        | rest => do
          let (f, rest) ← field fuel depth rest
          let (fields, rest) ← moreFields fuel depth rest
          pure (.obj (f :: fields), rest)
    | '-' :: rest => numberBody true rest
    | rest => numberBody false rest

/-- The items after one, up to the closing bracket. -/
def moreItems : Nat → Nat → List Char → Option (List Json × List Char)
  | 0, _, _ => none
  | fuel + 1, depth, cs =>
    match skip cs with
    | ']' :: rest => some ([], rest)
    | ',' :: rest => do
      let (v, rest) ← value fuel depth rest
      let (items, rest) ← moreItems fuel depth rest
      pure (v :: items, rest)
    | _ => none

/-- One field: a name, a colon and a value. -/
def field : Nat → Nat → List Char → Option ((String × Json) × List Char)
  | 0, _, _ => none
  | fuel + 1, depth, cs =>
    match skip cs with
    | '"' :: rest => do
      let (name, rest) ← textBody rest
      match skip rest with
      | ':' :: rest =>
        let (v, rest) ← value fuel depth rest
        pure ((String.ofList name, v), rest)
      | _ => none
    | _ => none

/-- The fields after one, up to the closing brace. -/
def moreFields : Nat → Nat → List Char → Option (List (String × Json) × List Char)
  | 0, _, _ => none
  | fuel + 1, depth, cs =>
    match skip cs with
    | '}' :: rest => some ([], rest)
    | ',' :: rest => do
      let (f, rest) ← field fuel depth rest
      let (fields, rest) ← moreFields fuel depth rest
      pure (f :: fields, rest)
    | _ => none

end

/-- The value that a whole text spells, fields as they stand there. -/
def readChars (cs : List Char) : Option Json := do
  let (v, rest) ← value (2 * cs.length + 2) maxDepth cs
  if (skip rest).isEmpty then pure v else none

/-- The value that a whole text spells, fields as they stand there. -/
def readRaw (s : String) : Option Json := readChars s.toList

/-- **The value that a whole text spells**, in normal form. -/
def read (s : String) : Option Json := (readRaw s).map normalize

/-- The value that bytes encode: valid UTF-8 that spells a value. -/
def ofBytes? (bytes : Bytes) : Option Json := (Text.ofBytes? bytes).bind read

end ShadowGate.Json
