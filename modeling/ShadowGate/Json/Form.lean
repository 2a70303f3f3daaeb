import ShadowGate.Json.Reader

/-!
# Forms

A form is the text of an object whose fields are known by name. What stands under a known name is
read; what stands under any other name is **passed over**: its shape is checked and nothing else.

* `passValue` — pass over a value of any depth. Numbers may have any size, and a unit escaped by
  number may be half of a pair.
* `readForm` — the known fields of a form in the order of the text, repeated names kept. A text
  that spells no object is read as the value it spells.
-/

namespace ShadowGate.Json

/-! ## Passing over -/

/-- Pass over a text up to its closing quote. -/
def passText : List Char → Option (List Char)
  | [] => none
  | '"' :: rest => some rest
  | '\\' :: 'u' :: a :: b :: c :: d :: rest =>
    if (Text.hexNumber? [a, b, c, d]).isSome then passText rest else none
  | '\\' :: letter :: rest => if (escapeLetter? letter).isSome then passText rest else none
  | c :: rest => if c = '\\' ∨ c.toNat < 0x20 then none else passText rest

/-- Pass over an exponent, if there is one. -/
def passExponent (cs : List Char) : Option (List Char) :=
  match cs with
  | c :: rest =>
    if c = 'e' ∨ c = 'E' then (exponentPart rest).map fun p => p.2.2 else some cs
  | [] => some []

/-- Pass over a number whose sign is read already. -/
def passNumber (cs : List Char) : Option (List Char) := do
  let (_, rest) ← wholeDigits cs
  match rest with
  | '.' :: rest =>
    let (digits, rest) := Number.spanDigits rest
    if digits.isEmpty then none else passExponent rest
  | _ => passExponent rest

/-- Pass over a name and the colon after it. -/
def passName (cs : List Char) : Option (List Char) :=
  match skip cs with
  | '"' :: rest => do
    let rest ← passText rest
    match skip rest with
    | ':' :: rest => some rest
    | _ => none
  | _ => none

mutual

/-- Pass over a value at the front, after blanks. -/
def passValue : Nat → List Char → Option (List Char)
  | 0, _ => none
  | fuel + 1, cs =>
    match skip cs with
    | 'n' :: 'u' :: 'l' :: 'l' :: rest => some rest
    | 't' :: 'r' :: 'u' :: 'e' :: rest => some rest
    | 'f' :: 'a' :: 'l' :: 's' :: 'e' :: rest => some rest
    | '"' :: rest => passText rest
    | '[' :: rest =>
      match skip rest with
      | ']' :: rest => some rest
      | rest => (passValue fuel rest).bind (passItems fuel)
    | '{' :: rest =>
      match skip rest with
      | '}' :: rest => some rest
      | rest => ((passName rest).bind (passValue fuel)).bind (passFields fuel)
    | '-' :: rest => passNumber rest
    | rest => passNumber rest

/-- Pass over the items after one, up to the closing bracket. -/
def passItems : Nat → List Char → Option (List Char)
  | 0, _ => none
  | fuel + 1, cs =>
    match skip cs with
    | ']' :: rest => some rest
    | ',' :: rest => (passValue fuel rest).bind (passItems fuel)
    | _ => none

/-- Pass over the fields after one, up to the closing brace. -/
def passFields : Nat → List Char → Option (List Char)
  | 0, _ => none
  | fuel + 1, cs =>
    match skip cs with
    | '}' :: rest => some rest
    | ',' :: rest => ((passName rest).bind (passValue fuel)).bind (passFields fuel)
    | _ => none

end

/-! ## Forms -/

/-- Fuel for a descent into a text. -/
def fuelFor (cs : List Char) : Nat := 2 * cs.length + 2

/-- What stands after a name of a form: the field, if the name is a known one. -/
def formEntry (known : List String) (name : String) (cs : List Char) :
    Option (List (String × Json) × List Char) :=
  if known.contains name then
    (value (fuelFor cs) (maxDepth - 1) cs).map fun p => ([(name, p.1)], p.2)
  else (passValue (fuelFor cs) cs).map fun rest => ([], rest)

/-- One field of a form: a name, a colon and what stands after it. -/
def formField (known : List String) (cs : List Char) :
    Option (List (String × Json) × List Char) :=
  match skip cs with
  | '"' :: rest => do
    let (name, rest) ← textBody rest
    match skip rest with
    | ':' :: rest => formEntry known (String.ofList name) rest
    | _ => none
  | _ => none

/-- The fields of a form after one, up to the closing brace. -/
def moreFormFields (known : List String) :
    Nat → List Char → Option (List (String × Json) × List Char)
  | 0, _ => none
  | fuel + 1, cs =>
    match skip cs with
    | '}' :: rest => some ([], rest)
    | ',' :: rest => do
      let (here, rest) ← formField known rest
      let (after, rest) ← moreFormFields known fuel rest
      pure (here ++ after, rest)
    | _ => none

/-- The fields of a form whose opening brace is read already. -/
def formFields (known : List String) (cs : List Char) :
    Option (List (String × Json) × List Char) :=
  match skip cs with
  | '}' :: rest => some ([], rest)
  | rest => do
    let (here, rest) ← formField known rest
    let (after, rest) ← moreFormFields known (fuelFor rest) rest
    pure (here ++ after, rest)

/-- **The known fields of the form that a whole text spells**, or the value of a text that spells
no object. -/
def readForm (known : List String) (s : String) : Option Json :=
  match skip s.toList with
  | '{' :: rest => do
    let (fields, rest) ← formFields known rest
    if (skip rest).isEmpty then pure (.obj fields) else none
  | rest => readChars rest

end ShadowGate.Json
