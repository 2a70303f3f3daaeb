import ShadowGate.Number.Literal

/-!
# Names that are assigned to

A name may be a **path**: a head, and after it steps into what the head holds. A step is a point
and a part of a name, or a whole number of 64 bits between brackets. A text that is no path is a
name as it stands.

* `SettingName.pathHead?` — the head of a path with at least one step.
-/

namespace ShadowGate.SettingName

/-- A character of a part of a name. -/
def isPartChar (c : Char) : Bool := c.isAlphanum || c = '_' || c = '-' || c = ' '

/-- A blank or a tab. -/
def isGap (c : Char) : Bool := c = ' ' || c = '\t'

/-- The sign that may open an index, and what follows. -/
def splitMinus : List Char → List Char × List Char
  | '-' :: rest => (['-'], rest)
  | cs => ([], cs)

/-- What follows an index and its closing bracket, the opening one being read already. -/
def afterIndex? (cs : List Char) : Option (List Char) :=
  let (sign, rest) := splitMinus (cs.dropWhile isGap)
  let (digits, rest) := Number.spanDigits rest
  if (Number.int64? (String.ofList (sign ++ digits))).isSome then
    match rest.dropWhile isGap with
    | ']' :: rest => some rest
    | _ => none
  else none

/-- What follows a part of a name. -/
def afterPart? (cs : List Char) : Option (List Char) :=
  if (cs.takeWhile isPartChar).isEmpty then none else some (cs.dropWhile isPartChar)

/-- What follows a step. -/
def afterStep? : List Char → Option (List Char)
  | '.' :: rest => afterPart? rest
  | '[' :: rest => afterIndex? rest
  | _ => none

/-- Whether a text is made of at most `fuel` steps. -/
def isSteps : Nat → List Char → Bool
  | _, [] => true
  | 0, _ :: _ => false
  | fuel + 1, cs =>
    match afterStep? cs with
    | some rest => isSteps fuel rest
    | none => false

/-- **The head of a path**, which has at least one step. -/
def pathHead? (name : String) : Option String :=
  let cs := name.toList
  match afterPart? cs with
  | none => none
  | some [] => none
  | some rest =>
    if isSteps rest.length rest then some (String.ofList (cs.takeWhile isPartChar)) else none

end ShadowGate.SettingName
