import ShadowGate.Settings.Value
import ShadowGate.Text.Bytes

/-!
# Settings files

A settings file has one assignment `name = value` to a line. Blanks around the parts, empty lines
and comments from `#` to the end of the line are skipped.

* A name is made of letters, digits, `_` and `-`, or is quoted; points divide it into parts. Capital
  letters of a name count as small ones.
* A value is `true` or `false`, a whole number, a double, or a text. Digits may be grouped by
  single underscores. A text between double quotes has escapes; one between single quotes has none.
* A name that was assigned to before, as a whole or in part, is a fault, as is anything that is not
  of this form: the whole file is refused.

Files of this kind may have more than that: tables under a heading or inline, arrays, dates, and
texts of several lines. No setting needs them, and they are refused here like any other fault.
-/

namespace ShadowGate.Settings.File

/-! ## Characters -/

/-- A blank or a tab. -/
def isBlank (c : Char) : Bool := c = ' ' || c = '\t'

/-- Skip blanks and tabs. -/
def skipBlanks (cs : List Char) : List Char := cs.dropWhile isBlank

/-- A control character other than a tab. -/
def isControl (c : Char) : Bool := (c.toNat < 0x20 && c != '\t') || c.toNat = 0x7f

/-- A character of a name that is not quoted. -/
def isNameChar (c : Char) : Bool := c.isAlphanum || c = '_' || c = '-'

/-- Whether nothing but a comment is left of a line. -/
def endsLine (cs : List Char) : Bool :=
  match skipBlanks cs with
  | [] => true
  | c :: rest => c = '#' && !rest.any isControl

/-! ## Texts -/

/-- What an escaped character stands for. -/
def escape? : Char → Option Char
  | 'b' => some '\x08'
  | 't' => some '\t'
  | 'n' => some '\n'
  | 'f' => some '\x0c'
  | 'r' => some '\r'
  | '"' => some '"'
  | '\\' => some '\\'
  | _ => none

/-- The character whose code hexadecimal digits spell. -/
def codePoint? (digits : List Char) : Option Char :=
  (Text.hexNumber? digits).bind fun n =>
    if n.isValidChar then some (Char.ofNat n) else none

/-- Put a character in front of what was read after it. -/
def consRead (c : Option Char) (tail : Option (List Char × List Char)) :
    Option (List Char × List Char) := do
  let c ← c
  let (text, rest) ← tail
  pure (c :: text, rest)

/-- A text up to its double quote, and what follows. -/
def quotedText : List Char → Option (List Char × List Char)
  | [] => none
  | '"' :: rest => some ([], rest)
  | '\\' :: 'u' :: a :: b :: c :: d :: rest => consRead (codePoint? [a, b, c, d]) (quotedText rest)
  | '\\' :: 'U' :: a :: b :: c :: d :: e :: f :: g :: h :: rest =>
    consRead (codePoint? [a, b, c, d, e, f, g, h]) (quotedText rest)
  | '\\' :: c :: rest => consRead (escape? c) (quotedText rest)
  | c :: rest => consRead (if isControl c then none else some c) (quotedText rest)

/-- A text up to its single quote, and what follows. -/
def literalText (cs : List Char) : Option (List Char × List Char) :=
  let text := cs.takeWhile (· != '\x27')
  match cs.dropWhile (· != '\x27') with
  | _ :: rest => if text.any isControl then none else some (text, rest)
  | [] => none

/-! ## Numbers -/

/-- Take out the underscores that stand between two digits. -/
def ungroup? (isDigit : Char → Bool) : List Char → Option (List Char)
  | [] => none
  | [c] => if isDigit c then some [c] else none
  | c :: '_' :: rest => if isDigit c then (ungroup? isDigit rest).map (c :: ·) else none
  | c :: rest => if isDigit c then (ungroup? isDigit rest).map (c :: ·) else none

/-- Decimal digits without a needless zero in front. -/
def wholeDigits? (cs : List Char) : Option (List Char) :=
  match ungroup? Number.isDigit cs with
  | some ('0' :: _ :: _) => none
  | digits => digits

/-- The number that digits of a base spell. -/
def inBase? (base : Nat) (cs : List Char) : Option Int := do
  let isDigit (c : Char) : Bool := (Text.hexValue? c).any (· < base)
  let digits ← ungroup? isDigit cs
  pure (digits.foldl (fun (n : Nat) c => base * n + (Text.hexValue? c).getD 0) 0 : Nat)

/-- A whole number: decimal with an optional sign, or in base sixteen, eight or two. -/
def integer? (cs : List Char) : Option Int := do
  let n : Int ←
    match cs with
    | '0' :: 'x' :: rest => inBase? 16 rest
    | '0' :: 'o' :: rest => inBase? 8 rest
    | '0' :: 'b' :: rest => inBase? 2 rest
    | _ => do
      let (negative, digits) := Number.splitSign cs
      let digits ← wholeDigits? digits
      pure (if negative then -(Number.ofDigits digits : Int) else Number.ofDigits digits)
  if Number.int64Min ≤ n ∧ n ≤ Number.int64Max then some n else none

/-- The exponent of a double: an optional sign and digits. -/
def power? (cs : List Char) : Option Int := do
  let (negative, digits) := Number.splitSign cs
  let digits ← ungroup? Number.isDigit digits
  pure (if negative then -(Number.ofDigits digits : Int) else Number.ofDigits digits)

/-- The magnitude of a double: digits, then a fraction, an exponent, or both. -/
def magnitude? (cs : List Char) : Option Float := do
  let mantissa := cs.takeWhile (fun c => c != 'e' && c != 'E')
  let power ←
    match cs.dropWhile (fun c => c != 'e' && c != 'E') with
    | [] => some 0
    | _ :: rest => power? rest
  let whole ← wholeDigits? (mantissa.takeWhile (· != '.'))
  let fraction ←
    match mantissa.dropWhile (· != '.') with
    | [] => if mantissa.length = cs.length then none else some []
    | _ :: rest => ungroup? Number.isDigit rest
  let x := Number.nearest (Number.ofDigits (whole ++ fraction)) (power - fraction.length)
  pure x

/-- A double: an optional sign, then a magnitude or the name of an infinity or of the undefined
value. A magnitude beyond the range is refused unless its sign is negative. -/
def double? (cs : List Char) : Option Float := do
  let (negative, rest) := Number.splitSign cs
  let signed (x : Float) : Float := if negative then -x else x
  if rest = ['i', 'n', 'f'] then some (signed Number.infinity)
  else if rest = ['n', 'a', 'n'] then some (signed Number.undefined)
  else
    let x ← magnitude? rest
    if !negative && !x.isFinite then none else some (signed x)

/-! ## Lines -/

/-- A character of a value that is not quoted. -/
def isBareChar (c : Char) : Bool := isNameChar c || c = '+' || c = '.'

/-- A value that is not quoted. -/
def bareValue? (cs : List Char) : Option Setting :=
  if cs = ['t', 'r', 'u', 'e'] then some (.bool true)
  else if cs = ['f', 'a', 'l', 's', 'e'] then some (.bool false)
  else
    match integer? cs with
    | some n => some (.int n)
    | none => (double? cs).map .float

/-- A text or a bare value at the front, and what follows. -/
def value? : List Char → Option (Setting × List Char)
  | '"' :: rest => (quotedText rest).map fun r => (.text (String.ofList r.1), r.2)
  | '\x27' :: rest => (literalText rest).map fun r => (.text (String.ofList r.1), r.2)
  | cs => (bareValue? (cs.takeWhile isBareChar)).map fun v => (v, cs.dropWhile isBareChar)

/-- One part of a name at the front, and what follows. -/
def namePart? : List Char → Option (String × List Char)
  | '"' :: rest => (quotedText rest).map fun r => (String.ofList r.1, r.2)
  | '\x27' :: rest => (literalText rest).map fun r => (String.ofList r.1, r.2)
  | cs =>
    let part := cs.takeWhile isNameChar
    if part.isEmpty then none
    else some (String.ofList part, cs.dropWhile isNameChar)

/-- A name at the front, in at most `fuel` parts, and what follows. -/
def name? : Nat → List Char → Option (List String × List Char)
  | 0, _ => none
  | fuel + 1, cs => do
    let (part, rest) ← namePart? (skipBlanks cs)
    match skipBlanks rest with
    | '.' :: rest =>
      let (parts, rest) ← name? fuel rest
      pure (part :: parts, rest)
    | rest => pure ([part], rest)

/-- The assignment of a line. -/
def assignment? (cs : List Char) : Option (List String × Setting) := do
  let (parts, rest) ← name? (cs.length + 1) cs
  match rest with
  | '=' :: rest =>
    let (v, rest) ← value? (skipBlanks rest)
    if endsLine rest then some (parts, v) else none
  | _ => none

/-- The lines of a text, without what ends them. -/
def lines : List (List Char) → List (List Char)
  | [] => []
  | [last] => [last]
  | line :: rest =>
    (if line.getLast? = some '\r' then line.dropLast else line) :: lines rest

/-! ## Files -/

/-- Whether two names cannot both be assigned to: one is a part of the other. -/
def clash (p q : List String) : Bool := p.isPrefixOf q || q.isPrefixOf p

/-- Read lines, given the assignments before them. -/
def readLines (before : List (List String × Setting)) :
    List (List Char) → Option (List (List String × Setting))
  | [] => some before
  | line :: rest =>
    if endsLine line then readLines before rest
    else do
      let a ← assignment? line
      if before.any (fun b => clash a.1 b.1) then none else readLines (before ++ [a]) rest

/-- Enter one assignment; a name with several parts assigns a compound value to the first. -/
def enter (a : Assignments) : List String × Setting → Assignments
  | ([name], v) => a.assign (Text.lower name) v
  | (name :: _, _) => a.assign (Text.lower name) .compound
  | ([], _) => a

/-- A text without the mark that may open a file. -/
def dropMark : List Char → List Char
  | '\ufeff' :: rest => rest
  | cs => cs

/-- **The assignments of a settings file.** -/
def read (text : String) : Option Assignments := do
  let assignments ← readLines [] (lines (Text.pieces (· != '\n') (dropMark text.toList)))
  pure (assignments.foldl enter ∅)

end ShadowGate.Settings.File
