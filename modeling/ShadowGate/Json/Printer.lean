import ShadowGate.Json.Basic
import ShadowGate.Number.Shortest
import ShadowGate.Text.Bytes

/-!
# Compact text of a value

No blanks, fields in their order. Inside text only the quote, the backslash and the control
characters below the blank are escaped, by a letter where one exists and by four hexadecimal
digits otherwise.

* `Json.chars`, `Json.text` — the compact text.
* `Json.bytes` — its encoding, which is what a store holds.
* `Json.pretty` — one item a line, two blanks of indentation a level, as a report is shown.
-/

namespace ShadowGate.Json

/-- The escaped form of one character of a text. -/
def escapeChar (c : Char) : List Char :=
  if c = '"' then ['\\', '"']
  else if c = '\\' then ['\\', '\\']
  else if c = '\x08' then ['\\', 'b']
  else if c = '\x0c' then ['\\', 'f']
  else if c = '\n' then ['\\', 'n']
  else if c = '\r' then ['\\', 'r']
  else if c = '\t' then ['\\', 't']
  else if c.toNat < 0x20 then '\\' :: 'u' :: Text.hexDigits 4 c.toNat
  else [c]

/-- The escaped forms of a text's characters. -/
def escape : List Char → List Char
  | [] => []
  | c :: rest => escapeChar c ++ escape rest

/-- A text between quotes. -/
def quoted (s : String) : List Char := '"' :: (escape s.toList ++ ['"'])

mutual

/-- The compact text of a value. -/
def chars : Json → List Char
  | .null => ['n', 'u', 'l', 'l']
  | .bool true => ['t', 'r', 'u', 'e']
  | .bool false => ['f', 'a', 'l', 's', 'e']
  | .int n => Number.intChars n
  | .float x => if x.isFinite then Number.floatChars x else ['n', 'u', 'l', 'l']
  | .str s => quoted s
  | .arr [] => ['[', ']']
  | .arr (v :: rest) => '[' :: (chars v ++ charsItems rest)
  | .obj [] => ['{', '}']
  | .obj ((name, v) :: rest) => '{' :: (quoted name ++ ':' :: (chars v ++ charsFields rest))

/-- Items after the first, and the closing bracket. -/
def charsItems : List Json → List Char
  | [] => [']']
  | v :: rest => ',' :: (chars v ++ charsItems rest)

/-- Fields after the first, and the closing brace. -/
def charsFields : List (String × Json) → List Char
  | [] => ['}']
  | (name, v) :: rest => ',' :: (quoted name ++ ':' :: (chars v ++ charsFields rest))

end

/-- **The compact text** of a value. -/
def text (v : Json) : String := String.ofList v.chars

/-- The encoding of the compact text. -/
def bytes (v : Json) : Bytes := Text.toBytes v.text

/-! ## Indented text -/

/-- A line break and the indentation of a level. -/
def lineBreak (level : Nat) : List Char := '\n' :: List.replicate (2 * level) ' '

mutual

/-- The indented text of a value that stands at a level. -/
def prettyAt (level : Nat) : Json → List Char
  | .arr [] => ['[', ']']
  | .arr (v :: rest) =>
    '[' :: (lineBreak (level + 1) ++ prettyAt (level + 1) v ++ prettyItems level rest)
  | .obj [] => ['{', '}']
  | .obj ((name, v) :: rest) =>
    '{' :: (lineBreak (level + 1) ++ quoted name ++ ':' :: ' ' :: prettyAt (level + 1) v
      ++ prettyFields level rest)
  | other => chars other

/-- Items after the first. -/
def prettyItems (level : Nat) : List Json → List Char
  | [] => lineBreak level ++ [']']
  | v :: rest =>
    ',' :: (lineBreak (level + 1) ++ prettyAt (level + 1) v ++ prettyItems level rest)

/-- Fields after the first. -/
def prettyFields (level : Nat) : List (String × Json) → List Char
  | [] => lineBreak level ++ ['}']
  | (name, v) :: rest =>
    ',' :: (lineBreak (level + 1) ++ quoted name ++ ':' :: ' ' :: prettyAt (level + 1) v
      ++ prettyFields level rest)

end

/-- The indented text of a value. -/
def pretty (v : Json) : String := String.ofList (prettyAt 0 v)

end ShadowGate.Json
