import ShadowGate.Text.Invisible

/-!
# Quoted text

A text between double quotes, written so that a reader sees every character of it.

* The quote and the backslash stand after a backslash; the commonest controls have a letter or a
  digit of their own.
* Any other character without a shape of its own is written by its number between braces.
* The apostrophe stands for itself.
-/

namespace ShadowGate.Text

/-- A character by its number. -/
def numbered (c : Char) : List Char :=
  ['\\', 'u', '\x7b'] ++ Nat.toDigits 16 c.toNat ++ ['\x7d']

/-- A character between quotes. -/
def quotedChar (c : Char) : List Char :=
  match c with
  | '"' => ['\\', '"']
  | '\\' => ['\\', '\\']
  | '\n' => ['\\', 'n']
  | '\r' => ['\\', 'r']
  | '\t' => ['\\', 't']
  | '\x00' => ['\\', '0']
  | _ => if isInvisible c then numbered c else [c]

/-- **A text between quotes.** -/
def quoted (s : String) : String :=
  "\"" ++ String.ofList (s.toList.flatMap quotedChar) ++ "\""

end ShadowGate.Text
