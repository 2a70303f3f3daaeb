/-!
# Bytes

Keys and values of a tree are byte sequences. Text becomes bytes as UTF-8; the way back exists
only for valid UTF-8.

* `toBytes`, `ofBytes?` — `ofBytes?_toBytes`: decoding what was encoded gives it back.
* `hexText`, `ofHex?` — two lower-case hexadecimal digits per byte.
-/

namespace ShadowGate

/-- A byte sequence. -/
abbrev Bytes : Type := List UInt8

namespace Text

/-- The UTF-8 encoding of a text. -/
def toBytes (s : String) : Bytes := s.toByteArray.data.toList

/-- The text that a byte sequence encodes, if it is valid UTF-8. -/
def ofBytes? (bytes : Bytes) : Option String := String.fromUTF8? ⟨bytes.toArray⟩

/-- Decoding an encoding gives the text back. -/
@[simp] theorem ofBytes?_toBytes (s : String) : ofBytes? (toBytes s) = some s := by
  have h : (⟨(toBytes s).toArray⟩ : ByteArray) = s.toByteArray := by simp [toBytes]
  rw [ofBytes?, h, String.fromUTF8?, dif_pos s.isValidUTF8]
  rfl

/-- Different texts have different encodings. -/
theorem toBytes_injective {s t : String} (h : toBytes s = toBytes t) : s = t := by
  have hs := ofBytes?_toBytes s
  rw [h, ofBytes?_toBytes] at hs
  exact (Option.some.inj hs).symm

/-- A hexadecimal digit. -/
def hexDigit (n : Nat) : Char :=
  if n < 10 then Char.ofNat ('0'.toNat + n) else Char.ofNat ('a'.toNat + (n - 10))

/-- The value of a hexadecimal digit of either case. -/
def hexValue? (c : Char) : Option Nat :=
  if '0' ≤ c ∧ c ≤ '9' then some (c.toNat - '0'.toNat)
  else if 'a' ≤ c ∧ c ≤ 'f' then some (c.toNat - 'a'.toNat + 10)
  else if 'A' ≤ c ∧ c ≤ 'F' then some (c.toNat - 'A'.toNat + 10)
  else none

/-- A number in `width` hexadecimal digits, the high ones dropped. -/
def hexDigits : Nat → Nat → List Char
  | 0, _ => []
  | width + 1, n => hexDigits width (n / 16) ++ [hexDigit (n % 16)]

/-- The number that hexadecimal digits spell. -/
def hexNumber? (cs : List Char) : Option Nat :=
  cs.foldl (fun acc c => do
    let n ← acc
    let d ← hexValue? c
    pure (16 * n + d)) (some 0)

/-- Two hexadecimal digits per byte. -/
def hexText (bytes : Bytes) : String :=
  String.ofList (bytes.flatMap fun b => hexDigits 2 b.toNat)

/-- The bytes of hexadecimal digits taken in pairs. -/
def ofHexChars? : List Char → Option Bytes
  | [] => some []
  | [_] => none
  | a :: b :: rest => do
    let hi ← hexValue? a
    let lo ← hexValue? b
    let tail ← ofHexChars? rest
    pure (UInt8.ofNat (16 * hi + lo) :: tail)

/-- The bytes that a hexadecimal text spells. -/
def ofHex? (s : String) : Option Bytes := ofHexChars? s.toList

end Text

end ShadowGate
