import ShadowGate.SortedMap
import ShadowGate.Json.Reader
import ShadowGate.Json.Record

/-!
# Trees of records

A tree maps byte keys to byte values and lists its records in byte order of the keys. Text keys
and data values enter it as UTF-8 and as compact text.

* `Tree.toJson`, `Tree.ofJson?` — a tree as the list of its records. Bytes are written as the text
  they encode, or else as hexadecimal digits.
-/

namespace ShadowGate

/-- Byte records in key order. -/
abbrev Tree : Type := SortedMap Bytes Bytes

namespace Tree

/-- Store a value under a text key. -/
def put (t : Tree) (key : String) (value : Json) : Tree := t.insert (Text.toBytes key) value.bytes

/-- Forget a text key. -/
def remove (t : Tree) (key : String) : Tree := t.erase (Text.toBytes key)

/-- The bytes under a text key. -/
def bytesAt (t : Tree) (key : String) : Option Bytes := t.get? (Text.toBytes key)

/-- A record as text and value, if both decode. -/
def decodeRecord (r : Bytes × Bytes) : Option (String × Json) := do
  let key ← Text.ofBytes? r.1
  let value ← Json.ofBytes? r.2
  pure (key, value)

/-- The records that decode, in key order. -/
def decoded (t : Tree) : List (String × Json) := t.toList.filterMap decodeRecord

/-! ## Records in documents -/

/-- Bytes as a value: a text if they encode one, else hexadecimal digits. -/
def bytesJson (bytes : Bytes) : Json :=
  match Text.ofBytes? bytes with
  | some s => .str s
  | none => .obj [("hex", .str (Text.hexText bytes))]

/-- The bytes that a value spells. -/
def bytes? : Json → Option Bytes
  | .str s => some (Text.toBytes s)
  | v => ((v.get? "hex").bind Json.str?).bind Text.ofHex?

/-- The record that a value spells: a list of key and value. -/
def record? : Json → Option (Bytes × Bytes)
  | .arr [key, value] => do
    let key ← bytes? key
    let value ← bytes? value
    pure (key, value)
  | _ => none

/-- The tree as the list of its records, in key order. -/
def toJson (t : Tree) : Json :=
  Json.ofList (fun r => .arr [bytesJson r.1, bytesJson r.2]) t.toList

/-- The tree that a list of records spells; of equal keys the last counts. -/
def ofJson? (v : Json) : Option Tree := (Json.list? record? v).map SortedMap.ofList

end Tree

end ShadowGate
