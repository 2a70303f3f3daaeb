import ShadowGate.SortedMap
import ShadowGate.Number.Double

/-!
# Data documents

The dynamic values that proposals, change payloads and stored records carry.

* `Json` — null, truth values, whole numbers, doubles, text, lists and objects. A whole number
  lies between `-2^63` and `2^64 - 1`; everything else numeric is a double.
* An object's fields are in increasing order of their names, each name once: `Json.Normal`.
  `Json.normalize` brings any value into that form, the last of several equal names winning.
* `Json.get?` — a field of an object.
-/

namespace ShadowGate

/-- A dynamic value. -/
inductive Json where
  /-- the absent value -/
  | null
  /-- a truth value -/
  | bool (value : Bool)
  /-- a whole number -/
  | int (value : Int)
  /-- a double -/
  | float (value : Float)
  /-- a text -/
  | str (value : String)
  /-- a list -/
  | arr (items : List Json)
  /-- named fields -/
  | obj (fields : List (String × Json))
deriving Inhabited

namespace Json

/-- An object from fields in any order; of equal names the last counts. -/
def object (fields : List (String × Json)) : Json :=
  .obj (fields.foldl (fun acc f => insertPair f.1 f.2 acc) [])

mutual

/-- Sort the fields of every object, keeping the last of equal names. -/
def normalize : Json → Json
  | .arr items => .arr (normalizeItems items)
  | .obj fields => object (normalizeFields fields)
  | other => other

/-- `normalize` on every item. -/
def normalizeItems : List Json → List Json
  | [] => []
  | v :: rest => normalize v :: normalizeItems rest

/-- `normalize` on every field's value. -/
def normalizeFields : List (String × Json) → List (String × Json)
  | [] => []
  | (name, v) :: rest => (name, normalize v) :: normalizeFields rest

end

mutual

/-- Every object's names strictly increase. -/
def Normal : Json → Prop
  | .arr items => NormalItems items
  | .obj fields => KeySorted fields ∧ NormalFields fields
  | _ => True

/-- `Normal` for every item. -/
def NormalItems : List Json → Prop
  | [] => True
  | v :: rest => Normal v ∧ NormalItems rest

/-- `Normal` for every field's value. -/
def NormalFields : List (String × Json) → Prop
  | [] => True
  | (_, v) :: rest => Normal v ∧ NormalFields rest

end

/-- The value of an object's field; other values have no fields. -/
def get? (v : Json) (name : String) : Option Json :=
  match v with
  | .obj fields => findPair name fields
  | _ => none

/-- The text, of a value that is one. -/
def str? : Json → Option String
  | .str s => some s
  | _ => none

/-- The truth value, of a value that is one. -/
def bool? : Json → Option Bool
  | .bool b => some b
  | _ => none

/-- Any number as a double. -/
def float? : Json → Option Float
  | .int n => some (Float.ofInt n)
  | .float x => some x
  | _ => none

/-- A whole number that fits 64 bits without a sign. -/
def nat? : Json → Option Nat
  | .int n => if 0 ≤ n ∧ n < Number.nat64Bound then some n.toNat else none
  | _ => none

/-- A double as a value: null unless it is finite. -/
def ofFloat (x : Float) : Json := if x.isFinite then .float x else .null

/-- A natural number as a value. -/
def ofNat (n : Nat) : Json := .int n

/-- A value that may be absent. -/
def ofOption {α : Type} (encode : α → Json) : Option α → Json
  | none => .null
  | some a => encode a

/-- A list of values. -/
def ofList {α : Type} (encode : α → Json) (items : List α) : Json := .arr (items.map encode)

end Json

end ShadowGate
