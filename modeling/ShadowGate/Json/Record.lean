import ShadowGate.Json.Basic

/-!
# Records in documents

How records and tags are written as values.

* A record is an object of its fields, unknown ones being ignored, or a list of them in order. A
  list may stop early where the fields left out have defaults, and may not be longer than the
  record.
* A **required** field must be there; a field **with a default** may be missing, but not null; an
  **optional** field may be missing from an object, or null.
* A tag is its text, or an object with that text as its one name and null under it.
-/

namespace ShadowGate.Json

/-- The fields of a record, by name or by position. -/
inductive Row where
  /-- an object's fields -/
  | named (fields : List (String × Json))
  /-- a list's items, in the order of the record's fields -/
  | listed (items : List Json)

namespace Row

/-- The fields of a record with `width` fields. -/
def ofJson? (width : Nat) : Json → Option Row
  | .obj fields => some (.named fields)
  | .arr items => if items.length ≤ width then some (.listed items) else none
  | _ => none

/-- The value of the field with this position and name. -/
def at? (row : Row) (position : Nat) (name : String) : Option Json :=
  match row with
  | .named fields => findPair name fields
  | .listed items => items[position]?

variable {α : Type}

/-- A field that must be there. -/
def required (row : Row) (position : Nat) (name : String) (decode : Json → Option α) : Option α :=
  (row.at? position name).bind decode

/-- A field that stands for `fallback` when it is missing. -/
def withDefault (row : Row) (position : Nat) (name : String) (fallback : α)
    (decode : Json → Option α) : Option α :=
  match row.at? position name with
  | none => some fallback
  | some v => decode v

/-- A field that may be null, and may be missing from an object. -/
def optional (row : Row) (position : Nat) (name : String) (decode : Json → Option α) :
    Option (Option α) :=
  match row, row.at? position name with
  | .named _, none => some none
  | .listed _, none => none
  | _, some .null => some none
  | _, some v => (decode v).map some

end Row

variable {α : Type}

/-- A value that null leaves absent. -/
def option? (decode : Json → Option α) : Json → Option (Option α)
  | .null => some none
  | v => (decode v).map some

/-- Decode every item, or none. -/
def decodeItems (decode : Json → Option α) : List Json → Option (List α)
  | [] => some []
  | v :: rest => do
    let a ← decode v
    let tail ← decodeItems decode rest
    pure (a :: tail)

/-- A list of decoded items. -/
def list? (decode : Json → Option α) : Json → Option (List α)
  | .arr items => decodeItems decode items
  | _ => none

/-- The text of a tag. -/
def tag? : Json → Option String
  | .str s => some s
  | .obj [(s, .null)] => some s
  | _ => none

/-- The case of a finite type that a tag names. -/
def oneOf (all : List α) (tag : α → String) (v : Json) : Option α :=
  (tag? v).bind fun s => all.find? fun a => tag a == s

/-! ### Items -/

theorem decodeItems_map {encode : α → Json} {decode : Json → Option α} {items : List α}
    (h : ∀ a ∈ items, decode (encode a) = some a) :
    decodeItems decode (items.map encode) = some items := by
  induction items with
  | nil => rfl
  | cons a rest ih =>
    have ha := h a (List.mem_cons_self ..)
    have hrest := ih fun b hb => h b (List.mem_cons_of_mem _ hb)
    simp [decodeItems, ha, hrest]

end ShadowGate.Json
