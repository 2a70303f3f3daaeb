import ShadowGate.Json.Record
import ShadowGate.Proofs.Number.Whole
import ShadowGate.Proofs.SortedMap

/-!
# Values that are written and read back

A writer and a reader of a type agree if what is written is read back, and if what is read can be
written. The second needs that a value holds no numbers but those of documents: whole numbers of 64
bits, and doubles that are finite.

* `Json.Writable` — the values of documents.
* `Json.Faithful` — **a writer and a reader that agree**; `Json.Faithful.again` is what follows for
  whatever a reader accepts.
* `Json.faithful_float`, `Json.faithful_nat`, `Json.faithful_list` — the fields of records;
  `Json.Fits` is what their numbers have to be.
* `Json.written` — a record as its writer leaves it, and what a reader finds in each of its fields.
-/

namespace ShadowGate.Json

/-! ## Values of documents -/

mutual

/-- **Every number is one that a document can hold**: a whole number of 64 bits, with a sign or
without, or a finite double. -/
def Writable : Json → Prop
  | .int n => -2 ^ 63 ≤ n ∧ n < 2 ^ 64
  | .float x => x.isFinite = true
  | .arr items => WritableItems items
  | .obj fields => WritableFields fields
  | _ => True

/-- `Writable` for every item. -/
def WritableItems : List Json → Prop
  | [] => True
  | v :: rest => Writable v ∧ WritableItems rest

/-- `Writable` for every field's value. -/
def WritableFields : List (String × Json) → Prop
  | [] => True
  | (_, v) :: rest => Writable v ∧ WritableFields rest

end

theorem WritableItems.of_mem {items : List Json} (h : WritableItems items) {v : Json}
    (hv : v ∈ items) : v.Writable := by
  induction items with
  | nil => cases hv
  | cons first rest ih =>
    obtain ⟨hfirst, hrest⟩ := h
    rcases List.mem_cons.mp hv with rfl | hv
    · exact hfirst
    · exact ih hrest hv

theorem WritableFields.of_mem {fields : List (String × Json)} (h : WritableFields fields)
    {f : String × Json} (hf : f ∈ fields) : f.2.Writable := by
  induction fields with
  | nil => cases hf
  | cons first rest ih =>
    obtain ⟨hfirst, hrest⟩ := h
    rcases List.mem_cons.mp hf with rfl | hf
    · exact hfirst
    · exact ih hrest hf

namespace Row

/-- Every field of the row is a value of a document. -/
def Writable : Row → Prop
  | .named fields => WritableFields fields
  | .listed items => WritableItems items

theorem writable_of_ofJson? {width : Nat} {v : Json} {row : Row} (hv : v.Writable)
    (hrow : ofJson? width v = some row) : row.Writable := by
  cases v with
  | obj fields =>
    obtain rfl := Option.some.inj hrow
    exact hv
  | arr items =>
    simp only [ofJson?] at hrow
    split at hrow
    · obtain rfl := Option.some.inj hrow
      exact hv
    · cases hrow
  | _ => cases hrow

theorem Writable.at? {row : Row} (h : row.Writable) {position : Nat} {name : String} {v : Json}
    (hv : row.at? position name = some v) : v.Writable := by
  cases row with
  | named fields => exact WritableFields.of_mem h (mem_of_findPair hv)
  | listed items => exact WritableItems.of_mem h (List.mem_of_getElem? hv)

end Row

/-! ## Writers and readers -/

variable {α : Type} {Sound : α → Prop} {encode : α → Json} {decode : Json → Option α}

/-- **A writer and a reader that agree** on what is sound: it is read back as it was, and nothing
else is ever read from a document. -/
structure Faithful (Sound : α → Prop) (encode : α → Json) (decode : Json → Option α) : Prop where
  /-- what is written is read back -/
  back : ∀ a, Sound a → decode (encode a) = some a
  /-- what is read from a document is sound -/
  sound : ∀ v a, v.Writable → decode v = some a → Sound a

/-- **What is read can be written and read again.** -/
theorem Faithful.again (h : Faithful Sound encode decode) {v : Json} (hv : v.Writable) {a : α}
    (ha : decode v = some a) : decode (encode a) = some a :=
  h.back a (h.sound v a hv ha)

/-! ### Steps of a reader -/

section Steps

variable {β γ : Type} {o : Option β} {f : β → Option γ}

/-- **A reader that succeeds** succeeds at every step. -/
theorem bind_eq_some {c : γ} : (o >>= f) = some c ↔ ∃ b, o = some b ∧ f b = some c :=
  Option.bind_eq_some_iff

-- This and the equations of records below are not proved by `rfl`: a step that simp takes by
-- definition is checked by unfolding, down to the bounds of counts.
@[simp] theorem some_bind (b : β) (f : β → Option γ) : (some b >>= f) = f b := by
  rw [Option.bind_eq_bind, Option.bind_some]

end Steps

/-! ### Fields of a row -/

namespace Faithful

variable {row : Row} {position : Nat} {name : String} {a : α}

theorem required (h : Faithful Sound encode decode) (hrow : row.Writable)
    (ha : row.required position name decode = some a) : Sound a := by
  obtain ⟨v, hv, hdecode⟩ := Option.bind_eq_some_iff.mp ha
  exact h.sound v a (hrow.at? hv) hdecode

theorem withDefault (h : Faithful Sound encode decode) (hrow : row.Writable) {fallback : α}
    (hfallback : Sound fallback)
    (ha : row.withDefault position name fallback decode = some a) : Sound a := by
  rw [Row.withDefault] at ha
  split at ha
  · obtain rfl := Option.some.inj ha
    exact hfallback
  · rename_i v hv
    exact h.sound v a (hrow.at? hv) ha

end Faithful

/-! ### Numbers -/

@[simp] theorem str?_str (s : String) : (Json.str s).str? = some s := rfl

@[simp] theorem bool?_bool (b : Bool) : (Json.bool b).bool? = some b := rfl

theorem float?_ofFloat {x : Float} (hx : x.isFinite = true) : (ofFloat x).float? = some x := by
  rw [ofFloat, if_pos hx]
  rfl

theorem nat?_ofNat {n : Nat} (hn : n < Number.nat64Bound) : (ofNat n).nat? = some n := by
  simp [ofNat, nat?, hn]

/-- **Doubles**: the finite ones, which whole numbers of documents are too. -/
theorem faithful_float : Faithful (fun x : Float => x.isFinite = true) ofFloat float? where
  back _ := float?_ofFloat
  sound v x hv hx := by
    cases v with
    | int n =>
      obtain rfl := Option.some.inj hx
      exact Number.isFinite_ofInt hv.1 hv.2
    | float y =>
      obtain rfl := Option.some.inj hx
      exact hv
    | _ => cases hx

/-- **Counts**: those that fit 64 bits. -/
theorem faithful_nat : Faithful (· < Number.nat64Bound) ofNat nat? where
  back _ := nat?_ofNat
  sound v n _ hn := by
    cases v with
    | int z =>
      simp only [nat?] at hn
      split at hn
      · obtain rfl := Option.some.inj hn
        omega
      · cases hn
    | _ => cases hn

/-- **The numbers of a record can be written**: its doubles are finite, and its counts fit 64
bits. -/
def Fits (floats : List Float) (counts : List Nat) : Prop :=
  (∀ x ∈ floats, x.isFinite = true) ∧ ∀ n ∈ counts, n < Number.nat64Bound

/-! ### Lists -/

section Items

variable {β γ : Type} {f : β → Option γ} {l : List β} {r : List γ}

theorem mapM_cons_eq_some {b : β} :
    (b :: l).mapM f = some r ↔
      ∃ c, f b = some c ∧ ∃ tail, l.mapM f = some tail ∧ c :: tail = r := by
  simp [List.mapM_cons, Option.bind_eq_some_iff]

/-- What is read from a list is read item by item. -/
theorem mem_of_mapM (h : l.mapM f = some r) {c : γ} (hc : c ∈ r) : ∃ b ∈ l, f b = some c := by
  induction l generalizing r with
  | nil =>
    obtain rfl : [] = r := by simpa using h
    cases hc
  | cons b l ih =>
    obtain ⟨first, hfirst, tail, htail, rfl⟩ := mapM_cons_eq_some.mp h
    rcases List.mem_cons.mp hc with rfl | hc
    · exact ⟨b, List.mem_cons_self .., hfirst⟩
    · obtain ⟨b', hb', hread⟩ := ih htail hc
      exact ⟨b', List.mem_cons_of_mem _ hb', hread⟩

/-- **The order of the items** is the order of what is read. -/
theorem mapM_perm {l' : List β} (hperm : l'.Perm l) (h : l.mapM f = some r) :
    ∃ r', l'.mapM f = some r' ∧ r'.Perm r := by
  induction hperm generalizing r with
  | nil => exact ⟨r, h, .refl _⟩
  | cons b _ ih =>
    obtain ⟨first, hfirst, tail, htail, rfl⟩ := mapM_cons_eq_some.mp h
    obtain ⟨tail', htail', hsame⟩ := ih htail
    exact ⟨first :: tail', mapM_cons_eq_some.mpr ⟨first, hfirst, tail', htail', rfl⟩, hsame.cons _⟩
  | swap b b' rest =>
    obtain ⟨c, hc, tail, htail, rfl⟩ := mapM_cons_eq_some.mp h
    obtain ⟨c', hc', tail', htail', rfl⟩ := mapM_cons_eq_some.mp htail
    refine ⟨c' :: c :: tail', ?_, .swap ..⟩
    exact mapM_cons_eq_some.mpr ⟨c', hc', c :: tail',
      mapM_cons_eq_some.mpr ⟨c, hc, tail', htail', rfl⟩, rfl⟩
  | trans _ _ ih ih' =>
    obtain ⟨r', hr', hsame⟩ := ih' h
    obtain ⟨r'', hr'', hsame'⟩ := ih hr'
    exact ⟨r'', hr'', hsame'.trans hsame⟩

/-- Items that are read back one by one are read back together. -/
theorem mapM_map {write : γ → β} (h : ∀ c ∈ r, f (write c) = some c) :
    (r.map write).mapM f = some r := by
  induction r with
  | nil => rfl
  | cons c r ih =>
    exact mapM_cons_eq_some.mpr ⟨c, h c (List.mem_cons_self ..), r,
      ih fun d hd => h d (List.mem_cons_of_mem _ hd), rfl⟩

end Items

theorem decodeItems_eq_mapM (items : List Json) : decodeItems decode items = items.mapM decode := by
  induction items with
  | nil => rfl
  | cons v rest ih => rw [decodeItems, ih, List.mapM_cons]

/-- **Lists**: those of sound items. -/
theorem faithful_list (h : Faithful Sound encode decode) :
    Faithful (fun as => ∀ a ∈ as, Sound a) (ofList encode) (list? decode) where
  back as has := decodeItems_map fun a ha => h.back a (has a ha)
  sound v as hv has := by
    cases v with
    | arr items =>
      intro a ha
      rw [list?, decodeItems_eq_mapM] at has
      obtain ⟨w, hw, hdecode⟩ := mem_of_mapM has ha
      exact h.sound w a (WritableItems.of_mem hv hw) hdecode
    | _ => cases has

@[simp] theorem list?_ofList_str (texts : List String) :
    list? str? (ofList .str texts) = some texts := decodeItems_map fun _ _ => rfl

/-! ## Records -/

/-- A record as its writer leaves it, from its fields in the order of the record. -/
def written (fields : List (String × Json)) : Row :=
  .named (fields.foldl (fun acc f => insertPair f.1 f.2 acc) [])

@[simp] theorem ofJson?_object (width : Nat) (fields : List (String × Json)) :
    Row.ofJson? width (object fields) = some (written fields) := by
  rw [object, Row.ofJson?, written]

/-- What a reader makes of a field: `missing` stands in for one that is not there. -/
def readField (decode : Json → Option α) (missing : Option α) : Option Json → Option α
  | none => missing
  | some v => decode v

@[simp] theorem readField_some (decode : Json → Option α) (missing : Option α) (v : Json) :
    readField decode missing (some v) = decode v := by
  rw [readField]

@[simp] theorem readField_none (decode : Json → Option α) (missing : Option α) :
    readField decode missing none = missing := by
  rw [readField]

theorem option?_of_ne_null {v : Json} (hv : v ≠ .null) :
    option? decode v = (decode v).map some := by
  cases v with
  | null => exact absurd rfl hv
  | _ => rfl

section Written

variable (fields : List (String × Json)) (position : Nat) (name : String)

/-- **What a reader finds in a record**: the field of that name. -/
theorem at?_written : (written fields).at? position name = findPair name fields.reverse := by
  rw [written, Row.at?, findPair_foldl_insertPair]
  exact Option.or_none

@[simp] theorem required_written (decode : Json → Option α) :
    (written fields).required position name decode =
      readField decode none (findPair name fields.reverse) := by
  rw [Row.required, at?_written]
  cases findPair name fields.reverse <;> rfl

@[simp] theorem withDefault_written (fallback : α) (decode : Json → Option α) :
    (written fields).withDefault position name fallback decode =
      readField decode (some fallback) (findPair name fields.reverse) := by
  rw [Row.withDefault, at?_written]
  cases findPair name fields.reverse <;> rfl

@[simp] theorem optional_written (decode : Json → Option α) :
    (written fields).optional position name decode =
      readField (option? decode) (some none) (findPair name fields.reverse) := by
  have hfound := at?_written fields position name
  rw [Row.optional.eq_def]
  rw [written] at hfound ⊢
  rw [hfound]
  cases findPair name fields.reverse with
  | none => rfl
  | some v => cases v <;> rfl

end Written

end ShadowGate.Json
