import ShadowGate.Merge

/-!
# The registry of shadows

The shadows that are open, by id. What a registry does with an entry that comes or goes is its
`Retention`; the rest of the library works with any.
-/

namespace ShadowGate

/-- What a registry does with entries that come and go. -/
inductive Retention where
  /-- it keeps what is inserted and drops what is removed -/
  | exact
  /-- it keeps nothing -/
  | forgetful
  /-- it never drops anything -/
  | sticky
deriving DecidableEq, Repr, Inhabited

/-- The shadows that are open. -/
structure Registry where
  /-- what becomes of entries that come and go -/
  retention : Retention := .exact
  /-- the shadows by id -/
  shadows : SortedMap ShadowId Shadow := ∅
deriving Inhabited

namespace Registry

/-- The shadow with an id. -/
def get? (r : Registry) (id : ShadowId) : Option Shadow := r.shadows.get? id

/-- Register a shadow under an id. -/
def insert (r : Registry) (id : ShadowId) (s : Shadow) : Registry :=
  match r.retention with
  | .forgetful => r
  | _ => { r with shadows := r.shadows.insert id s }

/-- A registered shadow as it stands after a step; an id that is not registered stays so. -/
def update (r : Registry) (id : ShadowId) (s : Shadow) : Registry :=
  match r.get? id with
  | none => r
  | some _ => { r with shadows := r.shadows.insert id s }

/-- Take a shadow off the registry. -/
def remove (r : Registry) (id : ShadowId) : Registry :=
  match r.retention with
  | .sticky => r
  | _ => { r with shadows := r.shadows.erase id }

/-- The ids of the open shadows, in increasing order. -/
def ids (r : Registry) : List ShadowId := r.shadows.keys

/-- How many shadows are open. -/
def size (r : Registry) : Nat := r.shadows.size

/-! ### Look-ups -/

theorem get?_update_ne (r : Registry) {id other : ShadowId} (h : other ≠ id) (s : Shadow) :
    (r.update id s).get? other = r.get? other := by
  unfold update
  split
  · rfl
  · exact SortedMap.get?_insert_ne _ h _

theorem get?_update_self {r : Registry} {id : ShadowId} {old : Shadow} (h : r.get? id = some old)
    (s : Shadow) : (r.update id s).get? id = some s := by
  simp only [update, h]
  exact SortedMap.get?_insert_self _ _ _

/-- A shadow that a step leaves as it was leaves the registry as it was. -/
theorem update_of_get? {r : Registry} {id : ShadowId} {s : Shadow} (h : r.get? id = some s) :
    r.update id s = r := by
  have hs : r.shadows.insert id s = r.shadows := SortedMap.insert_of_get? h
  simp only [update, h, hs]

theorem get?_remove_ne (r : Registry) {id other : ShadowId} (h : other ≠ id) :
    (r.remove id).get? other = r.get? other := by
  unfold remove
  split
  · rfl
  · exact SortedMap.get?_erase_ne _ h

end Registry

end ShadowGate
