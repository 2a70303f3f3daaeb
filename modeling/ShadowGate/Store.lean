import ShadowGate.Change
import ShadowGate.Snapshot

/-!
# The live store

Named trees of records. The tree `state` holds the primary records; every other tree is
ancillary.

* `Store.put`, `Store.putIn`, `Store.apply` — the writers.
* `Store.read`, `Store.scan`, `Store.snapshot` — the readers. A record that does not decode is an
  error to `read`, invisible to `scan`, and copied as it stands by `snapshot`.
-/

namespace ShadowGate

/-- What can go wrong at the level of stored data. -/
inductive StoreError where
  /-- the files of a store cannot be used -/
  | storage (reason : String)
  /-- stored bytes that do not decode -/
  | serialization
  /-- a file or directory could not be used -/
  | io (reason : String)
  /-- settings that do not load -/
  | config
  /-- the store refuses for now -/
  | unavailable (reason : String)
deriving DecidableEq, Repr

namespace StoreError

/-- The wording of a store's error. -/
def message : StoreError → String
  | storage reason => "storage error: " ++ reason
  | serialization => "serialization error: stored bytes do not decode"
  | io reason => "io error: " ++ reason
  | config => "config error: settings do not load"
  | unavailable reason => "source unavailable: " ++ reason

end StoreError

/-- Named trees of records. -/
structure Store where
  /-- where the data lives, if it is durable -/
  path : Option String := none
  /-- the trees by name; a name that is missing names an empty tree -/
  trees : SortedMap String Tree := ∅
deriving DecidableEq, Inhabited

namespace Store

/-- A tree of the store. -/
def tree (s : Store) (name : String) : Tree := (s.trees.get? name).getD ∅

/-- The tree of primary records. -/
def state (s : Store) : Tree := s.tree stateTree

/-- Replace a tree. -/
def setTree (s : Store) (name : String) (t : Tree) : Store :=
  { s with trees := s.trees.insert name t }

/-- Store a value in a tree. -/
def putIn (s : Store) (name key : String) (value : Json) : Store :=
  s.setTree name ((s.tree name).put key value)

/-- Store a primary record. -/
def put (s : Store) (key : String) (value : Json) : Store := s.putIn stateTree key value

/-- Apply a change to the primary records. -/
def apply (s : Store) (e : ChangeEntry) : Store := s.setTree stateTree (e.mutation.apply s.state)

/-- The value of a primary record. -/
def read (s : Store) (key : String) : Except StoreError (Option Json) :=
  match s.state.bytesAt key with
  | none => .ok none
  | some bytes =>
    match Json.ofBytes? bytes with
    | some v => .ok (some v)
    | none => .error .serialization

/-- The primary records that decode, in key order. -/
def scan (s : Store) : List (String × Json) := s.state.decoded

/-- A copy of the primary records and of the ancillary trees. -/
def snapshot (s : Store) : Snapshot where
  source := s.path
  records := s.state
  ancillary := SortedMap.ofList (ancillaryTrees.map fun name => (name, s.tree name))

/-! ## Stores in documents -/

/-- A store as a value: its trees by name. -/
def toJson (s : Store) : Json := .obj (s.trees.toList.map fun p => (p.1, Tree.toJson p.2))

/-- A tree with its name, from a field of an object. -/
def namedTree? (f : String × Json) : Option (String × Tree) :=
  (Tree.ofJson? f.2).map fun t => (f.1, t)

/-- The store at a path whose trees a value lists. -/
def ofJson? (path : String) : Json → Option Store
  | .obj fields => do
    let trees ← fields.mapM namedTree?
    pure { path := some path, trees := SortedMap.ofList trees }
  | _ => none

/-! ### Trees after a write -/

@[simp] theorem tree_setTree_self (s : Store) (name : String) (t : Tree) :
    (s.setTree name t).tree name = t := by
  simp [tree, setTree]

theorem tree_setTree_ne (s : Store) {name other : String} (h : other ≠ name) (t : Tree) :
    (s.setTree name t).tree other = s.tree other := by
  simp [tree, setTree, SortedMap.get?_insert_ne _ h]

@[simp] theorem state_apply (s : Store) (e : ChangeEntry) :
    (s.apply e).state = e.mutation.apply s.state := by
  simp [state, apply]

end Store

end ShadowGate
