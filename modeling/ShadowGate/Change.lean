import ShadowGate.Tree

/-!
# Changes

A change carries a payload; its **mutation** is what it does to a tree of records, the same in a
private copy as in the live store.

* A payload with a text under `key` removes that key if `op` is `delete`; otherwise it puts what
  stands under `value`, or the whole payload where there is no `value`.
* Any other payload is put, whole, at the change's type and number.
* Applying a mutation hands back an `Undo`: the key and what was there before.
* `applyAll` applies a list of changes in order; `rollForward` does so keeping the undo records,
  and `revertAll` takes them back, the last one first.
-/

namespace ShadowGate

/-- One logged change. -/
structure ChangeEntry where
  /-- its number in its log -/
  id : Nat
  /-- what kind of change it is, free-form -/
  kind : String
  /-- the payload -/
  data : Json
deriving Inhabited

/-- What a change does to a tree. -/
inductive Mutation where
  /-- store a value under a key -/
  | put (key : String) (value : Json)
  /-- forget a key -/
  | remove (key : String)
deriving Inhabited

/-- The key and previous bytes of a record that a mutation touched. -/
structure Undo where
  /-- the key touched -/
  key : String
  /-- what was stored there before -/
  previous : Option Bytes
deriving DecidableEq

namespace Mutation

/-- The key that a mutation touches. -/
def key : Mutation → String
  | put k _ => k
  | remove k => k

/-- At most eighty characters: a longer text is cut to seventy-seven and three dots. -/
def shorten (cs : List Char) : List Char :=
  if 80 < cs.length then cs.take 77 ++ ['.', '.', '.'] else cs

/-- A short description, for audit trails and insights. -/
def describe : Mutation → String
  | put k v => "set '" ++ k ++ "' to " ++ String.ofList (shorten v.chars)
  | remove k => "remove '" ++ k ++ "'"

/-- A mutation as a value, with its key and its description. -/
def toJson (m : Mutation) : Json :=
  let effect : String × Json :=
    match m with
    | put k v => ("put", .arr [.str k, v])
    | remove k => ("remove", .str k)
  Json.object [effect, ("key", .str m.key), ("describe", .str m.describe)]

/-- The tree after the mutation. -/
def apply (m : Mutation) (t : Tree) : Tree :=
  match m with
  | put k v => t.put k v
  | remove k => t.remove k

/-- What takes the mutation back, read off the tree before it. -/
def undo (m : Mutation) (t : Tree) : Undo := ⟨m.key, t.bytesAt m.key⟩

end Mutation

namespace Undo

/-- The tree with the touched record as it was. -/
def revert (u : Undo) (t : Tree) : Tree :=
  match u.previous with
  | some bytes => t.insert (Text.toBytes u.key) bytes
  | none => t.erase (Text.toBytes u.key)

end Undo

namespace ChangeEntry

/-- The key that the payload names, if it names one. -/
def payloadKey (e : ChangeEntry) : Option String := (e.data.get? "key").bind Json.str?

/-- The key of a change whose payload names none. -/
def ownKey (e : ChangeEntry) : String := e.kind ++ "/" ++ Number.natText e.id

/-- **The mutation of a change.** -/
def mutation (e : ChangeEntry) : Mutation :=
  match e.payloadKey with
  | some key =>
    if (e.data.get? "op").bind Json.str? = some "delete" then .remove key
    else .put key ((e.data.get? "value").getD e.data)
  | none => .put e.ownKey e.data

/-- A change as a value. -/
def toJson (e : ChangeEntry) : Json :=
  Json.object [("id", .ofNat e.id), ("change_type", .str e.kind), ("data", e.data)]

end ChangeEntry

/-! ## Journals -/

namespace Tree

/-- Apply the mutations of changes, in order. -/
def applyAll (t : Tree) (log : List ChangeEntry) : Tree :=
  log.foldl (fun t e => e.mutation.apply t) t

/-- Apply the mutations of changes, in order, and keep what takes each back, the latest first. -/
def rollForward (t : Tree) (log : List ChangeEntry) : Tree × List Undo :=
  log.foldl (fun (s : Tree × List Undo) e =>
    (e.mutation.apply s.1, e.mutation.undo s.1 :: s.2)) (t, [])

/-- Take changes back, the latest first. -/
def revertAll (t : Tree) (undos : List Undo) : Tree :=
  undos.foldl (fun t u => u.revert t) t

end Tree

end ShadowGate
