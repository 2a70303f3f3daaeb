import ShadowGate.Proofs.Tree
import ShadowGate.Shadow.Basic

/-!
# Rolling back

Every mutation leaves a note of what it overwrote. The notes of a log, taken from the last to the
first, bring a tree back to where it was, however often the log put, removed and put the same record
again.

* `Mutation.revert_undo` — one mutation and its note.
* `Tree.revertAll_rollForward` — **the notes of a whole log restore the tree**.
* `PrivateCopy.probe_eq` — a probe of the undo path therefore always succeeds, and leaves the copy
  without a scratch tree and otherwise as it was.
-/

namespace ShadowGate

/-! ## One mutation -/

namespace Undo

theorem get?_revert_self (u : Undo) (t : Tree) :
    (u.revert t).get? (Text.toBytes u.key) = u.previous := by
  rw [revert]
  cases u.previous with
  | some bytes => exact SortedMap.get?_insert_self _ _ _
  | none => exact SortedMap.get?_erase_self _ _

theorem get?_revert_ne (u : Undo) (t : Tree) {k : Bytes} (hk : k ≠ Text.toBytes u.key) :
    (u.revert t).get? k = t.get? k := by
  rw [revert]
  cases u.previous with
  | some bytes => exact SortedMap.get?_insert_ne _ hk _
  | none => exact SortedMap.get?_erase_ne _ hk

end Undo

/-- **A mutation's note takes it back.** -/
theorem Mutation.revert_undo (m : Mutation) (t : Tree) : (m.undo t).revert (m.apply t) = t := by
  refine SortedMap.ext_get? fun k => ?_
  by_cases hk : k = Text.toBytes m.key
  · subst hk
    exact (m.undo t).get?_revert_self _
  · rw [Undo.get?_revert_ne _ _ hk, get?_apply_ne _ _ hk]

/-! ## A log -/

namespace Tree

theorem revertAll_cons (t : Tree) (u : Undo) (undos : List Undo) :
    t.revertAll (u :: undos) = (u.revert t).revertAll undos := rfl

/-- Rolling forward with notes on hand: the tree goes on as the log has it, and the old and new
notes together take it to where the old ones would have. -/
theorem revertAll_rollForward_from (log : List ChangeEntry) (t : Tree) (undos : List Undo) :
    let rolled := log.foldl (fun (s : Tree × List Undo) e =>
      (e.mutation.apply s.1, e.mutation.undo s.1 :: s.2)) (t, undos)
    rolled.1 = t.applyAll log ∧ rolled.1.revertAll rolled.2 = t.revertAll undos := by
  induction log generalizing t undos with
  | nil => exact ⟨rfl, rfl⟩
  | cons e rest ih =>
    obtain ⟨happly, hrevert⟩ := ih (e.mutation.apply t) (e.mutation.undo t :: undos)
    refine ⟨happly, hrevert.trans ?_⟩
    rw [revertAll_cons, Mutation.revert_undo]

theorem rollForward_fst (t : Tree) (log : List ChangeEntry) :
    (t.rollForward log).1 = t.applyAll log :=
  (revertAll_rollForward_from log t []).1

/-- **The notes of a log, the latest first, restore the tree.** -/
theorem revertAll_rollForward (t : Tree) (log : List ChangeEntry) :
    (t.rollForward log).1.revertAll (t.rollForward log).2 = t :=
  (revertAll_rollForward_from log t []).2

end Tree

/-! ## Probes -/

namespace PrivateCopy

@[simp] theorem tree_setTree_self (c : PrivateCopy) (name : String) (t : Tree) :
    (c.setTree name t).tree name = t := by
  simp [tree, setTree]

@[simp] theorem dropProbe_setTree (c : PrivateCopy) (t : Tree) :
    (c.setTree probeTree t).dropProbe = c.dropProbe := by
  simp [dropProbe, setTree]

theorem get?_dropProbe (c : PrivateCopy) : c.dropProbe.trees.get? probeTree = none :=
  SortedMap.get?_erase_self _ _

/-- A copy without a scratch tree has none to drop. -/
theorem dropProbe_of_get?_eq_none {c : PrivateCopy} (hc : c.trees.get? probeTree = none) :
    c.dropProbe = c := by
  rw [dropProbe, SortedMap.erase_of_get?_eq_none hc]

/-- **A probe succeeds**, whatever the records and the changes, and drops its scratch tree. -/
theorem probe_eq (c : PrivateCopy) (records : Tree) (log : List ChangeEntry) :
    c.probe records log = (true, c.dropProbe) := by
  have hdropped : c.dropProbe.dropProbe = c.dropProbe := dropProbe_of_get?_eq_none c.get?_dropProbe
  simp only [probe, tree_setTree_self, Tree.revertAll_rollForward, dropProbe_setTree, hdropped,
    beq_self_eq_true]

end PrivateCopy

end ShadowGate
