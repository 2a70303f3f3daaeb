/-!
# Sorted maps

A finite map kept as a list of pairs in strictly increasing key order. The list *is* the map's
view: two maps with the same look-ups have the same list, so equality of maps is equality of
contents, and iteration order is key order by construction.

* `SortedMap.insert` — one pass, replacing the value of a key that is present.
* `SortedMap.erase`, `SortedMap.get?`, `SortedMap.ofList` — the last pair of a repeated key wins.
* `get?_insert_self`, `get?_insert_ne`, `get?_erase_self`, `get?_erase_ne` — what each operation
  does to look-ups.
* `SortedMap.ext_get?` — **extensionality**: look-ups determine the map.
-/

namespace ShadowGate

universe u v

variable {κ : Type u} {α : Type v} [Ord κ]

/-! ## Association lists -/

/-- Insert a pair into a list of pairs in key order, replacing an equal key. -/
def insertPair (k : κ) (a : α) : List (κ × α) → List (κ × α)
  | [] => [(k, a)]
  | (k', a') :: rest =>
    match compare k k' with
    | .lt => (k, a) :: (k', a') :: rest
    | .eq => (k, a) :: rest
    | .gt => (k', a') :: insertPair k a rest

/-- The value stored under a key. -/
def findPair (k : κ) : List (κ × α) → Option α
  | [] => none
  | (k', a') :: rest => if compare k k' = .eq then some a' else findPair k rest

/-- Drop every pair stored under a key. -/
def erasePair (k : κ) (pairs : List (κ × α)) : List (κ × α) :=
  pairs.filter fun p => compare k p.1 != .eq

/-- Strictly increasing keys. -/
def KeySorted (pairs : List (κ × α)) : Prop :=
  pairs.Pairwise fun p q => compare p.1 q.1 = .lt

theorem keySorted_nil : KeySorted ([] : List (κ × α)) := List.Pairwise.nil

theorem mem_insertPair {k : κ} {a : α} {p : κ × α} {pairs : List (κ × α)}
    (h : p ∈ insertPair k a pairs) : p = (k, a) ∨ p ∈ pairs := by
  induction pairs with
  | nil => simpa [insertPair] using h
  | cons hd tl ih =>
    obtain ⟨k', a'⟩ := hd
    rw [insertPair] at h
    split at h
    · rcases List.mem_cons.mp h with h | h
      · exact Or.inl h
      · exact Or.inr h
    · rcases List.mem_cons.mp h with h | h
      · exact Or.inl h
      · exact Or.inr (List.mem_cons_of_mem _ h)
    · rcases List.mem_cons.mp h with h | h
      · exact Or.inr (by rw [h]; exact List.mem_cons_self ..)
      · rcases ih h with h | h
        · exact Or.inl h
        · exact Or.inr (List.mem_cons_of_mem _ h)

/-- Insertion keeps the keys strictly increasing. -/
theorem keySorted_insertPair [Std.TransOrd κ] (k : κ) (a : α) {pairs : List (κ × α)}
    (h : KeySorted pairs) : KeySorted (insertPair k a pairs) := by
  induction pairs with
  | nil => exact List.pairwise_singleton _ _
  | cons hd tl ih =>
    obtain ⟨k', a'⟩ := hd
    obtain ⟨hlt, htl⟩ := List.pairwise_cons.mp h
    rw [insertPair]
    split
    · rename_i hc
      refine List.pairwise_cons.mpr ⟨fun p hp => ?_, h⟩
      rcases List.mem_cons.mp hp with rfl | hp
      · exact hc
      · exact Std.TransCmp.lt_trans hc (hlt p hp)
    · rename_i hc
      exact List.pairwise_cons.mpr
        ⟨fun p hp => Std.TransCmp.lt_of_eq_of_lt hc (hlt p hp), htl⟩
    · rename_i hc
      refine List.pairwise_cons.mpr ⟨fun p hp => ?_, ih htl⟩
      rcases mem_insertPair hp with rfl | hp
      · exact Std.OrientedCmp.lt_of_gt hc
      · exact hlt p hp

theorem keySorted_erasePair (k : κ) {pairs : List (κ × α)} (h : KeySorted pairs) :
    KeySorted (erasePair k pairs) :=
  List.Pairwise.filter _ h

/-! ### Look-ups -/

theorem findPair_insertPair_self [Std.TransOrd κ] (k : κ) (a : α) (pairs : List (κ × α)) :
    findPair k (insertPair k a pairs) = some a := by
  induction pairs with
  | nil => simp [insertPair, findPair, Std.ReflCmp.compare_self]
  | cons hd tl ih =>
    obtain ⟨k', a'⟩ := hd
    rw [insertPair]
    split
    · simp [findPair, Std.ReflCmp.compare_self]
    · simp [findPair, Std.ReflCmp.compare_self]
    · rename_i hc
      simp [findPair, hc, ih]

theorem findPair_insertPair_ne [Std.TransOrd κ] {k k' : κ} (h : compare k' k ≠ .eq) (a : α)
    (pairs : List (κ × α)) : findPair k' (insertPair k a pairs) = findPair k' pairs := by
  induction pairs with
  | nil => simp [insertPair, findPair, h]
  | cons hd tl ih =>
    obtain ⟨k'', a''⟩ := hd
    rw [insertPair]
    split
    · simp [findPair, h]
    · rename_i hc
      have hne : compare k' k'' ≠ .eq := fun he =>
        h (Std.TransCmp.eq_trans he (Std.OrientedCmp.eq_symm hc))
      simp [findPair, h, hne]
    · simp only [findPair, ih]

theorem findPair_erasePair_self (k : κ) (pairs : List (κ × α)) :
    findPair k (erasePair k pairs) = none := by
  induction pairs with
  | nil => rfl
  | cons hd tl ih =>
    rw [erasePair, List.filter_cons]
    split
    · rename_i hc
      have hne : compare k hd.1 ≠ .eq := by simpa using hc
      rw [findPair, if_neg hne]
      exact ih
    · exact ih

theorem findPair_erasePair_ne [Std.TransOrd κ] {k k' : κ} (h : compare k' k ≠ .eq)
    (pairs : List (κ × α)) : findPair k' (erasePair k pairs) = findPair k' pairs := by
  induction pairs with
  | nil => rfl
  | cons hd tl ih =>
    rw [erasePair, List.filter_cons]
    split
    · simp only [findPair]
      split
      · rfl
      · exact ih
    · rename_i hc
      have he : compare k hd.1 = .eq := by simpa using hc
      have hne : compare k' hd.1 ≠ .eq := fun hk =>
        h (Std.TransCmp.eq_trans hk (Std.OrientedCmp.eq_symm he))
      rw [findPair, if_neg hne]
      exact ih

/-- A pair of a sorted list is what looking up its key finds. -/
theorem findPair_of_mem [Std.TransOrd κ] {pairs : List (κ × α)} (hs : KeySorted pairs)
    {k : κ} {a : α} (h : (k, a) ∈ pairs) : findPair k pairs = some a := by
  induction pairs with
  | nil => cases h
  | cons hd tl ih =>
    obtain ⟨hlt, htl⟩ := List.pairwise_cons.mp hs
    rw [findPair]
    rcases List.mem_cons.mp h with h | h
    · rw [← h]
      simp [Std.ReflCmp.compare_self]
    · have hne : compare k hd.1 ≠ .eq := fun he => by
        have hlt' := hlt (k, a) h
        rw [Std.OrientedCmp.eq_symm he] at hlt'
        cases hlt'
      rw [if_neg hne]
      exact ih htl h

/-- Looking a key up finds one of the list's pairs. -/
theorem mem_of_findPair [Std.LawfulEqOrd κ] {pairs : List (κ × α)} {k : κ} {a : α}
    (h : findPair k pairs = some a) : (k, a) ∈ pairs := by
  induction pairs with
  | nil => cases h
  | cons hd tl ih =>
    rw [findPair] at h
    split at h
    · rename_i hc
      obtain rfl := Option.some.inj h
      rw [Std.LawfulEqCmp.eq_of_compare hc]
      exact List.mem_cons_self ..
    · exact List.mem_cons_of_mem _ (ih h)

/-! ## The map -/

/-- A finite map: pairs in strictly increasing key order. -/
structure SortedMap (κ : Type u) (α : Type v) [Ord κ] where
  /-- the pairs, in key order -/
  toList : List (κ × α)
  /-- the keys strictly increase -/
  sorted : KeySorted toList

namespace SortedMap

/-- The map with no keys. -/
def empty : SortedMap κ α := ⟨[], keySorted_nil⟩

instance : EmptyCollection (SortedMap κ α) := ⟨empty⟩

instance : Inhabited (SortedMap κ α) := ⟨empty⟩

instance [DecidableEq κ] [DecidableEq α] : DecidableEq (SortedMap κ α) := fun m n =>
  if h : m.toList = n.toList then
    .isTrue (by cases m; cases n; cases h; rfl)
  else
    .isFalse fun he => h (by rw [he])

/-- Maps with the same pairs are the same. -/
theorem ext_toList {m n : SortedMap κ α} (h : m.toList = n.toList) : m = n := by
  cases m; cases n; cases h; rfl

/-- The value stored under a key, if any. -/
def get? (m : SortedMap κ α) (k : κ) : Option α := findPair k m.toList

/-- Store a value under a key, replacing what was there. -/
def insert [Std.TransOrd κ] (m : SortedMap κ α) (k : κ) (a : α) : SortedMap κ α :=
  ⟨insertPair k a m.toList, keySorted_insertPair k a m.sorted⟩

/-- Forget a key. -/
def erase (m : SortedMap κ α) (k : κ) : SortedMap κ α :=
  ⟨erasePair k m.toList, keySorted_erasePair k m.sorted⟩

/-- The map of a list of pairs; of a repeated key the last pair counts. -/
def ofList [Std.TransOrd κ] (pairs : List (κ × α)) : SortedMap κ α :=
  pairs.foldl (fun m p => m.insert p.1 p.2) empty

/-- How many keys the map has. -/
def size (m : SortedMap κ α) : Nat := m.toList.length

/-- The keys, in order. -/
def keys (m : SortedMap κ α) : List κ := m.toList.map (·.1)

/-- The values, in the order of their keys. -/
def values (m : SortedMap κ α) : List α := m.toList.map (·.2)

/-! ### What each operation does to look-ups -/

@[simp] theorem get?_empty (k : κ) : (empty : SortedMap κ α).get? k = none := rfl

@[simp] theorem get?_insert_self [Std.TransOrd κ] (m : SortedMap κ α) (k : κ) (a : α) :
    (m.insert k a).get? k = some a :=
  findPair_insertPair_self k a m.toList

theorem get?_insert_ne [Std.TransOrd κ] [Std.LawfulEqOrd κ] (m : SortedMap κ α) {k k' : κ}
    (h : k' ≠ k) (a : α) : (m.insert k a).get? k' = m.get? k' :=
  findPair_insertPair_ne (fun he => h (Std.LawfulEqCmp.eq_of_compare he)) a m.toList

@[simp] theorem get?_erase_self (m : SortedMap κ α) (k : κ) : (m.erase k).get? k = none :=
  findPair_erasePair_self k m.toList

theorem get?_erase_ne [Std.TransOrd κ] [Std.LawfulEqOrd κ] (m : SortedMap κ α) {k k' : κ}
    (h : k' ≠ k) : (m.erase k).get? k' = m.get? k' :=
  findPair_erasePair_ne (fun he => h (Std.LawfulEqCmp.eq_of_compare he)) m.toList

/-- Look-ups and pairs say the same. -/
theorem get?_eq_some_iff [Std.TransOrd κ] [Std.LawfulEqOrd κ] {m : SortedMap κ α} {k : κ} {a : α} :
    m.get? k = some a ↔ (k, a) ∈ m.toList :=
  ⟨mem_of_findPair, findPair_of_mem m.sorted⟩

/-! ### Extensionality -/

/-- Two strictly sorted lists with the same members are equal. -/
theorem keySorted_eq_of_mem_iff [Std.TransOrd κ] {l₁ l₂ : List (κ × α)} (h₁ : KeySorted l₁)
    (h₂ : KeySorted l₂) (h : ∀ p, p ∈ l₁ ↔ p ∈ l₂) : l₁ = l₂ := by
  have asymm : ∀ {p q : κ × α}, compare p.1 q.1 = .lt → compare q.1 p.1 = .lt → False := by
    intro p q hpq hqp
    have hpp : compare p.1 p.1 = .lt := Std.TransCmp.lt_trans hpq hqp
    have hself : compare p.1 p.1 = .eq := Std.ReflCmp.compare_self
    rw [hself] at hpp
    cases hpp
  induction l₁ generalizing l₂ with
  | nil =>
    cases l₂ with
    | nil => rfl
    | cons q t => exact absurd ((h q).mpr (List.mem_cons_self ..)) (List.not_mem_nil)
  | cons p s ih =>
    cases l₂ with
    | nil => exact absurd ((h p).mp (List.mem_cons_self ..)) (List.not_mem_nil)
    | cons q t =>
      obtain ⟨hp, hs⟩ := List.pairwise_cons.mp h₁
      obtain ⟨hq, ht⟩ := List.pairwise_cons.mp h₂
      have hpq : p = q := by
        rcases List.mem_cons.mp ((h p).mp (List.mem_cons_self ..)) with e | e
        · exact e
        · rcases List.mem_cons.mp ((h q).mpr (List.mem_cons_self ..)) with e' | e'
          · exact e'.symm
          · exact (asymm (hp q e') (hq p e)).elim
      subst hpq
      refine congrArg (p :: ·) (ih hs ht fun r => ⟨fun hr => ?_, fun hr => ?_⟩)
      · rcases List.mem_cons.mp ((h r).mp (List.mem_cons_of_mem _ hr)) with e | e
        · subst e
          exact (asymm (hp r hr) (hp r hr)).elim
        · exact e
      · rcases List.mem_cons.mp ((h r).mpr (List.mem_cons_of_mem _ hr)) with e | e
        · subst e
          exact (asymm (hq r hr) (hq r hr)).elim
        · exact e

/-- **Extensionality**: look-ups determine the map. -/
theorem ext_get? [Std.TransOrd κ] [Std.LawfulEqOrd κ] {m n : SortedMap κ α}
    (h : ∀ k, m.get? k = n.get? k) : m = n := by
  refine ext_toList (keySorted_eq_of_mem_iff m.sorted n.sorted fun p => ?_)
  obtain ⟨k, a⟩ := p
  rw [← get?_eq_some_iff, ← get?_eq_some_iff, h k]

/-- Inserting what is there already changes nothing. -/
theorem insert_of_get? [Std.TransOrd κ] [Std.LawfulEqOrd κ] {m : SortedMap κ α} {k : κ} {a : α}
    (h : m.get? k = some a) : m.insert k a = m := by
  refine ext_get? fun k' => ?_
  by_cases hk : k' = k
  · rw [hk, get?_insert_self, h]
  · exact get?_insert_ne m hk a

/-- Forgetting what is not there changes nothing. -/
theorem erase_of_get?_eq_none [Std.TransOrd κ] [Std.LawfulEqOrd κ] {m : SortedMap κ α} {k : κ}
    (h : m.get? k = none) : m.erase k = m := by
  refine ext_get? fun k' => ?_
  by_cases hk : k' = k
  · rw [hk, get?_erase_self, h]
  · exact get?_erase_ne m hk

/-- What is inserted and then forgotten might as well not have been inserted. -/
@[simp] theorem erase_insert_self [Std.TransOrd κ] [Std.LawfulEqOrd κ] (m : SortedMap κ α) (k : κ)
    (a : α) : (m.insert k a).erase k = m.erase k := by
  refine ext_get? fun k' => ?_
  by_cases hk : k' = k
  · rw [hk, get?_erase_self, get?_erase_self]
  · rw [get?_erase_ne _ hk, get?_insert_ne _ hk, get?_erase_ne _ hk]

end SortedMap

end ShadowGate
