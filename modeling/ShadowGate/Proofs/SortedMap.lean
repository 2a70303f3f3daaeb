import ShadowGate.SortedMap

/-!
# Pairs inserted one after the other

Inserting pairs into a sorted list is what makes an object of fields and a map of pairs.

* `findPair_foldl_insertPair` — **the last of equal keys is found**.
* `foldl_insertPair_perm` — pairs with different keys are sorted, and nothing else happens to them.
* `SortedMap.ofList_of_perm` — so a map is read back from its pairs, in whatever order they come.
-/

namespace ShadowGate

variable {κ α : Type} [Ord κ]

/-! ## Look-ups -/

theorem findPair_cons [Std.LawfulEqOrd κ] [DecidableEq κ] (k k' : κ) (a : α)
    (rest : List (κ × α)) :
    findPair k ((k', a) :: rest) = if k = k' then some a else findPair k rest := by
  simp only [findPair, Std.compare_eq_iff_eq]

theorem findPair_append (k : κ) (front rest : List (κ × α)) :
    findPair k (front ++ rest) = (findPair k front).or (findPair k rest) := by
  induction front with
  | nil => rfl
  | cons p front ih =>
    rw [List.cons_append, findPair, findPair, ih]
    split <;> rfl

/-- **Pairs inserted one after the other**: the last of equal keys is found. -/
theorem findPair_foldl_insertPair [Std.TransOrd κ] [Std.LawfulEqOrd κ] (k : κ)
    (pairs start : List (κ × α)) :
    findPair k (pairs.foldl (fun acc p => insertPair p.1 p.2 acc) start) =
      (findPair k pairs.reverse).or (findPair k start) := by
  induction pairs generalizing start with
  | nil => rfl
  | cons p pairs ih =>
    have hfirst : findPair k (insertPair p.1 p.2 start) =
        (findPair k [p]).or (findPair k start) := by
      by_cases hk : compare k p.1 = .eq
      · rw [Std.LawfulEqCmp.eq_of_compare hk, findPair_insertPair_self]
        simp [findPair]
      · rw [findPair_insertPair_ne hk]
        simp [findPair, hk]
    rw [List.foldl_cons, ih, List.reverse_cons, findPair_append, hfirst, Option.or_assoc]

theorem mem_of_mem_foldl_insertPair {p : κ × α} {pairs start : List (κ × α)}
    (hp : p ∈ pairs.foldl (fun acc p => insertPair p.1 p.2 acc) start) : p ∈ pairs ∨ p ∈ start := by
  induction pairs generalizing start with
  | nil => exact .inr hp
  | cons q pairs ih =>
    rcases ih hp with hp | hp
    · exact .inl (List.mem_cons_of_mem _ hp)
    · rcases mem_insertPair hp with rfl | hp
      · exact .inl (List.mem_cons_self ..)
      · exact .inr hp

/-! ## Order -/

/-- A pair with a new key is put somewhere between the others. -/
theorem insertPair_perm [Std.LawfulEqOrd κ] {k : κ} {pairs : List (κ × α)}
    (hk : k ∉ pairs.map (·.1)) (a : α) : (insertPair k a pairs).Perm ((k, a) :: pairs) := by
  induction pairs with
  | nil => exact .refl _
  | cons p pairs ih =>
    obtain ⟨hne, hrest⟩ := not_or.mp (mt List.mem_cons.mpr hk)
    rw [insertPair]
    split
    · exact .refl _
    · rename_i heq
      exact absurd (Std.LawfulEqCmp.eq_of_compare heq) hne
    · exact ((ih hrest).cons p).trans (.swap _ _ _)

/-- **Pairs with different keys** are sorted, and nothing else happens to them. -/
theorem foldl_insertPair_perm [Std.LawfulEqOrd κ] {pairs start : List (κ × α)}
    (hkeys : ((pairs ++ start).map (·.1)).Nodup) :
    (pairs.foldl (fun acc p => insertPair p.1 p.2 acc) start).Perm (pairs ++ start) := by
  induction pairs generalizing start with
  | nil => exact .refl _
  | cons p pairs ih =>
    have hfresh : p.1 ∉ start.map (·.1) := by
      intro hmem
      rw [List.cons_append, List.map_cons, List.map_append] at hkeys
      exact (List.nodup_cons.mp hkeys).1 (List.mem_append_right _ hmem)
    have hinsert : (pairs ++ insertPair p.1 p.2 start).Perm (p :: pairs ++ start) :=
      ((insertPair_perm hfresh p.2).append_left pairs).trans List.perm_middle
    exact (ih ((hinsert.map _).nodup_iff.mpr hkeys)).trans hinsert

/-! ## Maps -/

namespace SortedMap

theorem nodup_keys [Std.TransOrd κ] (m : SortedMap κ α) : (m.toList.map (·.1)).Nodup := by
  refine List.pairwise_map.mpr (m.sorted.imp fun {p q} hlt heq => ?_)
  have hself : compare q.1 q.1 = .eq := Std.ReflCmp.compare_self
  rw [heq, hself] at hlt
  cases hlt

theorem toList_ofList [Std.TransOrd κ] (pairs : List (κ × α)) :
    (ofList pairs).toList = pairs.foldl (fun acc p => insertPair p.1 p.2 acc) [] := by
  have hfold : ∀ m : SortedMap κ α, (pairs.foldl (fun m p => m.insert p.1 p.2) m).toList =
      pairs.foldl (fun acc p => insertPair p.1 p.2 acc) m.toList := by
    induction pairs with
    | nil => exact fun m => rfl
    | cons p pairs ih => exact fun m => ih _
  exact hfold _

/-- A map of pairs holds no others. -/
theorem mem_of_mem_ofList [Std.TransOrd κ] {p : κ × α} {pairs : List (κ × α)}
    (hp : p ∈ (ofList pairs).toList) : p ∈ pairs := by
  rw [toList_ofList] at hp
  exact (mem_of_mem_foldl_insertPair hp).resolve_right List.not_mem_nil

/-- **A map is read back from its pairs**, in whatever order they come. -/
theorem ofList_of_perm [Std.TransOrd κ] [Std.LawfulEqOrd κ] {m : SortedMap κ α}
    {pairs : List (κ × α)} (h : pairs.Perm m.toList) : ofList pairs = m := by
  have hkeys : ((pairs ++ []).map Prod.fst).Nodup := by
    rw [List.append_nil]
    exact (h.map _).nodup_iff.mpr m.nodup_keys
  have hsorted := foldl_insertPair_perm hkeys
  rw [← toList_ofList, List.append_nil] at hsorted
  refine ext_toList (keySorted_eq_of_mem_iff (ofList pairs).sorted m.sorted fun p => ?_)
  exact (hsorted.trans h).mem_iff

theorem ofList_toList [Std.TransOrd κ] [Std.LawfulEqOrd κ] (m : SortedMap κ α) :
    ofList m.toList = m := ofList_of_perm (.refl _)

end SortedMap

/-- Pairs in order stay as they are. -/
theorem foldl_insertPair_of_keySorted [Std.TransOrd κ] [Std.LawfulEqOrd κ] {pairs : List (κ × α)}
    (h : KeySorted pairs) : pairs.foldl (fun acc p => insertPair p.1 p.2 acc) [] = pairs := by
  rw [← SortedMap.toList_ofList, SortedMap.ofList_toList ⟨pairs, h⟩]

end ShadowGate
