import Mathlib.Data.Finset.Card
import Mathlib.Data.List.Sort
import ShadowGate.Risk

/-!
# What is advised against risks

A proposal above the tolerance is told what to do about its risks: one strategy for each area that
they touch, and the areas in the order in which they are met. What is advised depends on nothing
else, so a further risk in a known area adds nothing, and neither does the order of the risks beyond
the first of each area.

* `Risk.MetBefore` — one area is met before another, and `Risk.FirstOccurrences`: **the areas in the
  order in which they are met**. `Risk.firstOccurrences_firstSeen` says that the areas kept are in it.
* `Risk.FirstOccurrences.eq_of_agree` — **there is one such order**, and it depends only on which
  areas occur and which of two is met first.
* `Risk.mitigations_congr` — so does what is advised.
* `Risk.mitigations_follow_risks` — the theorem.
-/

namespace ShadowGate.Risk

variable {items others : List Item} {kinds kinds' order order' : List Kind} {a b k : Kind}

/-! ## The order in which areas are met -/

/-- One area is met before another: it occurs, and the other does not or has its first occurrence
later. -/
def MetBefore (kinds : List Kind) (a b : Kind) : Prop := kinds.idxOf a < kinds.idxOf b

instance : Decidable (MetBefore kinds a b) := inferInstanceAs (Decidable (_ < _))

theorem metBefore_cons_self (h : b ≠ k) : MetBefore (k :: kinds) k b := by
  rw [MetBefore, List.idxOf_cons_self, List.idxOf_cons_ne _ h.symm]
  exact Nat.succ_pos _

theorem metBefore_cons_iff (ha : a ≠ k) (hb : b ≠ k) :
    MetBefore (k :: kinds) a b ↔ MetBefore kinds a b := by
  rw [MetBefore, List.idxOf_cons_ne _ ha.symm, List.idxOf_cons_ne _ hb.symm]
  exact Nat.succ_lt_succ_iff

theorem metBefore_append_iff (ha : a ∈ kinds) (hb : b ∈ kinds) :
    MetBefore (kinds ++ kinds') a b ↔ MetBefore kinds a b := by
  rw [MetBefore, List.idxOf_append_of_mem ha, List.idxOf_append_of_mem hb]
  rfl

/-- **The areas in the order in which they are met**, each of them once. -/
structure FirstOccurrences (kinds order : List Kind) : Prop where
  /-- the areas are those that occur -/
  mem_iff : ∀ k, k ∈ order ↔ k ∈ kinds
  /-- each is met before those that come after it -/
  pairwise : order.Pairwise (MetBefore kinds)

/-- Two lists of areas agree on which of two areas is met first. -/
def SameOrder (kinds kinds' : List Kind) : Prop :=
  ∀ a ∈ kinds, ∀ b ∈ kinds, MetBefore kinds a b ↔ MetBefore kinds' a b

instance : Decidable (SameOrder kinds kinds') :=
  inferInstanceAs (Decidable (∀ a ∈ kinds, ∀ b ∈ kinds, _ ↔ _))

namespace FirstOccurrences

theorem nodup (h : FirstOccurrences kinds order) : order.Nodup :=
  h.pairwise.imp fun hlt heq => Nat.ne_of_lt hlt (congrArg kinds.idxOf heq)

/-- There are as many as there are different areas. -/
theorem length_eq_card (h : FirstOccurrences kinds order) :
    order.length = kinds.toFinset.card := by
  have hsame : order.toFinset = kinds.toFinset := by
    ext k
    rw [List.mem_toFinset, List.mem_toFinset, h.mem_iff]
  rw [← hsame, List.toFinset_card_of_nodup h.nodup]

/-- **There is one order in which areas are met.** It is the same for two lists in which the same
areas occur, if they agree on which of two is met first. -/
theorem eq_of_agree (h : FirstOccurrences kinds order) (h' : FirstOccurrences kinds' order')
    (hmem : ∀ k, k ∈ kinds ↔ k ∈ kinds') (hsame : SameOrder kinds kinds') : order = order' := by
  have hoccurs : ∀ k ∈ order', k ∈ kinds := fun k hk => (hmem k).mpr ((h'.mem_iff k).mp hk)
  have hpairwise : order'.Pairwise (MetBefore kinds) :=
    h'.pairwise.imp_of_mem fun ha hb hlt => (hsame _ (hoccurs _ ha) _ (hoccurs _ hb)).mpr hlt
  have hperm : order.Perm order' :=
    (List.perm_ext_iff_of_nodup h.nodup h'.nodup).mpr fun k => by
      rw [h.mem_iff, hmem, h'.mem_iff]
  exact hperm.eq_of_pairwise (fun a b _ _ hab hba => absurd hab (Nat.lt_asymm hba)) h.pairwise
    hpairwise

end FirstOccurrences

theorem mem_firstSeen_iff : k ∈ firstSeen kinds ↔ k ∈ kinds := by
  induction kinds with
  | nil => exact Iff.rfl
  | cons first rest ih =>
    rw [firstSeen, List.mem_cons, List.mem_filter, ih, List.mem_cons]
    by_cases hk : k = first <;> simp [hk]

/-- The areas kept are in the order in which they are met. The area in front is met before all
others; from the rest only that area is dropped, which changes nothing among the others. -/
theorem pairwise_firstSeen (kinds : List Kind) :
    (firstSeen kinds).Pairwise (MetBefore kinds) := by
  induction kinds with
  | nil => exact List.Pairwise.nil
  | cons first rest ih =>
    have hne : ∀ k ∈ (firstSeen rest).filter (· != first), k ≠ first := fun k hk =>
      bne_iff_ne.mp (List.mem_filter.mp hk).2
    rw [firstSeen, List.pairwise_cons]
    refine ⟨fun k hk => metBefore_cons_self (hne k hk), ?_⟩
    exact (ih.filter _).imp_of_mem fun ha hb hlt =>
      (metBefore_cons_iff (hne _ ha) (hne _ hb)).mpr hlt

theorem firstOccurrences_firstSeen (kinds : List Kind) :
    FirstOccurrences kinds (firstSeen kinds) :=
  ⟨fun _ => mem_firstSeen_iff, pairwise_firstSeen kinds⟩

/-! ## Strategies -/

/-- Different areas have different strategies. -/
theorem Kind.strategy_injective : Function.Injective Kind.strategy := by
  intro a b
  cases a <;> cases b <;> simp [Kind.strategy]

theorem Kind.strategy_ne_raiseConfidence (k : Kind) : k.strategy ≠ raiseConfidence := by
  cases k <;> simp [Kind.strategy, raiseConfidence]

/-- The areas that risks touch, one for each risk. -/
def areas (items : List Item) : List Kind := items.map (·.category)

theorem areas_eq_nil_iff (items : List Item) : areas items = [] ↔ items = [] :=
  List.map_eq_nil_iff

theorem mitigations_nil : mitigations [] = [raiseConfidence] := rfl

theorem mitigations_of_ne_nil (h : items ≠ []) :
    mitigations items = (firstSeen (areas items)).map Kind.strategy := by
  rw [mitigations, if_neg (by simpa using h)]
  rfl

/-- **Something is always advised.** -/
theorem mitigations_ne_nil (items : List Item) : mitigations items ≠ [] := by
  cases items with
  | nil => exact List.cons_ne_nil _ _
  | cons i rest =>
    rw [mitigations_of_ne_nil (List.cons_ne_nil _ _)]
    exact List.cons_ne_nil _ _

theorem nodup_mitigations (items : List Item) : (mitigations items).Nodup := by
  by_cases h : items = []
  · rw [h, mitigations_nil]
    exact List.nodup_singleton _
  · rw [mitigations_of_ne_nil h]
    exact (firstOccurrences_firstSeen _).nodup.map Kind.strategy_injective

/-- **To raise confidence is advised where no risk is named**, and nowhere else. -/
theorem mitigations_eq_raiseConfidence_iff :
    mitigations items = [raiseConfidence] ↔ items = [] := by
  refine ⟨fun h => by_contra fun hitems => ?_, fun h => h ▸ mitigations_nil⟩
  have hmem : raiseConfidence ∈ (firstSeen (areas items)).map Kind.strategy := by
    rw [← mitigations_of_ne_nil hitems, h]
    exact List.mem_singleton_self _
  obtain ⟨k, -, hk⟩ := List.mem_map.mp hmem
  exact k.strategy_ne_raiseConfidence hk

/-- **What is advised depends on the areas and their order**: on which areas occur, and on which of
two is met first. -/
theorem mitigations_congr (hmem : ∀ k, k ∈ areas items ↔ k ∈ areas others)
    (hsame : SameOrder (areas items) (areas others)) : mitigations items = mitigations others := by
  have horder : firstSeen (areas items) = firstSeen (areas others) :=
    (firstOccurrences_firstSeen _).eq_of_agree (firstOccurrences_firstSeen _) hmem hsame
  have hempty : items = [] ↔ others = [] := by
    rw [← areas_eq_nil_iff items, ← areas_eq_nil_iff others, List.eq_nil_iff_forall_not_mem,
      List.eq_nil_iff_forall_not_mem]
    exact forall_congr' fun k => not_congr (hmem k)
  by_cases hitems : items = []
  · rw [hitems, hempty.mp hitems]
  · rw [mitigations_of_ne_nil hitems, mitigations_of_ne_nil (mt hempty.mpr hitems), horder]

/-- A further risk in a known area adds nothing. -/
theorem mitigations_append_of_mem {i : Item} (h : i.category ∈ areas items) :
    mitigations (items ++ [i]) = mitigations items := by
  have happend : areas (items ++ [i]) = areas items ++ [i.category] := List.map_append
  have hmem : ∀ k, k ∈ areas items ↔ k ∈ areas (items ++ [i]) := by
    intro k
    rw [happend, List.mem_append, List.mem_singleton]
    exact ⟨.inl, fun hk => hk.elim id fun heq => heq ▸ h⟩
  refine (mitigations_congr hmem fun a ha b hb => ?_).symm
  rw [happend, metBefore_append_iff ha hb]

/-- Risks in another order get the same advice, if their areas are met in the same order. -/
theorem mitigations_of_perm (h : items.Perm others)
    (hsame : SameOrder (areas items) (areas others)) : mitigations items = mitigations others :=
  mitigations_congr (fun _ => (h.map _).mem_iff) hsame

/-! ## Assessments -/

theorem description_item (risk : String) : (item risk).description = risk := by rw [item]

theorem category_item (risk : String) : (item risk).category = categorize risk := by rw [item]

/-- **What an assessment advises against risks**: one strategy for each area that they touch, in the
order in which the areas are met. -/
structure Advises (items : List Item) (texts : List String) : Prop where
  /-- the strategies are those of the areas, in that order -/
  strategies : ∃ order, FirstOccurrences (areas items) order ∧ texts = order.map Kind.strategy
  /-- there are as many as there are different areas -/
  length_eq : texts.length = (areas items).toFinset.card

theorem advises_mitigations (h : items ≠ []) : Advises items (mitigations items) := by
  have hfirst := firstOccurrences_firstSeen (areas items)
  have htexts := mitigations_of_ne_nil h
  refine ⟨⟨_, hfirst, htexts⟩, ?_⟩
  rw [htexts, List.length_map, hfirst.length_eq_card]

/-- **Mitigations follow the risks.** For every proposal and tolerance: the assessment has one item
for each declared risk, in their order, with the text as declared and the area that the text names;
it advises something exactly if the level of risk exceeds the tolerance, and no text twice. What it
advises is to raise confidence, exactly if no risk is declared, and otherwise one strategy for each
area that occurs among the items, in the order in which the areas are met, so as many as there are
different areas. And for all risks, one more in an area that occurs already changes nothing in what
is advised, and neither does another order of the risks in which the areas are met in the same
order. -/
theorem mitigations_follow_risks (p : Proposal) (tolerance : Float) :
    let a := assess p tolerance
    a.items.map (·.description) = p.risks ∧
    areas a.items = p.risks.map categorize ∧
    (a.exceedsTolerance = true ↔ tolerance < a.riskLevel) ∧
    (a.mitigations ≠ [] ↔ a.exceedsTolerance = true) ∧
    a.mitigations.Nodup ∧
    (a.mitigations ≠ [] →
      (a.mitigations = [raiseConfidence] ↔ p.risks = []) ∧
      (p.risks ≠ [] → Advises a.items a.mitigations)) ∧
    (∀ (items : List Item) (i : Item), i.category ∈ areas items →
      mitigations (items ++ [i]) = mitigations items) ∧
    (∀ items others : List Item, items.Perm others → SameOrder (areas items) (areas others) →
      mitigations items = mitigations others) := by
  intro a
  have hmitigations : a.mitigations =
      if a.exceedsTolerance = true then mitigations a.items else [] := rfl
  have hitems : a.items = p.risks.map item := rfl
  have hnone : a.items = [] ↔ p.risks = [] := by rw [hitems, List.map_eq_nil_iff]
  refine ⟨?_, ?_, decide_eq_true_iff, ?_, ?_, ?_, fun _ _ => mitigations_append_of_mem,
    fun _ _ => mitigations_of_perm⟩
  · rw [hitems, List.map_map]
    exact (List.map_congr_left fun risk _ => description_item risk).trans (List.map_id _)
  · rw [hitems, areas, List.map_map]
    exact List.map_congr_left fun risk _ => category_item risk
  · rw [hmitigations]
    split
    · rename_i hexceeds
      exact iff_of_true (mitigations_ne_nil _) hexceeds
    · rename_i hwithin
      exact iff_of_false (fun h => h rfl) hwithin
  · rw [hmitigations]
    split
    · exact nodup_mitigations _
    · exact List.nodup_nil
  · intro hadvised
    have hexceeds : a.exceedsTolerance = true := by
      by_contra hwithin
      exact hadvised (by rw [hmitigations, if_neg hwithin])
    rw [hmitigations, if_pos hexceeds, mitigations_eq_raiseConfidence_iff, hnone]
    exact ⟨Iff.rfl, fun hrisks => advises_mitigations (mt hnone.mp hrisks)⟩

/-- A proposal with these risks. -/
def riskyProposal (risks : List String) : Proposal where
  id := "p"
  source := ""
  category := .metaLearning
  description := "Reindex"
  risks := risks
  confidence := 0.5

/-- Three risks touch two areas and get two strategies; a fourth in the first area adds none, and
the two of that area may as well stand side by side. -/
theorem three_risks_get_two_strategies :
    let a := assess (riskyProposal ["Severe crash", "Higher latency", "Corrupted index"]) 0.3
    a.exceedsTolerance = true ∧
    a.items.map (·.description) = ["Severe crash", "Higher latency", "Corrupted index"] ∧
    Advises a.items a.mitigations ∧ a.mitigations.length = 2 ∧
    mitigations (a.items ++ [item "Unsafe state"]) = mitigations a.items ∧
    mitigations a.items =
      mitigations (["Severe crash", "Corrupted index", "Higher latency"].map item) := by
  intro a
  obtain ⟨hdescriptions, -, -, hadvised, -, hfollow, hfurther, hreordered⟩ :=
    mitigations_follow_risks
      (riskyProposal ["Severe crash", "Higher latency", "Corrupted index"]) 0.3
  have hexceeds : a.exceedsTolerance = true := by decide +kernel
  have hadvises := (hfollow (hadvised.mpr hexceeds)).2 (by decide)
  refine ⟨hexceeds, hdescriptions, hadvises, ?_, ?_, ?_⟩
  · rw [hadvises.length_eq]
    decide +kernel
  · exact hfurther _ _ (by decide +kernel)
  · exact hreordered _ _ (by decide +kernel) (by decide +kernel)

/-- If the order in which areas are met changes, so does the order of what is advised. -/
example : mitigations (["Severe crash", "Higher latency"].map item) ≠
    mitigations (["Higher latency", "Severe crash"].map item) := by
  decide +kernel

end ShadowGate.Risk
