import ShadowGate.Batch
import ShadowGate.Proofs.Number.Order

/-!
# Conflicts in a batch

Of the approved reports of one category the best keeps its approval, and of several equally good
ones the earliest. The scores are compared one after another, so that the one kept in the end is
the best of all takes an order: `Batch.standing` puts the reports of a batch in one, by score first
and by place, counted down, second.

* `Batch.le_standing_winner` — **the winner of a category stands highest**.
* `Batch.Outranked` — a report is approved, and so is another of its category that goes before it;
  `Batch.place_ne_winner_iff` says that exactly these are not the winner.
* `Batch.Settled`, `Batch.exists_settled` — what becomes of a report: it stays, is told that it has
  rivals, or has to wait.
* `Batch.rivals_congr`, `Batch.Outranked.congr` — all of this depends on verdicts, categories and
  scores only.
-/

namespace ShadowGate.Batch

variable {reports others : List Report} {category : Category} {now : Time} {a b r best : Placed}

/-! ## Standing -/

/-- One report goes before another: it scores higher, or as high and comes earlier. -/
def Outranks (a b : Placed) : Prop :=
  a.1.overallScore > b.1.overallScore ∨
    (a.1.overallScore == b.1.overallScore) = true ∧ a.2 < b.2

/-- A report is approved, and so is another of its category that goes before it. -/
def Outranked (reports : List Report) (r : Placed) : Prop :=
  r.1.isApproved = true ∧
    ∃ other : Placed, reports[other.2]? = some other.1 ∧ other.1.isApproved = true ∧
      other.1.category = r.1.category ∧ Outranks other r

/-- Every score of the batch is a number. -/
def Scored (reports : List Report) : Prop := ∀ r ∈ reports, r.overallScore.isNaN = false

/-- Where a report stands in its batch. -/
def standing (r : Placed) : (ℤ ×ₗ ℤ ×ₗ ℤ) ×ₗ ℕᵒᵈ :=
  toLex (Number.rank r.1.overallScore, OrderDual.toDual r.2)

theorem standing_lt_iff_outranks (ha : a.1.overallScore.isNaN = false)
    (hb : b.1.overallScore.isNaN = false) : standing b < standing a ↔ Outranks a b := by
  rw [standing, standing, Prod.Lex.toLex_lt_toLex, OrderDual.toDual_lt_toDual, Outranks, gt_iff_lt,
    Number.lt_iff_rank_lt hb ha, Number.beq_iff_rank_eq ha hb, eq_comm (a := Number.rank _)]

theorem place_eq_of_standing_eq (h : standing a = standing b) : a.2 = b.2 :=
  (Prod.mk.inj (toLex.injective h)).2

/-- **The better of two reports** stands as high as either, if the second comes later. -/
theorem le_standing_better (ha : a.1.overallScore.isNaN = false)
    (hb : b.1.overallScore.isNaN = false) (hplace : a.2 < b.2) :
    standing a ≤ standing (better a b) ∧ standing b ≤ standing (better a b) := by
  by_cases h : b.1.overallScore > a.1.overallScore
  · rw [better, if_pos h]
    exact ⟨((standing_lt_iff_outranks hb ha).mpr (.inl h)).le, le_rfl⟩
  · rw [better, if_neg h]
    refine ⟨le_rfl, le_of_not_gt fun hlt => ?_⟩
    rcases (standing_lt_iff_outranks hb ha).mp hlt with hscore | ⟨-, hearlier⟩
    · exact h hscore
    · exact absurd hplace hearlier.not_gt

/-- The best of a list in order of places is one of them and stands highest. -/
theorem foldl_better_spec (rest : List Placed) (first : Placed)
    (hsorted : (first :: rest).Pairwise fun a b => a.2 < b.2)
    (hscored : ∀ r ∈ first :: rest, r.1.overallScore.isNaN = false) :
    rest.foldl better first ∈ first :: rest ∧
      ∀ r ∈ first :: rest, standing r ≤ standing (rest.foldl better first) := by
  induction rest generalizing first with
  | nil => simp
  | cons second rest ih =>
    -- the incumbent after one comparison is one of the two, so the rest still comes after it
    have hsub : (better first second :: rest).Sublist (first :: second :: rest) := by
      rw [better]
      split
      · exact List.sublist_cons_self _ _
      · exact (List.sublist_cons_self _ _).cons_cons _
    have hplace : first.2 < second.2 := List.rel_of_pairwise_cons hsorted List.mem_cons_self
    obtain ⟨hle₁, hle₂⟩ :=
      le_standing_better (hscored first (by simp)) (hscored second (by simp)) hplace
    obtain ⟨hmem, hbest⟩ := ih (better first second) (hsorted.sublist hsub)
      fun r hr => hscored r (hsub.subset hr)
    refine ⟨hsub.subset hmem, fun r hr => ?_⟩
    rcases List.mem_cons.mp hr with rfl | hr
    · exact hle₁.trans (hbest _ List.mem_cons_self)
    · rcases List.mem_cons.mp hr with rfl | hr
      · exact hle₂.trans (hbest _ List.mem_cons_self)
      · exact hbest r (List.mem_cons_of_mem _ hr)

/-! ## The winner -/

theorem mem_approvals_iff :
    r ∈ approvals reports category ↔
      reports[r.2]? = some r.1 ∧ r.1.isApproved = true ∧ r.1.category = category := by
  simp [approvals, List.mem_zipIdx_iff_getElem?]

/-- The approvals of a category are in order of places. -/
theorem pairwise_approvals (reports : List Report) (category : Category) :
    (approvals reports category).Pairwise fun a b => a.2 < b.2 := by
  refine List.Pairwise.filter _ (List.pairwise_map.mp ?_)
  rw [List.zipIdx_map_snd]
  exact List.pairwise_lt_range' _

theorem isNaN_of_mem_approvals (hscored : Scored reports) (hr : r ∈ approvals reports category) :
    r.1.overallScore.isNaN = false :=
  hscored r.1 (List.mem_of_getElem? (mem_approvals_iff.mp hr).1)

theorem exists_winner (hr : r ∈ approvals reports category) :
    ∃ best, winner reports category = some best := by
  rw [winner]
  cases happrovals : approvals reports category with
  | nil => simp [happrovals] at hr
  | cons first rest => exact ⟨_, rfl⟩

/-- **The winner of a category** is one of its approvals and stands highest. -/
theorem le_standing_winner (hscored : Scored reports)
    (hbest : winner reports category = some best) :
    best ∈ approvals reports category ∧
      ∀ r ∈ approvals reports category, standing r ≤ standing best := by
  rw [winner] at hbest
  have hdefined : ∀ r ∈ approvals reports category, r.1.overallScore.isNaN = false :=
    fun r hr => isNaN_of_mem_approvals hscored hr
  have hsorted := pairwise_approvals reports category
  cases happrovals : approvals reports category with
  | nil => simp [happrovals] at hbest
  | cons first rest =>
    rw [happrovals] at hbest hdefined hsorted
    obtain rfl := Option.some.inj hbest
    exact foldl_better_spec rest first hsorted hdefined

/-- **All but the winner are outranked**, and the winner is not. -/
theorem place_ne_winner_iff (hscored : Scored reports)
    (hbest : winner reports category = some best) (hr : r ∈ approvals reports category) :
    r.2 ≠ best.2 ↔ Outranked reports r := by
  obtain ⟨hmem, hhighest⟩ := le_standing_winner hscored hbest
  have hdefined := isNaN_of_mem_approvals hscored hr
  obtain ⟨hplace, happroved, hcategory⟩ := mem_approvals_iff.mp hr
  constructor
  · intro hne
    have hlt : standing r < standing best :=
      (hhighest r hr).lt_of_ne fun heq => hne (place_eq_of_standing_eq heq)
    obtain ⟨hplace', happroved', hcategory'⟩ := mem_approvals_iff.mp hmem
    refine ⟨happroved, best, hplace', happroved', hcategory'.trans hcategory.symm, ?_⟩
    exact (standing_lt_iff_outranks (isNaN_of_mem_approvals hscored hmem) hdefined).mp hlt
  · rintro ⟨-, other, hother, happroved', hcategory', houtranks⟩ heq
    have hother' : other ∈ approvals reports category :=
      mem_approvals_iff.mpr ⟨hother, happroved', hcategory'.trans hcategory⟩
    have hlt : standing r < standing other :=
      (standing_lt_iff_outranks (isNaN_of_mem_approvals hscored hother') hdefined).mpr houtranks
    -- a batch has one report at a place, so the report would be the winner itself
    have hsame : r.1 = best.1 := by
      rw [heq, (mem_approvals_iff.mp hmem).1] at hplace
      exact (Option.some.inj hplace).symm
    have hstanding : standing best = standing r := by rw [standing, standing, hsame, heq]
    exact absurd (hhighest other hother') (hstanding ▸ hlt).not_ge

/-! ## What becomes of a report -/

/-- How many approved reports a category has. -/
def rivals (reports : List Report) (category : Category) : Nat :=
  reports.countP fun r => r.isApproved && r.category == category

theorem length_approvals : (approvals reports category).length = rivals reports category := by
  rw [approvals, rivals, ← List.countP_eq_length_filter]
  conv_rhs => rw [← List.zipIdx_map_fst 0 reports]
  rw [List.countP_map]
  rfl

/-- A report is one of several approved ones of its category. -/
def Contested (reports : List Report) (r : Report) : Prop :=
  r.isApproved = true ∧ 2 ≤ rivals reports r.category

instance (reports : List Report) (r : Report) : Decidable (Contested reports r) :=
  inferInstanceAs (Decidable (_ ∧ _))

/-- A report that is outranked is contested. -/
theorem contested_of_outranked (hscored : Scored reports) (hr : reports[r.2]? = some r.1)
    (h : Outranked reports r) : Contested reports r.1 := by
  have hmem : r ∈ approvals reports r.1.category := mem_approvals_iff.mpr ⟨hr, h.1, rfl⟩
  obtain ⟨best, hbest⟩ := exists_winner hmem
  have hbest' := (le_standing_winner hscored hbest).1
  have hne : r ≠ best := fun heq => (place_ne_winner_iff hscored hbest hmem).mpr h (heq ▸ rfl)
  refine ⟨h.1, ?_⟩
  rw [← length_approvals]
  match happrovals : approvals reports r.1.category with
  | [] => simp [happrovals] at hmem
  | [one] => simp_all
  | _ :: _ :: _ => simp

/-- **Verdict, stamp, conditions and recommendations** are all that can change. -/
theorem settle_eq (r : Placed) :
    settle reports now r =
      { r.1 with
        verdict := (settle reports now r).verdict
        recommendations := (settle reports now r).recommendations
        conditions := (settle reports now r).conditions
        approvedAt := (settle reports now r).approvedAt } := by
  simp only [settle]
  split
  · rfl
  · split
    · split <;> rfl
    · rfl

theorem category_settle (r : Placed) : (settle reports now r).category = r.1.category := by
  rw [settle_eq]

/-- A report without a rival stays as it is. -/
theorem settle_of_not_contested (h : ¬ Contested reports r.1) : settle reports now r = r.1 := by
  simp only [settle, length_approvals]
  split
  · rfl
  · rw [if_neg (by simpa [Contested] using h)]

/-- A report with rivals is told of them, and waits unless it is the winner. -/
theorem settle_of_contested (h : Contested reports r.1)
    (hbest : winner reports r.1.category = some best) :
    settle reports now r =
      let told := r.1.recommend (contestedAdvice (rivals reports r.1.category) r.1.category)
      if r.2 = best.2 then told
      else (told.setVerdict .conditional now).require (waitCondition best.1 r.1.category) := by
  have hguard : (r.1.isApproved && decide (2 ≤ rivals reports r.1.category)) = true := by
    simpa [Contested] using h
  simp only [settle, hbest, length_approvals, hguard, if_true]

/-- **What becomes of a report** when conflicts are settled. -/
inductive Settled (reports : List Report) (now : Time) (r : Placed) : Report → Prop where
  /-- one that is not contested stays as it is -/
  | kept (hcontested : ¬ Contested reports r.1) (hrank : ¬ Outranked reports r) :
    Settled reports now r r.1
  /-- the best of several is told so -/
  | told (hcontested : Contested reports r.1) (hrank : ¬ Outranked reports r) :
    Settled reports now r
      (r.1.recommend (contestedAdvice (rivals reports r.1.category) r.1.category))
  /-- every other is told so and has to wait -/
  | waits (hcontested : Contested reports r.1) (hrank : Outranked reports r) (condition : String) :
    Settled reports now r
      (((r.1.recommend (contestedAdvice (rivals reports r.1.category) r.1.category)).setVerdict
        .conditional now).require condition)

theorem settled_settle (now : Time) (hscored : Scored reports) (hr : reports[r.2]? = some r.1) :
    Settled reports now r (settle reports now r) := by
  by_cases hcontested : Contested reports r.1
  · have hmem : r ∈ approvals reports r.1.category :=
      mem_approvals_iff.mpr ⟨hr, hcontested.1, rfl⟩
    obtain ⟨best, hbest⟩ := exists_winner hmem
    have hwaits := place_ne_winner_iff hscored hbest hmem
    simp only [settle_of_contested hcontested hbest]
    split
    · rename_i hplace
      exact .told hcontested fun h => hwaits.mpr h hplace
    · rename_i hplace
      exact .waits hcontested (hwaits.mp hplace) _
  · rw [settle_of_not_contested hcontested]
    exact .kept hcontested fun h => hcontested (contested_of_outranked hscored hr h)

theorem getElem?_resolveConflicts (i : Nat) :
    (resolveConflicts reports now)[i]? = reports[i]?.map fun r => settle reports now (r, i) := by
  simp [resolveConflicts, List.getElem?_zipIdx, Function.comp_def]

/-- **Conflicts are settled** report by report. -/
theorem exists_settled (now : Time) (hscored : Scored reports) {r : Report} {i : Nat}
    (hr : reports[i]? = some r) :
    ∃ r', (resolveConflicts reports now)[i]? = some r' ∧ Settled reports now (r, i) r' := by
  refine ⟨settle reports now (r, i), ?_, settled_settle now hscored hr⟩
  rw [getElem?_resolveConflicts, hr, Option.map_some]

theorem getElem?_flagExcess (limit i : Nat) :
    (flagExcess limit reports)[i]? = reports[i]?.map fun r =>
      if limit ≤ i then r.recommend (excessAdvice reports.length limit) else r := by
  simp [flagExcess, List.getElem?_zipIdx, Function.comp_def]

/-! ## What conflicts depend on -/

/-- What conflicts are settled by. -/
def rating (r : Report) : Bool × Category × Float := (r.isApproved, r.category, r.overallScore)

theorem rivals_congr (h : reports.map rating = others.map rating) (category : Category) :
    rivals reports category = rivals others category := by
  have hcount : ∀ l : List Report,
      rivals l category = (l.map rating).countP fun r => r.1 && r.2.1 == category := by
    intro l
    rw [List.countP_map]
    rfl
  rw [hcount, hcount, h]

theorem contested_congr {r r' : Report} (h : reports.map rating = others.map rating)
    (hr : rating r = rating r') : Contested reports r ↔ Contested others r' := by
  simp only [rating, Prod.mk.injEq] at hr
  rw [Contested, Contested, hr.1, hr.2.1, rivals_congr h]

theorem Outranked.congr {r r' : Report} {i : Nat} (h : reports.map rating = others.map rating)
    (hr : rating r = rating r') (hout : Outranked reports (r, i)) : Outranked others (r', i) := by
  obtain ⟨happroved, ⟨other, j⟩, hother, happroved', hcategory, houtranks⟩ := hout
  have hat : others[j]?.map rating = some (rating other) := by
    rw [← List.getElem?_map, ← h, List.getElem?_map, hother, Option.map_some]
  obtain ⟨other', hother', hrating⟩ := Option.map_eq_some_iff.mp hat
  simp only [rating, Prod.mk.injEq] at hr hrating
  simp only [Outranks] at houtranks
  refine ⟨?_, (other', j), hother', ?_, ?_, ?_⟩
  · rw [← hr.1, happroved]
  · rw [hrating.1, happroved']
  · rw [hrating.2.1, hcategory, hr.2.1]
  · simpa only [Outranks, hrating.2.2, ← hr.2.2] using houtranks

end ShadowGate.Batch
