import ShadowGate.Proofs.Batch
import ShadowGate.Proofs.Strictness

/-!
# One approval per category

When the conflicts of a batch are settled, every category that had an approval is left with one: the
earliest of those with the highest score. The others wait for it. A batch with one approval per
category has no conflicts, so settling them once more changes nothing.

* `Batch.Best` — the approval of a category that stays; `Batch.best_winner` says that the winner of
  the running comparison is the one.
* `Batch.told`, `Batch.waiting` — what becomes of the best of several approvals, and of the others;
  `Batch.settle_eq_told_or_waiting` says so.
* `Batch.approved_settle_iff` — **which reports are approved afterwards**.
* `Batch.not_contested_resolveConflicts`, `Batch.resolveConflicts_of_uncontested` — conflicts that
  are settled are gone, and without conflicts nothing is settled.
* `Batch.conflicts_leave_one_approval` — the theorem.
-/

namespace ShadowGate.Batch

variable {reports : List Report} {category : Category} {now : Time} {r best : Placed}

/-! ## The best approval -/

/-- **The approval of a category that stays**: of those with the highest score, the earliest. -/
structure Best (reports : List Report) (category : Category) (best : Placed) : Prop where
  /-- it is a report of the batch -/
  place : reports[best.2]? = some best.1
  /-- it is approved -/
  approved : best.1.verdict = .approved
  /-- it targets the category -/
  targets : best.1.category = category
  /-- no approval of the category scores higher -/
  highest (i : Nat) (r : Report) : reports[i]? = some r → r.verdict = .approved →
    r.category = category → r.overallScore ≤ best.1.overallScore
  /-- none that scores as high comes earlier -/
  earliest (i : Nat) (r : Report) : reports[i]? = some r → r.verdict = .approved →
    r.category = category → best.1.overallScore ≤ r.overallScore → best.2 ≤ i

theorem standing_le_iff {a b : Placed} :
    standing b ≤ standing a ↔
      Number.rank b.1.overallScore < Number.rank a.1.overallScore ∨
        Number.rank b.1.overallScore = Number.rank a.1.overallScore ∧ a.2 ≤ b.2 := by
  rw [standing, standing, Prod.Lex.toLex_le_toLex, OrderDual.toDual_le_toDual]

/-- **The winner of the running comparison is the best.** -/
theorem best_winner (hscored : Scored reports) (hbest : winner reports category = some best) :
    Best reports category best := by
  obtain ⟨hmem, hhighest⟩ := le_standing_winner hscored hbest
  obtain ⟨hplace, happroved, hcategory⟩ := mem_approvals_iff.mp hmem
  have hnumber : best.1.overallScore.isNaN = false := isNaN_of_mem_approvals hscored hmem
  have happroval : ∀ (i : Nat) (r : Report), reports[i]? = some r → r.verdict = .approved →
      r.category = category → (r, i) ∈ approvals reports category := by
    intro i r hr ha hc
    exact mem_approvals_iff.mpr ⟨hr, Report.isApproved_eq_true_iff.mpr ha, hc⟩
  refine ⟨hplace, Report.isApproved_eq_true_iff.mp happroved, hcategory, ?_, ?_⟩
  · intro i r hr ha hc
    have hr' : r.overallScore.isNaN = false := hscored r (List.mem_of_getElem? hr)
    rw [Number.le_iff_rank_le hr' hnumber]
    rcases standing_le_iff.mp (hhighest (r, i) (happroval i r hr ha hc)) with hlower | ⟨hsame, -⟩
    · exact hlower.le
    · exact hsame.le
  · intro i r hr ha hc hle
    have hr' : r.overallScore.isNaN = false := hscored r (List.mem_of_getElem? hr)
    rw [Number.le_iff_rank_le hnumber hr'] at hle
    rcases standing_le_iff.mp (hhighest (r, i) (happroval i r hr ha hc)) with hlower | ⟨-, hlater⟩
    · exact absurd hlower hle.not_gt
    · exact hlater

/-! ## What becomes of a report -/

/-- The best of several approvals: it is told of the others. -/
def told (approved : Nat) (r : Report) : Report :=
  { r with
    recommendations := r.recommendations ++
      [Number.natText approved ++ " approved changes target " ++ r.category.tag
        ++ "; merge them one at a time"] }

/-- Any other of several approvals: it is told of the others, and waits for the best. -/
def waiting (approved : Nat) (best r : Report) : Report :=
  { told approved r with
    verdict := .conditional
    approvedAt := none
    conditions := r.conditions ++
      ["conflicts with " ++ best.changeId ++ " in " ++ r.category.tag
        ++ "; merge after it and re-validate"] }

/-- **A report with rivals** is told of them, and waits unless it is the best. -/
theorem settle_eq_told_or_waiting (h : Contested reports r.1)
    (hbest : winner reports r.1.category = some best) :
    settle reports now r =
      if r.2 = best.2 then told (rivals reports r.1.category) r.1
      else waiting (rivals reports r.1.category) best.1 r.1 :=
  settle_of_contested h hbest

/-- The best of several approvals is told of the others. -/
theorem settle_winner (hscored : Scored reports) (hbest : winner reports category = some best)
    (hrivals : 2 ≤ rivals reports category) :
    settle reports now best = told (rivals reports category) best.1 := by
  have hwinner := best_winner hscored hbest
  obtain rfl : best.1.category = category := hwinner.targets
  have hcontested : Contested reports best.1 :=
    ⟨Report.isApproved_eq_true_iff.mpr hwinner.approved, hrivals⟩
  rw [settle_eq_told_or_waiting hcontested hbest, if_pos rfl]

/-- Every other approval waits for the best. -/
theorem settle_of_place_ne_winner (hscored : Scored reports)
    (hbest : winner reports category = some best) (hr : r ∈ approvals reports category)
    (hne : r.2 ≠ best.2) :
    settle reports now r = waiting (rivals reports category) best.1 r.1 := by
  obtain ⟨hplace, -, rfl⟩ := mem_approvals_iff.mp hr
  have hcontested : Contested reports r.1 :=
    contested_of_outranked hscored hplace ((place_ne_winner_iff hscored hbest hr).mp hne)
  rw [settle_eq_told_or_waiting hcontested hbest, if_neg hne]

/-- An approval without a rival is the best of its category. -/
theorem place_eq_of_not_contested (hscored : Scored reports) (hr : reports[r.2]? = some r.1)
    (happroved : r.1.isApproved = true) (h : ¬ Contested reports r.1)
    (hbest : winner reports r.1.category = some best) : r.2 = best.2 := by
  have hmem : r ∈ approvals reports r.1.category := mem_approvals_iff.mpr ⟨hr, happroved, rfl⟩
  by_contra hne
  exact h (contested_of_outranked hscored hr
    ((place_ne_winner_iff hscored hbest hmem).mp hne))

/-- **A report is approved afterwards** exactly if it is the best of its category. -/
theorem approved_settle_iff (hscored : Scored reports) (hr : reports[r.2]? = some r.1) :
    (settle reports now r).verdict = .approved ↔
      ∃ best, winner reports r.1.category = some best ∧ r.2 = best.2 := by
  by_cases hcontested : Contested reports r.1
  · obtain ⟨best, hbest⟩ := exists_winner (mem_approvals_iff.mpr ⟨hr, hcontested.1, rfl⟩)
    rw [settle_eq_told_or_waiting hcontested hbest, hbest]
    split
    · rename_i hplace
      exact iff_of_true (Report.isApproved_eq_true_iff.mp hcontested.1) ⟨best, rfl, hplace⟩
    · rename_i hplace
      refine iff_of_false nofun ?_
      rintro ⟨best', hbest', hplace'⟩
      exact hplace (Option.some.inj hbest' ▸ hplace')
  · rw [settle_of_not_contested hcontested]
    constructor
    · intro happroved
      have happroved' := Report.isApproved_eq_true_iff.mpr happroved
      obtain ⟨best, hbest⟩ := exists_winner (mem_approvals_iff.mpr ⟨hr, happroved', rfl⟩)
      exact ⟨best, hbest, place_eq_of_not_contested hscored hr happroved' hcontested hbest⟩
    · rintro ⟨best, hbest, hplace⟩
      have hwinner := best_winner hscored hbest
      have hsame := hwinner.place
      rw [← hplace, hr, Option.some.injEq] at hsame
      rw [hsame]
      exact hwinner.approved

/-! ## Settling conflicts once more -/

/-- **Without conflicts nothing is settled.** -/
theorem resolveConflicts_of_uncontested (h : ∀ r ∈ reports, ¬ Contested reports r) :
    resolveConflicts reports now = reports := by
  refine List.ext_getElem? fun i => ?_
  rw [getElem?_resolveConflicts]
  cases hr : reports[i]? with
  | none => rfl
  | some r => exact congrArg some (settle_of_not_contested (h r (List.mem_of_getElem? hr)))

/-- **Conflicts that are settled are gone**: a category has one approval at most. -/
theorem not_contested_resolveConflicts (hscored : Scored reports) (r : Report) :
    ¬ Contested (resolveConflicts reports now) r := by
  rintro ⟨-, hrivals⟩
  rw [← length_approvals] at hrivals
  have hsorted := pairwise_approvals (resolveConflicts reports now) r.category
  have hplace : ∀ a ∈ approvals (resolveConflicts reports now) r.category,
      ∃ best, winner reports r.category = some best ∧ a.2 = best.2 := by
    intro a ha
    obtain ⟨hi, happroved, hcategory⟩ := mem_approvals_iff.mp ha
    rw [getElem?_resolveConflicts] at hi
    obtain ⟨a₀, ha₀, hsettled⟩ := Option.map_eq_some_iff.mp hi
    rw [← hsettled, category_settle] at hcategory
    rw [← hsettled, Report.isApproved_eq_true_iff, approved_settle_iff hscored ha₀,
      hcategory] at happroved
    exact happroved
  match happrovals : approvals (resolveConflicts reports now) r.category with
  | [] => simp [happrovals] at hrivals
  | [a] => simp [happrovals] at hrivals
  | a :: b :: rest =>
    rw [happrovals] at hsorted hplace
    obtain ⟨best, hbest, ha⟩ := hplace a (by simp)
    obtain ⟨best', hbest', hb⟩ := hplace b (by simp)
    obtain rfl := Option.some.inj (hbest.symm.trans hbest')
    have hlt : a.2 < b.2 := List.rel_of_pairwise_cons hsorted List.mem_cons_self
    omega

/-! ## The theorem -/

/-- Settling conflicts does not raise a verdict. -/
theorem rank_settle_le (r : Placed) : (settle reports now r).verdict.rank ≤ r.1.verdict.rank := by
  by_cases hcontested : Contested reports r.1
  · have hhighest : r.1.verdict.rank = 3 := by
      rw [Report.isApproved_eq_true_iff.mp hcontested.1]
      rfl
    rw [hhighest]
    cases (settle reports now r).verdict <;> decide
  · rw [settle_of_not_contested hcontested]

/-- **Conflicts leave one approval per category.** For every batch whose scores are numbers: the
reports stay what and where they were, up to verdict, stamp, conditions and recommendations; no
verdict is raised; and a report that is not approved, or is the only approval of its category, stays
as it is altogether. A category that had an approval has exactly one afterwards, and that is the
earliest of those with the highest score. If it was one of several it is told so; every other
becomes conditional, without a stamp, is told so as well, and has one more condition, which names
the report to wait for. Settling conflicts once more, at whatever time, changes nothing. -/
theorem conflicts_leave_one_approval (reports : List Report) (now : Time)
    (hscored : Scored reports) :
    let resolved := resolveConflicts reports now
    resolved.length = reports.length ∧
    (∀ (i : Nat) (r : Report), reports[i]? = some r → ∃ r', resolved[i]? = some r' ∧
      r' = { r with
        verdict := r'.verdict
        recommendations := r'.recommendations
        conditions := r'.conditions
        approvedAt := r'.approvedAt } ∧
      r'.verdict.rank ≤ r.verdict.rank ∧
      (r.verdict ≠ .approved ∨ rivals reports r.category = 1 → r' = r)) ∧
    (∀ category, (∃ r ∈ reports, r.verdict = .approved ∧ r.category = category) →
      ∃ best, Best reports category best ∧
        (∀ (i : Nat) (r' : Report), resolved[i]? = some r' → r'.category = category →
          (r'.verdict = .approved ↔ i = best.2)) ∧
        (2 ≤ rivals reports category →
          resolved[best.2]? = some (told (rivals reports category) best.1)) ∧
        ∀ (i : Nat) (r : Report), reports[i]? = some r → r.verdict = .approved →
          r.category = category → i ≠ best.2 →
          resolved[i]? = some (waiting (rivals reports category) best.1 r)) ∧
    ∀ later, resolveConflicts resolved later = resolved := by
  intro resolved
  have hat : ∀ i, resolved[i]? = reports[i]?.map fun r => settle reports now (r, i) :=
    fun i => getElem?_resolveConflicts i
  refine ⟨by simp [resolved, resolveConflicts], ?_, ?_, ?_⟩
  · intro i r hr
    refine ⟨settle reports now (r, i), by rw [hat, hr, Option.map_some], settle_eq (r, i),
      rank_settle_le (r, i), fun halone => settle_of_not_contested (r := (r, i)) ?_⟩
    rintro ⟨happroved, hrivals⟩
    rcases halone with hnot | hone
    · exact hnot (Report.isApproved_eq_true_iff.mp happroved)
    · exact absurd hrivals (by rw [hone]; decide)
  · rintro category ⟨first, hfirst, hverdict, rfl⟩
    obtain ⟨n, hn⟩ := List.mem_iff_getElem?.mp hfirst
    obtain ⟨best, hbest⟩ := exists_winner (r := (first, n))
      (mem_approvals_iff.mpr ⟨hn, Report.isApproved_eq_true_iff.mpr hverdict, rfl⟩)
    have hwinner := best_winner hscored hbest
    refine ⟨best, hwinner, ?_, ?_, ?_⟩
    · intro i r' hr' hcategory
      rw [hat] at hr'
      obtain ⟨r, hr, rfl⟩ := Option.map_eq_some_iff.mp hr'
      rw [category_settle] at hcategory
      rw [approved_settle_iff hscored hr, hcategory, hbest]
      simp
    · intro hrivals
      rw [hat, hwinner.place]
      exact congrArg some (settle_winner hscored hbest hrivals)
    · intro i r hr ha hc hne
      have hmem : (r, i) ∈ approvals reports first.category :=
        mem_approvals_iff.mpr ⟨hr, Report.isApproved_eq_true_iff.mpr ha, hc⟩
      rw [hat, hr]
      exact congrArg some (settle_of_place_ne_winner hscored hbest hmem hne)
  · intro later
    exact resolveConflicts_of_uncontested fun r _ => not_contested_resolveConflicts hscored r

/-- A report with nothing in it but what conflicts are settled by. -/
def rated (changeId : String) (category : Category) (verdict : Verdict) (score : Float) :
    Report where
  changeId := changeId
  category := category
  verdict := verdict
  overallScore := score
  safetyScore := score
  performanceScore := score
  ethicsScore := score
  riskLevel := 0.0
  rollbackReady := true
  rollbackRequired := true
  approvedAt := if verdict = .approved then some 0 else none

/-- Two contested categories in turn, with ties at the top of both, and a rejection. -/
def contestedReports : List Report :=
  [rated "a" .metaLearning .approved 0.9, rated "b" .ethicalFramework .approved 0.85,
   rated "c" .metaLearning .approved 0.95, rated "d" .ethicalFramework .approved 0.85,
   rated "e" .metaLearning .approved 0.95, rated "f" .metaLearning .rejected 0.99]

/-- Of three approvals the second stays: it scores higher than the first, and as high as the third,
which waits for it. -/
theorem second_of_three_approvals_stays :
    Scored contestedReports ∧
    (resolveConflicts contestedReports 7).map Report.verdict =
      [.conditional, .approved, .approved, .conditional, .conditional, .rejected] ∧
    (∃ best, Best contestedReports .metaLearning best ∧ best.2 = 2 ∧
      (resolveConflicts contestedReports 7)[4]? =
        some (waiting 3 best.1 (rated "e" .metaLearning .approved 0.95))) ∧
    resolveConflicts (resolveConflicts contestedReports 7) 8 =
      resolveConflicts contestedReports 7 := by
  have hscored : ∀ r ∈ contestedReports, r.overallScore.isNaN = false := by decide
  have hverdicts : (resolveConflicts contestedReports 7).map Report.verdict =
      [.conditional, .approved, .approved, .conditional, .conditional, .rejected] := by decide
  obtain ⟨-, -, hcategories, hagain⟩ := conflicts_leave_one_approval contestedReports 7 hscored
  obtain ⟨best, hbest, hone, -, hothers⟩ :=
    hcategories .metaLearning ⟨_, List.mem_cons_self, rfl, rfl⟩
  have hplace : best.2 = 2 := ((hone 2 _ rfl (by decide)).mp (by decide)).symm
  refine ⟨hscored, hverdicts, ⟨best, hbest, hplace, ?_⟩, hagain 8⟩
  exact hothers 4 _ rfl rfl rfl (by rw [hplace]; decide)

end ShadowGate.Batch
