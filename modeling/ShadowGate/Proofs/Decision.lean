import ShadowGate.Report

/-!
# When a proposal is approved

A decision goes through three stages: hard rejections, the overall score, and the two caps. The
lemmas here say of each stage when it lets an approval through, and put the stages together. A
report carries everything that its decision looked at, so the whole can be said of the report's own
fields.

* `Scorecard.hardRejections_eq_nil_iff`, `Scorecard.capped_eq_approved_iff` — the first stage, and
  the other two.
* `Scorecard.conditions_eq_nil_iff` — **conditions stand exactly on a conditional verdict**,
  whichever of the stages made it one.
* `Report.card` — what a report shows of its scorecard; `verdict_assess` and its neighbours say that
  the report is the decision on it.
* `Report.Clears` — the six requirements of an approval, and `Report.clears_iff`: they are what the
  stages ask for.
* `assess_approves_iff_clears` — the theorem.
-/

namespace ShadowGate

/-! ## The stages -/

namespace Decision

theorem when_eq_nil_iff {b : Bool} {s : String} : when b s = [] ↔ b = false := by
  cases b <;> simp [when]

theorem byScore_eq_approved_iff {overall : Float} :
    byScore overall = .approved ↔ overall ≥ approveAt := by
  rw [byScore]
  split
  · rename_i h
    simp [h]
  · rename_i h
    -- below the first step of the ladder no other step approves
    split
    · simp [h]
    · split <;> simp [h]

theorem rollbackRequired_eq_false_iff {c : Criteria} {p : Policy} :
    rollbackRequired c p = false ↔ c.rollbackRequirement = false ∧ p.rollbackCritical = false := by
  rw [rollbackRequired, Bool.or_eq_false_iff]

end Decision

/-- Nobody dissents exactly if no check scores below the threshold of its own dimension. -/
theorem dissenting_eq_nil_iff {checks : List CheckScore} {c : Criteria} :
    dissenting checks c = [] ↔ ∀ check ∈ checks, ¬ check.score < c.threshold check.kind := by
  simp [dissenting, List.filter_eq_nil_iff]

namespace Scorecard

open Decision

variable {card : Scorecard} {c : Criteria} {p : Policy}

/-- **The first stage** finds nothing exactly if both scores reach their thresholds and an undo path
was demonstrated where one is required. -/
theorem hardRejections_eq_nil_iff (card : Scorecard) (c : Criteria) (p : Policy) :
    card.hardRejections c p = [] ↔
      ¬ card.safety < c.safetyThreshold ∧ ¬ card.ethics < c.ethicsThreshold ∧
        (card.rollbackReady = true ∨ rollbackRequired c p = false) := by
  rw [hardRejections, List.append_eq_nil_iff, List.append_eq_nil_iff, when_eq_nil_iff,
    when_eq_nil_iff, when_eq_nil_iff, decide_eq_false_iff_not, decide_eq_false_iff_not, and_assoc]
  cases card.rollbackReady <;> simp

theorem hardRejections_ne_nil_iff (card : Scorecard) (c : Criteria) (p : Policy) :
    card.hardRejections c p ≠ [] ↔
      card.safety < c.safetyThreshold ∨ card.ethics < c.ethicsThreshold ∨
        card.rollbackReady = false ∧
          (c.rollbackRequirement = true ∨ p.rollbackCritical = true) := by
  rw [Ne, hardRejections_eq_nil_iff, rollbackRequired_eq_false_iff]
  simp only [Classical.not_and_iff_not_or_not, Classical.not_not, not_or, Bool.not_eq_true,
    Bool.not_eq_false]

theorem cappedByRisk_eq_approved_iff :
    card.cappedByRisk = .approved ↔
      card.overall ≥ approveAt ∧ card.risk.exceedsTolerance = false := by
  rw [cappedByRisk, riskCaps, ← byScore_eq_approved_iff]
  cases byScore card.overall <;> cases card.risk.exceedsTolerance <;> simp

/-- **The other stages** approve exactly if the overall score is high enough and neither cap
applies. -/
theorem capped_eq_approved_iff (card : Scorecard) (c : Criteria) :
    card.capped c = .approved ↔
      card.overall ≥ approveAt ∧ card.risk.exceedsTolerance = false ∧
        (c.approvalConsensus = true → card.dissent = []) := by
  rw [capped, dissentCaps, ← and_assoc, ← cappedByRisk_eq_approved_iff]
  cases card.cappedByRisk <;> cases c.approvalConsensus <;> simp

/-- Nothing but a conditional verdict gives rise to conditions. -/
theorem namedConditions_eq_nil (hv : card.capped c ≠ .conditional) :
    card.namedConditions c = [] := by
  obtain ⟨hdissent, hrisk⟩ :
      dissentCaps card c (cappedByRisk card) = false ∧ ¬ cappedByRisk card = .conditional := by
    rw [capped] at hv
    simpa using hv
  rw [cappedByRisk] at hrisk
  simp only [namedConditions, List.append_eq_nil_iff, when_eq_nil_iff, hdissent]
  cases hscore : byScore card.overall <;> simp_all

/-- **Conditions stand exactly on a conditional verdict.** -/
theorem conditions_eq_nil_iff : card.conditions c = [] ↔ card.capped c ≠ .conditional := by
  rw [conditions]
  by_cases hv : card.capped c = .conditional
  · cases hnamed : card.namedConditions c <;> simp [hv]
  · simp [hv, namedConditions_eq_nil hv]

/-! ### The decision -/

@[simp] theorem hardRejections_decision :
    (card.decision c p).hardRejections = card.hardRejections c p := by
  rw [decision]
  cases card.hardRejections c p <;> simp

theorem decision_of_hardRejections (h : card.hardRejections c p ≠ []) :
    (card.decision c p).verdict = .rejected ∧ (card.decision c p).conditions = [] := by
  rw [decision]
  cases hhard : card.hardRejections c p with
  | nil => exact absurd hhard h
  | cons reason rest => simp

theorem decision_of_no_hardRejections (h : card.hardRejections c p = []) :
    (card.decision c p).verdict = card.capped c ∧
      (card.decision c p).conditions = card.conditions c := by
  rw [decision, h]
  exact ⟨rfl, rfl⟩

/-- **A decision approves** exactly if every stage does. -/
theorem verdict_decision_eq_approved_iff :
    (card.decision c p).verdict = .approved ↔
      card.hardRejections c p = [] ∧ card.capped c = .approved := by
  by_cases h : card.hardRejections c p = []
  · simp [h, (decision_of_no_hardRejections h).1]
  · simp [h, (decision_of_hardRejections h).1]

theorem conditions_decision_eq_nil_iff :
    (card.decision c p).conditions = [] ↔ (card.decision c p).verdict ≠ .conditional := by
  by_cases h : card.hardRejections c p = []
  · obtain ⟨hverdict, hconditions⟩ := decision_of_no_hardRejections h
    rw [hverdict, hconditions, conditions_eq_nil_iff]
  · simp [decision_of_hardRejections h]

end Scorecard

/-! ## Reports -/

namespace Report

/-- The scorecard that a report shows, under criteria. -/
def card (r : Report) (c : Criteria) : Scorecard where
  safety := r.safetyScore
  performance := r.performanceScore
  ethics := r.ethicsScore
  overall := r.overallScore
  rollbackReady := r.rollbackReady
  risk := r.details.risk
  dissent := dissenting r.details.checks c

/-- **The requirements of an approval**, on the report's own fields. -/
structure Clears (r : Report) (c : Criteria) (policy : Policy) : Prop where
  /-- safety is not below its threshold -/
  safe : ¬ r.safetyScore < c.safetyThreshold
  /-- neither is ethics -/
  ethical : ¬ r.ethicsScore < c.ethicsThreshold
  /-- an undo path was demonstrated, or neither the criteria nor the category ask for one -/
  undoable : r.rollbackReady = true ∨
    c.rollbackRequirement = false ∧ policy.rollbackCritical = false
  /-- the overall score is high enough -/
  scored : r.overallScore ≥ 0.8
  /-- the risk is not above what the category tolerates -/
  tolerable : ¬ r.riskLevel > policy.maxRiskTolerance
  /-- where consensus is asked for, no check scores below the threshold of its own dimension -/
  agreed : c.approvalConsensus = true →
    ∀ check ∈ r.details.checks, ¬ check.score < c.threshold check.kind

/-- **The requirements are what the stages ask for**, if the report's risk was held against the
tolerance of the policy. -/
theorem clears_iff {r : Report} {c : Criteria} {policy : Policy}
    (hrisk : r.details.risk.exceedsTolerance =
      decide (r.riskLevel > policy.maxRiskTolerance)) :
    r.Clears c policy ↔
      (r.card c).hardRejections c policy = [] ∧ (r.card c).capped c = .approved := by
  rw [Scorecard.hardRejections_eq_nil_iff, Decision.rollbackRequired_eq_false_iff,
    Scorecard.capped_eq_approved_iff]
  constructor
  · rintro ⟨hsafe, hethical, hundoable, hscored, htolerable, hagreed⟩
    refine ⟨⟨hsafe, hethical, hundoable⟩, hscored, ?_, fun hc => ?_⟩
    · exact hrisk.trans (decide_eq_false htolerable)
    · exact dissenting_eq_nil_iff.mpr (hagreed hc)
  · rintro ⟨⟨hsafe, hethical, hundoable⟩, hscored, htolerable, hagreed⟩
    refine ⟨hsafe, hethical, hundoable, hscored, ?_, fun hc => ?_⟩
    · exact of_decide_eq_false (hrisk.symm.trans htolerable)
    · exact dissenting_eq_nil_iff.mp (hagreed hc)

end Report

section Assess

variable (checks : CheckSet) (policies : PolicyTable) (p : Proposal) (c : Criteria) (probe : Probe)
  (now : Time)

/-- **A report is the decision on the scorecard that it shows.** -/
theorem verdict_assess :
    (assess checks policies p c probe now).verdict =
      (((assess checks policies p c probe now).card c).decision c
        (policies.get p.category)).verdict := rfl

theorem conditions_assess :
    (assess checks policies p c probe now).conditions =
      (((assess checks policies p c probe now).card c).decision c
        (policies.get p.category)).conditions := rfl

theorem hardRejections_assess :
    (assess checks policies p c probe now).details.hardRejections =
      ((assess checks policies p c probe now).card c).hardRejections c
        (policies.get p.category) :=
  Scorecard.hardRejections_decision

/-- The tolerance that a report's risk is held against is that of the category. -/
theorem exceedsTolerance_assess :
    (assess checks policies p c probe now).details.risk.exceedsTolerance =
      decide ((assess checks policies p c probe now).riskLevel >
        (policies.get p.category).maxRiskTolerance) := rfl

/-- **Every check that concerns the category is on record**, whether it gave a score or not. -/
theorem run_mem_checks_assess {check : Check} (hcheck : check ∈ checks.forCategory p.category) :
    check.run p ∈ (assess checks policies p c probe now).details.checks := by
  have hrun : check.run p ∈ checks.run p check.kind :=
    List.mem_map.mpr ⟨check, List.mem_filter.mpr ⟨hcheck, by simp⟩, rfl⟩
  simp only [Details.checks, assess, List.mem_append]
  cases hkind : check.kind <;> simp [← hkind, hrun]

end Assess

/-- **A proposal is approved exactly if its report clears every requirement.** For all checks,
whether they give scores, fail or die, all policies, proposals and criteria, and whatever exercising
the undo path showed: the report approves if and only if it clears the six requirements. There are
hard rejections if and only if one of the first three is not met, and the report rejects then. What
the report holds against the requirements is what was found: the outcome of the probe, and a line
for every check that concerns the category. -/
theorem assess_approves_iff_clears (checks : CheckSet) (policies : PolicyTable) (p : Proposal)
    (c : Criteria) (probe : Probe) (now : Time) :
    let r := assess checks policies p c probe now
    let policy := policies.get p.category
    (r.verdict = .approved ↔ r.Clears c policy) ∧
    (r.details.hardRejections ≠ [] ↔
      r.safetyScore < c.safetyThreshold ∨ r.ethicsScore < c.ethicsThreshold ∨
        r.rollbackReady = false ∧
          (c.rollbackRequirement = true ∨ policy.rollbackCritical = true)) ∧
    (r.details.hardRejections ≠ [] → r.verdict = .rejected) ∧
    r.rollbackReady = probe.ready ∧
    ∀ check ∈ checks.forCategory p.category, check.run p ∈ r.details.checks := by
  intro r policy
  have hhard : r.details.hardRejections = (r.card c).hardRejections c policy :=
    hardRejections_assess checks policies p c probe now
  have hverdict : r.verdict = ((r.card c).decision c policy).verdict :=
    verdict_assess checks policies p c probe now
  have hrisk : r.details.risk.exceedsTolerance =
      decide (r.riskLevel > policy.maxRiskTolerance) :=
    exceedsTolerance_assess checks policies p c probe now
  rw [hhard]
  refine ⟨?_, (r.card c).hardRejections_ne_nil_iff c policy, fun h => ?_, rfl,
    fun check hcheck => run_mem_checks_assess checks policies p c probe now hcheck⟩
  · rw [hverdict, Scorecard.verdict_decision_eq_approved_iff, Report.clears_iff hrisk]
  · rw [hverdict]
    exact (Scorecard.decision_of_hardRejections h).1

end ShadowGate
