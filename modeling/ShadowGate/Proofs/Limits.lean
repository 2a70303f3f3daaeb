import ShadowGate.Proofs.Decision
import ShadowGate.Proofs.Score

/-!
# Limits that are undefined

Every score of a report is defined, but the limits that it is held against need not be: thresholds
and tolerances are whatever doubles the criteria and the policies bring. A proposal is stopped by a
score *below* its threshold and by a risk *above* the tolerance, and nothing is below or above an
undefined limit. So **an undefined limit stops nobody**: the gate stays open where it should be
closed. Settings in normal form bring no such limit; criteria and policies that are made by hand
may.

* `Report.MeetsDefined` — the requirements of an approval as they are in effect, and
  `Report.meetsDefined_iff_clears`.
* `Settings.inUnit_unitOr` — what settings in normal form have for a threshold.
* `undefined_limits_stop_nobody` — the theorem, and `undefined_limits_approve_hazards`: three
  proposals that one limit each would have stopped.
-/

namespace ShadowGate

/-! ## Requirements in effect -/

/-- **The requirements of an approval, as far as limits are defined.** -/
structure Report.MeetsDefined (r : Report) (c : Criteria) (policy : Policy) : Prop where
  /-- safety reaches its threshold, if that is defined -/
  safe : c.safetyThreshold.isNaN = false → c.safetyThreshold ≤ r.safetyScore
  /-- so does ethics -/
  ethical : c.ethicsThreshold.isNaN = false → c.ethicsThreshold ≤ r.ethicsScore
  /-- an undo path was demonstrated, or neither the criteria nor the category ask for one -/
  undoable : r.rollbackReady = true ∨
    c.rollbackRequirement = false ∧ policy.rollbackCritical = false
  /-- the overall score is high enough -/
  scored : r.overallScore ≥ 0.8
  /-- the risk stays within what the category tolerates, if that is defined -/
  tolerable : policy.maxRiskTolerance.isNaN = false → r.riskLevel ≤ policy.maxRiskTolerance
  /-- where consensus is asked for, every check reaches the threshold of its dimension, if that is
  defined -/
  agreed : c.approvalConsensus = true → ∀ check ∈ r.details.checks,
    (c.threshold check.kind).isNaN = false → c.threshold check.kind ≤ check.score

/-- **What the gate asks for** of defined scores is what the defined limits ask for. -/
theorem Report.meetsDefined_iff_clears {r : Report} (hr : r.Bounded) (c : Criteria)
    (policy : Policy) : r.Clears c policy ↔ r.MeetsDefined c policy := by
  have hsafe : ¬ r.safetyScore < c.safetyThreshold ↔
      (c.safetyThreshold.isNaN = false → c.safetyThreshold ≤ r.safetyScore) :=
    Number.not_lt_iff.trans (imp_iff_right hr.safety.defined)
  have hethical : ¬ r.ethicsScore < c.ethicsThreshold ↔
      (c.ethicsThreshold.isNaN = false → c.ethicsThreshold ≤ r.ethicsScore) :=
    Number.not_lt_iff.trans (imp_iff_right hr.ethics.defined)
  have htolerable : ¬ r.riskLevel > policy.maxRiskTolerance ↔
      (policy.maxRiskTolerance.isNaN = false → r.riskLevel ≤ policy.maxRiskTolerance) :=
    Number.not_lt_iff.trans (imp_congr_right fun _ => imp_iff_right hr.riskLevel.defined)
  have hagreed : ∀ check ∈ r.details.checks, ¬ check.score < c.threshold check.kind ↔
      ((c.threshold check.kind).isNaN = false → c.threshold check.kind ≤ check.score) :=
    fun check hcheck => Number.not_lt_iff.trans (imp_iff_right (hr.checks check hcheck).defined)
  constructor
  · intro h
    exact ⟨hsafe.mp h.safe, hethical.mp h.ethical, h.undoable, h.scored, htolerable.mp h.tolerable,
      fun hc check hcheck => (hagreed check hcheck).mp (h.agreed hc check hcheck)⟩
  · intro h
    exact ⟨hsafe.mpr h.safe, hethical.mpr h.ethical, h.undoable, h.scored,
      htolerable.mpr h.tolerable,
      fun hc check hcheck => (hagreed check hcheck).mpr (h.agreed hc check hcheck)⟩

/-- A threshold of settings in normal form is a score, whatever stood there. -/
theorem Settings.inUnit_unitOr (x : Float) {fallback : Float} (hf : Score.InUnit fallback) :
    Score.InUnit (unitOr x fallback) := by
  rw [unitOr]
  split
  · rename_i hx
    exact Score.inUnit_clamp (Number.isNaN_of_isFinite hx)
  · exact hf

/-! ## The gate -/

/-- **An undefined limit stops nobody.** For all checks, policies, proposals and criteria, whatever
doubles they hold, and whatever exercising the undo path showed: the report approves exactly if it
meets every limit that is defined, and the requirements that are no limits. So with an undefined
threshold of safety or of ethics, or an undefined tolerance, it still approves whatever meets the
rest. Criteria made from settings in normal form have both thresholds defined. -/
theorem undefined_limits_stop_nobody (checks : CheckSet) (policies : PolicyTable) (p : Proposal)
    (c : Criteria) (probe : Probe) (now : Time) :
    let r := assess checks policies p c probe now
    let policy := policies.get p.category
    (r.verdict = .approved ↔ r.MeetsDefined c policy) ∧
    ∀ s : Settings, (Criteria.ofSettings s.normalized).safetyThreshold.isNaN = false ∧
      (Criteria.ofSettings s.normalized).ethicsThreshold.isNaN = false := by
  intro r policy
  have hverdict : r.verdict = ((r.card c).decision c policy).verdict :=
    verdict_assess checks policies p c probe now
  have hrisk : r.details.risk.exceedsTolerance =
      decide (r.riskLevel > policy.maxRiskTolerance) :=
    exceedsTolerance_assess checks policies p c probe now
  have hbounded : r.Bounded := bounded_assess checks policies p c probe now
  refine ⟨?_, fun s => ⟨?_, ?_⟩⟩
  · rw [hverdict, Scorecard.verdict_decision_eq_approved_iff, ← Report.clears_iff hrisk]
    exact Report.meetsDefined_iff_clears hbounded c policy
  · exact (Settings.inUnit_unitOr _ ⟨by decide, by decide, by decide⟩).defined
  · exact (Settings.inUnit_unitOr _ ⟨by decide, by decide, by decide⟩).defined

/-- A proposal that promises performance and has nothing against it but its description and its
risks. -/
def promising (description : String) (risks : List String) : Proposal where
  id := "p"
  source := ""
  category := .metaLearning
  description := description
  benefits := ["faster", "more speed"]
  risks := risks
  confidence := 1.0

/-- The policies that tolerate an undefined amount of risk. -/
def undefinedTolerance : PolicyTable :=
  PolicyTable.set {} .metaLearning { maxRiskTolerance := Number.undefined }

/-- **Three hazards are approved** under an undefined limit of safety, of ethics and of risk. The
default limits reject the first two, and approve the third under conditions only. -/
theorem undefined_limits_approve_hazards :
    let verdict (policies : PolicyTable) (p : Proposal) (c : Criteria) : Verdict :=
      (assess .builtin policies p c { ready := true } 0).verdict
    verdict {} (promising "override" []) {} = .rejected ∧
    verdict {} (promising "override" []) { safetyThreshold := Number.undefined } = .approved ∧
    verdict {} (promising "harm" []) {} = .rejected ∧
    verdict {} (promising "harm" []) { ethicsThreshold := Number.undefined } = .approved ∧
    verdict {} (promising "tune" ["critical"]) {} = .conditional ∧
    verdict undefinedTolerance (promising "tune" ["critical"]) {} = .approved := by
  decide +kernel

end ShadowGate
