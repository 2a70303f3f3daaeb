import ShadowGate.Decision
import ShadowGate.Time

/-!
# Validation reports

The scored verdict that gates a merge, with the breakdown that led to it.

* `Report.setVerdict` — changing the verdict keeps the rest in line: an approval is stamped, any
  other verdict has no stamp, and only a conditional one keeps conditions.
* `assess` — the report of a proposal, given whether its undo path works.
-/

namespace ShadowGate

/-- How a report's scores came about. -/
structure Details where
  /-- scores of the safety checks -/
  safetyChecks : List CheckScore := []
  /-- scores of the performance checks -/
  performanceChecks : List CheckScore := []
  /-- what promised benefits add to performance -/
  performanceBonus : Float := 0.0
  /-- scores of the ethics checks -/
  ethicsChecks : List CheckScore := []
  /-- what the safety average was multiplied by -/
  safetyMultiplier : Float := 0.0
  /-- what the ethics average was multiplied by -/
  ethicsMultiplier : Float := 0.0
  /-- the risk -/
  risk : Risk.Assessment := {}
  /-- the mean of the three dimensions -/
  compositeBase : Float := 0.0
  /-- why the proposal is rejected outright -/
  hardRejections : List String := []
deriving Inhabited, DecidableEq

namespace Details

/-- Every check score, safety first. -/
def checks (d : Details) : List CheckScore :=
  d.safetyChecks ++ d.performanceChecks ++ d.ethicsChecks

/-- Details as a value. -/
def toJson (d : Details) : Json :=
  Json.object
    [("safety_checks", Json.ofList CheckScore.toJson d.safetyChecks),
     ("performance_checks", Json.ofList CheckScore.toJson d.performanceChecks),
     ("performance_bonus", Json.ofFloat d.performanceBonus),
     ("ethics_checks", Json.ofList CheckScore.toJson d.ethicsChecks),
     ("safety_multiplier", Json.ofFloat d.safetyMultiplier),
     ("ethics_multiplier", Json.ofFloat d.ethicsMultiplier),
     ("risk", d.risk.toJson),
     ("composite_base", Json.ofFloat d.compositeBase),
     ("hard_rejections", Json.ofList .str d.hardRejections)]

end Details

/-- The scored verdict on a proposal. -/
structure Report where
  /-- the proposal's name -/
  changeId : String
  /-- the area it targets -/
  category : Category
  /-- the verdict -/
  verdict : Verdict
  /-- overall score -/
  overallScore : Float
  /-- safety score -/
  safetyScore : Float
  /-- performance score -/
  performanceScore : Float
  /-- ethics score -/
  ethicsScore : Float
  /-- level of risk -/
  riskLevel : Float
  /-- whether an undo path was demonstrated -/
  rollbackReady : Bool
  /-- whether one is required -/
  rollbackRequired : Bool
  /-- how the scores came about -/
  details : Details := {}
  /-- what to do next -/
  recommendations : List String := []
  /-- what a conditional verdict depends on -/
  conditions : List String := []
  /-- when the proposal was approved -/
  approvedAt : Option Time := none
deriving Inhabited, DecidableEq

namespace Report

/-- Whether the verdict is an approval. -/
def isApproved (r : Report) : Bool := r.verdict == .approved

theorem isApproved_eq_true_iff {r : Report} : r.isApproved = true ↔ r.verdict = .approved := by
  rw [isApproved, beq_iff_eq]

/-- Whether an undo path was demonstrated, if one is required. -/
def rollbackSatisfied (r : Report) : Bool := !r.rollbackRequired || r.rollbackReady

/-- **Change the verdict**, keeping conditions and approval stamp in line with it. -/
def setVerdict (r : Report) (v : Verdict) (now : Time) : Report :=
  { r with
    verdict := v
    approvedAt := if v = .approved then some (r.approvedAt.getD now) else none
    conditions := if v = .conditional then r.conditions else [] }

/-- Add a recommendation at the end. -/
def recommend (r : Report) (text : String) : Report :=
  { r with recommendations := r.recommendations ++ [text] }

/-- Add a condition at the end. -/
def require (r : Report) (condition : String) : Report :=
  { r with conditions := r.conditions ++ [condition] }

/-- A report as a value. -/
def toJson (r : Report) : Json :=
  Json.object
    [("change_id", .str r.changeId),
     ("category", r.category.toJson),
     ("result", r.verdict.toJson),
     ("overall_score", Json.ofFloat r.overallScore),
     ("safety_score", Json.ofFloat r.safetyScore),
     ("performance_score", Json.ofFloat r.performanceScore),
     ("ethics_score", Json.ofFloat r.ethicsScore),
     ("risk_level", Json.ofFloat r.riskLevel),
     ("rollback_ready", .bool r.rollbackReady),
     ("rollback_required", .bool r.rollbackRequired),
     ("details", r.details.toJson),
     ("recommendations", Json.ofList .str r.recommendations),
     ("conditions", Json.ofList .str r.conditions),
     ("approval_timestamp", Json.ofOption (fun t => .str (Time.text t)) r.approvedAt)]

end Report

/-! ## Assessment -/

/-- What exercising a proposal's undo path showed. -/
structure Probe where
  /-- the undo path works -/
  ready : Bool
  /-- why the exercise could not be carried out -/
  note : Option String := none
deriving DecidableEq, Repr

/-- What a degraded check calls for. -/
def CheckScore.advice (c : CheckScore) : Option String :=
  c.degraded.map fun reason =>
    "Investigate " ++ c.kind.tag ++ " check (" ++ c.name ++ "): " ++ reason

/-- What to do next about a proposal: the probe's note, degraded checks, hard rejections, missing
performance figures, and mitigations, in this order. -/
def advice (category : Category) (probe : Probe) (details : Details) : List String :=
  (probe.note.map fun note => "Re-run the rollback probe: " ++ note).toList
    ++ details.checks.filterMap CheckScore.advice
    ++ details.hardRejections.map (fun reason => "Revise the proposal: " ++ reason)
    ++ Decision.when (details.performanceBonus == 0.0 && category != .ethicalFramework)
      "Quantify the expected performance gains of this change"
    ++ details.risk.mitigations

/-- **The report of a proposal**, given what exercising its undo path showed. -/
def assess (checks : CheckSet) (policies : PolicyTable) (p : Proposal) (c : Criteria)
    (probe : Probe) (now : Time) : Report :=
  let policy := policies.get p.category
  let safetyChecks := checks.run p .safety
  let performanceChecks := checks.run p .performance
  let ethicsChecks := checks.run p .ethics
  let bonus := Score.performanceBonus p.benefits
  let safety := Score.safety safetyChecks policy
  let performance := Score.performance performanceChecks bonus
  let ethics := Score.ethics ethicsChecks p.category
  let risk := Risk.assess p policy.maxRiskTolerance
  let base := Score.compositeBase safety performance ethics
  let overall := Score.overall base c.level probe.ready risk.riskLevel
  let card : Scorecard :=
    { safety, performance, ethics, overall, rollbackReady := probe.ready, risk
      dissent := dissenting (safetyChecks ++ performanceChecks ++ ethicsChecks) c }
  let decision := card.decision c policy
  let details : Details :=
    { safetyChecks, performanceChecks, performanceBonus := bonus, ethicsChecks
      safetyMultiplier := Score.safetyMultiplier policy
      ethicsMultiplier := Score.ethicsMultiplier p.category
      risk, compositeBase := base, hardRejections := decision.hardRejections }
  { changeId := p.id
    category := p.category
    verdict := decision.verdict
    overallScore := overall
    safetyScore := safety
    performanceScore := performance
    ethicsScore := ethics
    riskLevel := risk.riskLevel
    rollbackReady := probe.ready
    rollbackRequired := Decision.rollbackRequired c policy
    details
    recommendations := advice p.category probe details
    conditions := decision.conditions
    approvedAt := if decision.verdict = .approved then some now else none }

end ShadowGate
