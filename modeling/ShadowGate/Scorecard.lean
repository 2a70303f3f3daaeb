import ShadowGate.Check.Keyword
import ShadowGate.Criteria
import ShadowGate.Policy
import ShadowGate.Risk

/-!
# Scores of a proposal

From check scores to the three dimension scores and the overall score.

* Safety is damped for high-risk categories; ethics is raised for the ethical framework;
  performance gets a bonus for benefits that promise it.
* `composite` — the mean of the three, damped at the critical level, with a bonus for a working
  undo path (a larger penalty without one), less a share of the risk.
* `dissenting` — single checks below the threshold of their dimension.
-/

namespace ShadowGate

namespace Score

/-- The mean of check scores. -/
def averageOf (checks : List CheckScore) : Float := average (checks.map (·.score))

/-- What the safety average is multiplied by. -/
def safetyMultiplier (policy : Policy) : Float := if policy.highRisk then 0.95 else 1.0

/-- The safety score. -/
def safety (checks : List CheckScore) (policy : Policy) : Float :=
  unit (averageOf checks * safetyMultiplier policy)

/-- What the ethics average is multiplied by. -/
def ethicsMultiplier (category : Category) : Float :=
  if category = .ethicalFramework then 1.1 else 1.0

/-- The ethics score. -/
def ethics (checks : List CheckScore) (category : Category) : Float :=
  unit (averageOf checks * ethicsMultiplier category)

/-- Words that promise a performance gain. -/
def performanceTerms : List String :=
  ["faster", "performance", "efficien", "speed", "latency", "throughput", "optimiz"]

/-- Whether a benefit promises a performance gain. -/
def promisesPerformance (benefit : String) : Bool :=
  performanceTerms.any (Text.containsText (Text.lower benefit))

/-- The smaller of two doubles. -/
def least (x y : Float) : Float := if y < x then y else x

/-- A tenth for each benefit that promises performance, two tenths at most. -/
def performanceBonus (benefits : List String) : Float :=
  least (Float.ofNat (benefits.filter promisesPerformance).length * 0.1) 0.2

/-- The performance score. -/
def performance (checks : List CheckScore) (bonus : Float) : Float :=
  unit (averageOf checks + bonus)

/-- The mean of the three dimensions. -/
def compositeBase (safety performance ethics : Float) : Float :=
  unit ((unit safety + unit performance + unit ethics) / 3.0)

/-- What the level leaves of the mean. -/
def damped (base : Float) (level : Level) : Float :=
  if level = .critical then base * 0.9 else base

/-- **The overall score**, from the mean of the three dimensions. -/
def overall (base : Float) (level : Level) (rollbackReady : Bool) (riskLevel : Float) : Float :=
  unit (damped base level + (if rollbackReady then 0.1 else -0.2) - unit riskLevel * 0.3)

end Score

namespace Criteria

/-- The least score of a dimension. -/
def threshold (c : Criteria) : Dimension → Float
  | .safety => c.safetyThreshold
  | .performance => c.performanceThreshold
  | .ethics => c.ethicsThreshold

end Criteria

/-- The names of the checks that score below the threshold of their dimension. -/
def dissenting (checks : List CheckScore) (c : Criteria) : List String :=
  (checks.filter fun check => check.score < c.threshold check.kind).map (·.name)

/-- Everything that a decision looks at. -/
structure Scorecard where
  /-- safety score -/
  safety : Float
  /-- performance score -/
  performance : Float
  /-- ethics score -/
  ethics : Float
  /-- overall score -/
  overall : Float
  /-- whether an undo path was demonstrated -/
  rollbackReady : Bool
  /-- the risk -/
  risk : Risk.Assessment
  /-- checks below their thresholds -/
  dissent : List String := []

end ShadowGate
