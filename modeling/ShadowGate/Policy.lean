import ShadowGate.Category

/-!
# Category policies

How careful the gate is with each category: whether it counts as high-risk, whether an undo path
is indispensable, and how much risk it tolerates.
-/

namespace ShadowGate

/-- How careful the gate is with a category. -/
structure Policy where
  /-- the safety score is damped -/
  highRisk : Bool := false
  /-- without an undo path a proposal is rejected, whatever the criteria -/
  rollbackCritical : Bool := false
  /-- the most risk that still allows approval -/
  maxRiskTolerance : Float := 0.3
deriving Inhabited, DecidableEq

namespace Policy

/-- A policy as a value. -/
def toJson (p : Policy) : Json :=
  Json.object
    [("high_risk", .bool p.highRisk),
     ("rollback_critical", .bool p.rollbackCritical),
     ("max_risk_tolerance", Json.ofFloat p.maxRiskTolerance)]

/-- The policy that a value describes. -/
def ofJson? (v : Json) : Option Policy := do
  let row ← Json.Row.ofJson? 3 v
  let highRisk ← row.required 0 "high_risk" Json.bool?
  let rollbackCritical ← row.required 1 "rollback_critical" Json.bool?
  let maxRiskTolerance ← row.required 2 "max_risk_tolerance" Json.float?
  pure { highRisk, rollbackCritical, maxRiskTolerance }

/-- The policy of a category unless a table says otherwise. -/
def builtin : Category → Policy
  | .memoryOrganization => ⟨true, true, 0.3⟩
  | .learningStrategy => ⟨false, false, 0.4⟩
  | .decisionMaking => ⟨false, false, 0.3⟩
  | .ethicalFramework => ⟨true, true, 0.2⟩
  | .conflictResolution => ⟨false, false, 0.35⟩
  | .curiosityExploration => ⟨false, false, 0.5⟩
  | .metaLearning => ⟨false, false, 0.3⟩
  | .systemConfiguration => ⟨false, true, 0.25⟩

end Policy

/-- A policy for every category. -/
structure PolicyTable where
  /-- the policy of a category -/
  get : Category → Policy := Policy.builtin

namespace PolicyTable

instance : Inhabited PolicyTable := ⟨{}⟩

/-- Replace the policy of one category. -/
def set (t : PolicyTable) (category : Category) (policy : Policy) : PolicyTable where
  get c := if c = category then policy else t.get c

end PolicyTable

end ShadowGate
