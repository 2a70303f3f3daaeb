import ShadowGate.Number.Double

/-!
# Scores

Scores are doubles in the unit interval. `unit` cuts any double to it, an undefined one to zero.
-/

namespace ShadowGate.Score

/-- Cut to the unit interval; an undefined value becomes zero. -/
def unit (x : Float) : Float := if x.isNaN then 0.0 else Number.clamp x 0.0 1.0

/-- The score of a check that gave none of its own. -/
def conservative : Float := 0.3

/-- The score of a dimension without checks. -/
def emptyDimension : Float := 0.5

/-- The mean of scores, each cut to the unit interval. -/
def average (scores : List Float) : Float :=
  if scores.isEmpty then emptyDimension
  else unit (Number.sum (scores.map unit) / Float.ofNat scores.length)

end ShadowGate.Score
