import ShadowGate.Settings
import ShadowGate.Text.Class
import ShadowGate.Text.Lowercase

/-!
# Validation levels and criteria

What a proposal is measured against: thresholds, switches, and how thorough the pass is.

* `Level.ofText` — a level by name, in any case and between blanks.
* `Criteria.atLevel` — a level laid over criteria. *Basic* lowers every threshold by a tenth and
  drops the rollback requirement; *comprehensive* and *critical* ask for consensus, and *critical*
  for rollback as well.
-/

namespace ShadowGate

/-- How thorough a validation is. -/
inductive Level where
  | basic
  | standard
  | comprehensive
  | critical
deriving DecidableEq, Repr

namespace Level

/-- Standard, unless asked otherwise. -/
instance : Inhabited Level := ⟨standard⟩

/-- Every level, from the least to the most thorough. -/
def all : List Level := [basic, standard, comprehensive, critical]

/-- The level's name. -/
def tag : Level → String
  | basic => "basic"
  | standard => "standard"
  | comprehensive => "comprehensive"
  | critical => "critical"

/-- A text that names no level, as it was looked up. -/
structure Unknown where
  /-- the text, trimmed and lower-cased -/
  name : String
deriving DecidableEq, Repr

/-- What is said about a text that names no level. -/
def Unknown.message (u : Unknown) : String := "unknown validation level '" ++ u.name ++ "'"

/-- The level that a text names. -/
def ofText (s : String) : Except Unknown Level :=
  let name := Text.lower (Text.trim s)
  match all.find? (tag · == name) with
  | some level => .ok level
  | none => .error ⟨name⟩

/-- A level as a value. -/
def toJson (l : Level) : Json := .str l.tag

/-- The level that a value names. -/
def ofJson? : Json → Option Level := Json.oneOf all tag

end Level

/-- What a proposal is measured against. -/
structure Criteria where
  /-- how thorough the validation is -/
  level : Level := .standard
  /-- least safety score -/
  safetyThreshold : Float := 0.8
  /-- least performance score -/
  performanceThreshold : Float := 0.7
  /-- least ethics score -/
  ethicsThreshold : Float := 0.9
  /-- whether a proposal needs a working undo path -/
  rollbackRequirement : Bool := true
  /-- whether every single check has to reach its threshold -/
  approvalConsensus : Bool := false
  /-- how many changes one batch may hold -/
  maxSimultaneousChanges : Nat := 10
deriving Inhabited, DecidableEq

namespace Criteria

/-- A threshold lowered by a tenth, rounded to two decimals. -/
def relax (threshold : Float) : Float :=
  Number.roundHalfAway ((threshold - 0.1) * 100.0) / 100.0

/-- **A level laid over criteria.** -/
def atLevel (c : Criteria) (level : Level) : Criteria :=
  match level with
  | .basic =>
    { c with
      level
      safetyThreshold := relax c.safetyThreshold
      performanceThreshold := relax c.performanceThreshold
      ethicsThreshold := relax c.ethicsThreshold
      rollbackRequirement := false }
  | .standard => { c with level }
  | .comprehensive => { c with level, approvalConsensus := true }
  | .critical => { c with level, rollbackRequirement := true, approvalConsensus := true }

/-- The preset of a level. -/
def forLevel (level : Level) : Criteria := ({} : Criteria).atLevel level

/-- Standard criteria with the thresholds of the settings. -/
def ofSettings (s : Settings) : Criteria where
  safetyThreshold := s.safetyThreshold
  performanceThreshold := s.performanceThreshold
  ethicsThreshold := s.ethicsThreshold
  rollbackRequirement := s.rollbackRequirement
  maxSimultaneousChanges := s.maxSimultaneousChanges

/-! ## The record -/

/-- Criteria as a value. -/
def toJson (c : Criteria) : Json :=
  Json.object
    [("level", c.level.toJson),
     ("safety_threshold", Json.ofFloat c.safetyThreshold),
     ("performance_threshold", Json.ofFloat c.performanceThreshold),
     ("ethics_threshold", Json.ofFloat c.ethicsThreshold),
     ("rollback_requirement", .bool c.rollbackRequirement),
     ("approval_consensus", .bool c.approvalConsensus),
     ("max_simultaneous_changes", .ofNat c.maxSimultaneousChanges)]

/-- The criteria that a value describes. -/
def ofJson? (v : Json) : Option Criteria := do
  let row ← Json.Row.ofJson? 7 v
  let level ← row.withDefault 0 "level" .standard Level.ofJson?
  let safetyThreshold ← row.withDefault 1 "safety_threshold" 0.8 Json.float?
  let performanceThreshold ← row.withDefault 2 "performance_threshold" 0.7 Json.float?
  let ethicsThreshold ← row.withDefault 3 "ethics_threshold" 0.9 Json.float?
  let rollbackRequirement ← row.withDefault 4 "rollback_requirement" true Json.bool?
  let approvalConsensus ← row.withDefault 5 "approval_consensus" false Json.bool?
  let maxSimultaneousChanges ← row.withDefault 6 "max_simultaneous_changes" 10 Json.nat?
  pure { level, safetyThreshold, performanceThreshold, ethicsThreshold, rollbackRequirement,
         approvalConsensus, maxSimultaneousChanges }

end Criteria

end ShadowGate
