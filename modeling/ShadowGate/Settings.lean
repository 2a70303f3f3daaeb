import ShadowGate.Json.Record

/-!
# Settings of the shadow pipeline

Where private copies live, how long they last, and the thresholds a validation starts from.

* `Settings.normalized` — out-of-range values are cut or replaced by their defaults rather than
  refused.
* `Settings.sweepInterval` — the sweep cadence, never below thirty seconds.
-/

namespace ShadowGate

/-- Settings of the shadow pipeline. -/
structure Settings where
  /-- directory that holds private copies -/
  shadowRoot : String := "./data/pagi_shadows"
  /-- lifetime of a shadow, in hours -/
  maxDurationHours : Float := 24.0
  /-- seconds between expiry sweeps -/
  sweepIntervalSecs : Nat := 300
  /-- how long cleanup waits for an operation in flight, in milliseconds -/
  cleanupTimeoutMs : Nat := 5000
  /-- least safety score -/
  safetyThreshold : Float := 0.8
  /-- least performance score -/
  performanceThreshold : Float := 0.7
  /-- least ethics score -/
  ethicsThreshold : Float := 0.9
  /-- whether a proposal needs a working undo path -/
  rollbackRequirement : Bool := true
  /-- how many changes one batch may hold -/
  maxSimultaneousChanges : Nat := 10
deriving Inhabited, DecidableEq

namespace Settings

/-- The least number of seconds between sweeps. -/
def minSweepSecs : Nat := 30

/-- A finite value cut to the unit interval, or the fallback. -/
def unitOr (x fallback : Float) : Float :=
  if x.isFinite then Number.clamp x 0.0 1.0 else fallback

/-- The seconds between sweeps. -/
def sweepInterval (s : Settings) : Nat := max s.sweepIntervalSecs minSweepSecs

/-- **Normal form**: every value in its range. -/
def normalized (s : Settings) : Settings :=
  { s with
    sweepIntervalSecs := s.sweepInterval
    safetyThreshold := unitOr s.safetyThreshold 0.8
    performanceThreshold := unitOr s.performanceThreshold 0.7
    ethicsThreshold := unitOr s.ethicsThreshold 0.9
    maxDurationHours :=
      if !s.maxDurationHours.isFinite || s.maxDurationHours ≤ 0.0 then 24.0
      else s.maxDurationHours }

/-! ## The record -/

/-- Settings as a value. -/
def toJson (s : Settings) : Json :=
  Json.object
    [("shadow_root", .str s.shadowRoot),
     ("default_max_duration_hours", Json.ofFloat s.maxDurationHours),
     ("sweep_interval_secs", .ofNat s.sweepIntervalSecs),
     ("cleanup_timeout_ms", .ofNat s.cleanupTimeoutMs),
     ("safety_threshold", Json.ofFloat s.safetyThreshold),
     ("performance_threshold", Json.ofFloat s.performanceThreshold),
     ("ethics_threshold", Json.ofFloat s.ethicsThreshold),
     ("rollback_requirement", .bool s.rollbackRequirement),
     ("max_simultaneous_changes", .ofNat s.maxSimultaneousChanges)]

/-- The settings that a value describes. -/
def ofJson? (v : Json) : Option Settings := do
  let row ← Json.Row.ofJson? 9 v
  let shadowRoot ← row.withDefault 0 "shadow_root" "./data/pagi_shadows" Json.str?
  let maxDurationHours ← row.withDefault 1 "default_max_duration_hours" 24.0 Json.float?
  let sweepIntervalSecs ← row.withDefault 2 "sweep_interval_secs" 300 Json.nat?
  let cleanupTimeoutMs ← row.withDefault 3 "cleanup_timeout_ms" 5000 Json.nat?
  let safetyThreshold ← row.withDefault 4 "safety_threshold" 0.8 Json.float?
  let performanceThreshold ← row.withDefault 5 "performance_threshold" 0.7 Json.float?
  let ethicsThreshold ← row.withDefault 6 "ethics_threshold" 0.9 Json.float?
  let rollbackRequirement ← row.withDefault 7 "rollback_requirement" true Json.bool?
  let maxSimultaneousChanges ← row.withDefault 8 "max_simultaneous_changes" 10 Json.nat?
  pure { shadowRoot, maxDurationHours, sweepIntervalSecs, cleanupTimeoutMs, safetyThreshold,
         performanceThreshold, ethicsThreshold, rollbackRequirement, maxSimultaneousChanges }

end Settings

end ShadowGate
