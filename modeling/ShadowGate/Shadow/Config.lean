import ShadowGate.Settings
import ShadowGate.Time

/-!
# How a shadow is set up

* `Isolation` — a private directory or memory only.
* `Protection` — whether the snapshot's digest is verified again before it is relied on.
* `ShadowConfig.maxDuration` — the lifetime in milliseconds, cut to 63 bits; a lifetime that is
  not finite counts as a day, a negative one as none.
* `Phase`, `Status` — where a shadow stands in its life, and how its last validation ended.
-/

namespace ShadowGate

/-- Where a private copy lives. -/
inductive Isolation where
  /-- in a directory of its own -/
  | full
  /-- in memory -/
  | inMemory
deriving DecidableEq, Repr, Inhabited

namespace Isolation

/-- Every isolation. -/
def all : List Isolation := [full, inMemory]

/-- Its name. -/
def tag : Isolation → String
  | full => "full"
  | inMemory => "in_memory"

/-- The isolation that a value names. -/
def ofJson? : Json → Option Isolation := Json.oneOf all tag

end Isolation

/-- Whether a snapshot's digest is verified again. -/
inductive Protection where
  | standard
  | strict
deriving DecidableEq, Repr, Inhabited

namespace Protection

/-- Every protection. -/
def all : List Protection := [standard, strict]

/-- Its name. -/
def tag : Protection → String
  | standard => "standard"
  | strict => "strict"

/-- The protection that a value names. -/
def ofJson? : Json → Option Protection := Json.oneOf all tag

end Protection

/-- How a shadow is set up. -/
structure ShadowConfig where
  /-- where the private copy lives -/
  isolation : Isolation := .full
  /-- whether the snapshot is verified again -/
  protection : Protection := .standard
  /-- logged changes are applied to the private copy -/
  experimentMode : Bool := true
  /-- undo paths may be exercised -/
  rollbackCapability : Bool := true
  /-- only a shadow that passed its own validation may be merged -/
  validationRequired : Bool := true
  /-- lifetime in hours -/
  maxDurationHours : Float := 24.0
  /-- a sweep may discard the shadow once it expired -/
  autoCleanup : Bool := true
deriving Inhabited, DecidableEq

namespace ShadowConfig

/-- The setup that the settings ask for. -/
def ofSettings (s : Settings) : ShadowConfig where
  maxDurationHours := s.maxDurationHours

/-- A shadow in memory, for short-lived probes. -/
def memoryOnly : ShadowConfig where
  isolation := .inMemory

/-- The lifetime in milliseconds. -/
def maxDuration (c : ShadowConfig) : Duration :=
  let hours :=
    if c.maxDurationHours.isFinite then
      if c.maxDurationHours < 0.0 then 0.0 else c.maxDurationHours
    else 24.0
  Number.truncateToInt64 (hours * 3600000.0)

/-- A setup as a value. -/
def toJson (c : ShadowConfig) : Json :=
  Json.object
    [("isolation_level", .str c.isolation.tag),
     ("memory_protection", .str c.protection.tag),
     ("experiment_mode", .bool c.experimentMode),
     ("rollback_capability", .bool c.rollbackCapability),
     ("validation_required", .bool c.validationRequired),
     ("max_duration_hours", Json.ofFloat c.maxDurationHours),
     ("auto_cleanup", .bool c.autoCleanup)]

/-- The setup that a value describes. -/
def ofJson? (v : Json) : Option ShadowConfig := do
  let row ← Json.Row.ofJson? 7 v
  let isolation ← row.withDefault 0 "isolation_level" .full Isolation.ofJson?
  let protection ← row.withDefault 1 "memory_protection" .standard Protection.ofJson?
  let experimentMode ← row.withDefault 2 "experiment_mode" true Json.bool?
  let rollbackCapability ← row.withDefault 3 "rollback_capability" true Json.bool?
  let validationRequired ← row.withDefault 4 "validation_required" true Json.bool?
  let maxDurationHours ← row.withDefault 5 "max_duration_hours" 24.0 Json.float?
  let autoCleanup ← row.withDefault 6 "auto_cleanup" true Json.bool?
  pure { isolation, protection, experimentMode, rollbackCapability, validationRequired,
         maxDurationHours, autoCleanup }

end ShadowConfig

/-- How a shadow's last validation ended. -/
inductive Status where
  | pending
  | passed
  | failed
deriving DecidableEq, Repr, Inhabited

/-- The status's name. -/
def Status.tag : Status → String
  | pending => "pending"
  | passed => "passed"
  | failed => "failed"

/-- Where a shadow stands in its life. -/
inductive Phase where
  | created
  | validating
  | passed
  | failed
  | merged
  | discarded
deriving DecidableEq, Repr, Inhabited

namespace Phase

/-- Every phase, in order. -/
def all : List Phase := [created, validating, passed, failed, merged, discarded]

/-- The phase's name in a record. -/
def tag : Phase → String
  | created => "created"
  | validating => "validating"
  | passed => "passed"
  | failed => "failed"
  | merged => "merged"
  | discarded => "discarded"

/-- The phase as messages name it. -/
def title : Phase → String
  | created => "Created"
  | validating => "Validating"
  | passed => "Passed"
  | failed => "Failed"
  | merged => "Merged"
  | discarded => "Discarded"

/-- Merged and discarded shadows only wait for cleanup. -/
def isTerminal : Phase → Bool
  | merged => true
  | discarded => true
  | _ => false

/-- The phase that a value names. -/
def ofJson? : Json → Option Phase := Json.oneOf all tag

end Phase

end ShadowGate
