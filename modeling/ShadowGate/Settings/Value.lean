import ShadowGate.Number.Fixed
import ShadowGate.Number.Literal
import ShadowGate.Settings
import ShadowGate.Settings.Name
import ShadowGate.Text.Class
import ShadowGate.Text.Lowercase

/-!
# Setting values

What a settings file or an environment variable assigns to a setting, before it is known which
kind of value the setting takes.

* `Setting.toBool?`, `Setting.toNat?`, `Setting.toFloat?`, `Setting.toText?` — a value taken for
  the kind that is wanted. Words such as `yes` and `off` stand for truth values and for one and
  zero, numbers for truth values, and any simple value for its text.
* `Assignments` — values by the name of the setting. A path assigns to its head a **compound**
  value, which no setting takes.
* `Settings.ofAssignments?` — the settings, with defaults for what nothing is assigned to. Names
  that are no setting's are ignored.
-/

namespace ShadowGate

/-- A value assigned to a setting. -/
inductive Setting where
  /-- a truth value -/
  | bool (value : Bool)
  /-- a whole number -/
  | int (value : Int)
  /-- a double -/
  | float (value : Float)
  /-- a text -/
  | text (value : String)
  /-- values under names of their own, or a list of values -/
  | compound
deriving Inhabited

namespace Setting

/-- The truth value that a word stands for. -/
def word? (s : String) : Option Bool :=
  let w := Text.lower s
  if ["true", "on", "yes"].contains w then some true
  else if ["false", "off", "no"].contains w then some false
  else none

/-- The truth value that a digit or a word stands for. -/
def switch? (s : String) : Option Bool :=
  if s = "1" then some true else if s = "0" then some false else word? s

/-- A value taken for a truth value. -/
def toBool? : Setting → Option Bool
  | bool b => some b
  | int n => some (n != 0)
  | float x => some (x != 0.0)
  | text s => switch? s
  | compound => none

/-- A value taken for a count. A double is rounded and cut to the range. -/
def toNat? : Setting → Option Nat
  | bool b => some b.toNat
  | int n => if 0 ≤ n then some n.toNat else none
  | float x => some (Number.truncateToNat64 (Number.roundHalfAway x))
  | text s =>
    match word? s with
    | some b => some b.toNat
    | none => Number.nat64? s
  | compound => none

/-- A value taken for a double. -/
def toFloat? : Setting → Option Float
  | bool b => some (if b then 1.0 else 0.0)
  | int n => some (Float.ofInt n)
  | float x => some x
  | text s =>
    match word? s with
    | some b => some (if b then 1.0 else 0.0)
    | none => Number.float? s
  | compound => none

/-- A value taken for a text. -/
def toText? : Setting → Option String
  | bool b => some (if b then "true" else "false")
  | int n => some (String.ofList (Number.intChars n))
  | float x =>
    some (if x.isFinite then String.ofList (Number.plainChars x) else Number.nonFiniteName x)
  | text s => some s
  | compound => none

end Setting

/-- Values by the name of the setting. -/
abbrev Assignments : Type := SortedMap String Setting

namespace Assignments

/-- Assign a value to a name, in place of what it had; to the head of a path a compound value. -/
def assign (a : Assignments) (name : String) (value : Setting) : Assignments :=
  match SettingName.pathHead? name with
  | some head => a.insert head .compound
  | none => a.insert name value

/-- The value of a setting, or its default. -/
def field {α : Type} (a : Assignments) (name : String) (fallback : α)
    (take : Setting → Option α) : Option α :=
  match a.get? name with
  | none => some fallback
  | some v => take v

end Assignments

/-- **The settings that values are assigned to.** -/
def Settings.ofAssignments? (a : Assignments) : Option Settings := do
  let shadowRoot ← a.field "shadow_root" "./data/pagi_shadows" Setting.toText?
  let maxDurationHours ← a.field "default_max_duration_hours" 24.0 Setting.toFloat?
  let sweepIntervalSecs ← a.field "sweep_interval_secs" 300 Setting.toNat?
  let cleanupTimeoutMs ← a.field "cleanup_timeout_ms" 5000 Setting.toNat?
  let safetyThreshold ← a.field "safety_threshold" 0.8 Setting.toFloat?
  let performanceThreshold ← a.field "performance_threshold" 0.7 Setting.toFloat?
  let ethicsThreshold ← a.field "ethics_threshold" 0.9 Setting.toFloat?
  let rollbackRequirement ← a.field "rollback_requirement" true Setting.toBool?
  let maxSimultaneousChanges ← a.field "max_simultaneous_changes" 10 Setting.toNat?
  pure { shadowRoot, maxDurationHours, sweepIntervalSecs, cleanupTimeoutMs, safetyThreshold,
         performanceThreshold, ethicsThreshold, rollbackRequirement, maxSimultaneousChanges }

end ShadowGate
