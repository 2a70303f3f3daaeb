import ShadowGate.Check.Basic
import ShadowGate.Text.Search

/-!
# Keyword checks

A keyword check starts from a baseline and takes off a penalty for every hazard word that occurs
in the proposal's searchable text. Hazard words are compared in lower case; one that was added
twice counts twice, and the last penalty given is the one that holds.

* `CheckSet.builtin` — the rules that every gate starts with.
-/

namespace ShadowGate

/-- A baseline score, hazard words, and what each of them costs. -/
structure KeywordCheck where
  /-- the check's name -/
  name : String
  /-- what it contributes to -/
  kind : Dimension
  /-- the score of a proposal without hazard words -/
  baseline : Float
  /-- what one hazard word costs -/
  penalty : Float := 0.25
  /-- the hazard words, in lower case -/
  keywords : List String := []
deriving Inhabited

namespace KeywordCheck

/-- Add hazard words and set what each costs. -/
def penalize (c : KeywordCheck) (keywords : List String) (penalty : Float) : KeywordCheck :=
  { c with keywords := c.keywords ++ keywords.map Text.lower, penalty }

/-- How many hazard words occur in a text. -/
def hits (c : KeywordCheck) (text : String) : Nat :=
  (c.keywords.filter (Text.containsText text)).length

/-- The score of a proposal. -/
def score (c : KeywordCheck) (p : Proposal) : Float :=
  Number.clamp (c.baseline - c.penalty * Float.ofNat (c.hits p.searchableText)) 0.0 1.0

/-- A keyword check as a check. It never fails. -/
def toCheck (c : KeywordCheck) : Check where
  name := c.name
  kind := c.kind
  evaluate p := .ok (c.score p)

end KeywordCheck

namespace CheckSet

/-- Hazard words of the safety checks. -/
def safetyRules : List (Category × String × List String) :=
  [(.memoryOrganization, "memory_integrity", ["delete", "purge", "wipe", "corrupt"]),
   (.memoryOrganization, "data_preservation", ["drop", "truncate", "erase", "discard"]),
   (.learningStrategy, "learning_stability", ["unbounded", "diverge", "aggressive", "reset"]),
   (.learningStrategy, "knowledge_retention", ["forget", "erase", "discard", "overwrite"]),
   (.decisionMaking, "decision_consistency", ["random", "arbitrary", "override"]),
   (.decisionMaking, "bias_detection", ["bias", "always prefer", "exclude"]),
   (.ethicalFramework, "value_alignment", ["bypass", "ignore", "disable", "override"]),
   (.ethicalFramework, "ethical_consistency", ["contradict", "exception", "loophole"]),
   (.conflictResolution, "resolution_fairness", ["always favor", "ignore", "suppress"]),
   (.conflictResolution, "escalation_safety", ["escalate", "force", "coerce"]),
   (.curiosityExploration, "exploration_bounds", ["unbounded", "unlimited", "unrestricted"]),
   (.curiosityExploration, "resource_limits", ["exhaust", "infinite", "no limit"]),
   (.metaLearning, "recursive_stability", ["recursive", "self-modify", "unbounded"]),
   (.metaLearning, "meta_consistency", ["contradict", "override"]),
   (.systemConfiguration, "config_validity", ["invalid", "malformed", "null"]),
   (.systemConfiguration, "system_stability", ["disable", "shutdown", "restart", "kill"])]

/-- Hazard words of the performance checks. -/
def performanceRules : List (Category × String × List String) :=
  [(.memoryOrganization, "retrieval_latency", ["full scan", "reindex", "rebuild"]),
   (.learningStrategy, "convergence_speed", ["retrain", "from scratch"]),
   (.decisionMaking, "decision_latency", ["exhaustive", "brute force"]),
   (.curiosityExploration, "exploration_cost", ["exhaustive", "every"])]

/-- Hazard words of the ethics checks, which concern every category. -/
def ethicsRules : List (String × List String) :=
  [("value_preservation", ["deceive", "manipulate", "bypass"]),
   ("harm_prevention", ["harm", "damage", "attack", "exploit"]),
   ("fairness", ["discriminate", "unfair", "exclude"]),
   ("autonomy_preservation", ["coerce", "override user", "without consent"])]

/-- A safety check of the builtin rules. -/
def safetyCheck (name : String) (keywords : List String) : Check :=
  (KeywordCheck.penalize { name, kind := .safety, baseline := 0.9 } keywords 0.25).toCheck

/-- A performance check of the builtin rules. -/
def performanceCheck (name : String) (keywords : List String) : Check :=
  (KeywordCheck.penalize { name, kind := .performance, baseline := 0.8 } keywords 0.2).toCheck

/-- An ethics check of the builtin rules. -/
def ethicsCheck (name : String) (keywords : List String) : Check :=
  (KeywordCheck.penalize { name, kind := .ethics, baseline := 0.95 } keywords 0.3).toCheck

/-- **The rules that every gate starts with.** -/
def builtin : CheckSet where
  targeted :=
    safetyRules.map (fun r => (r.1, safetyCheck r.2.1 r.2.2))
      ++ performanceRules.map (fun r => (r.1, performanceCheck r.2.1 r.2.2))
  common :=
    performanceCheck "resource_efficiency" ["slow", "blocking", "unbounded memory"]
      :: ethicsRules.map (fun r => ethicsCheck r.1 r.2)

end CheckSet

end ShadowGate
