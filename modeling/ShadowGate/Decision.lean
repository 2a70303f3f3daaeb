import ShadowGate.Scorecard
import ShadowGate.Verdict

/-!
# The decision

From a scorecard to a verdict.

* **Hard rejections** come first: safety or ethics below its threshold, or no undo path where one
  is required. Any of them rejects the proposal whatever its overall score.
* Otherwise the overall score decides: approved from 0.8, conditional from 0.6, review from 0.4.
* Two caps lower an approval to conditional: risk above the tolerance, and, where consensus is
  asked for, a dissenting check.
* A conditional verdict carries at least one condition; no other verdict carries any.
-/

namespace ShadowGate

/-- A verdict with its conditions and its hard rejections. -/
structure Decision where
  /-- the verdict -/
  verdict : Verdict
  /-- what a conditional approval depends on -/
  conditions : List String := []
  /-- why the proposal is rejected outright -/
  hardRejections : List String := []
deriving DecidableEq, Repr

namespace Decision

/-- The least overall score of an approval. -/
def approveAt : Float := 0.8

/-- Whether an undo path is required. -/
def rollbackRequired (c : Criteria) (p : Policy) : Bool :=
  c.rollbackRequirement || p.rollbackCritical

/-- A text under a condition. -/
def when (b : Bool) (s : String) : List String := if b then [s] else []

/-- The verdict by the overall score alone. -/
def byScore (overall : Float) : Verdict :=
  if overall ≥ approveAt then .approved
  else if overall ≥ 0.6 then .conditional
  else if overall ≥ 0.4 then .requiresReview
  else .rejected

/-- The condition of last resort. -/
def monitorClosely (overall : Float) : String :=
  "overall score " ++ Number.fixed2 overall ++ " is below " ++ Number.fixed2 approveAt
    ++ "; monitor closely after merge"

end Decision

namespace Scorecard

open Decision

/-- Why a proposal is rejected outright. -/
def hardRejections (card : Scorecard) (c : Criteria) (p : Policy) : List String :=
  when (card.safety < c.safetyThreshold)
      ("safety score " ++ Number.fixed2 card.safety ++ " below threshold "
        ++ Number.fixed2 c.safetyThreshold)
    ++ when (card.ethics < c.ethicsThreshold)
      ("ethics score " ++ Number.fixed2 card.ethics ++ " below threshold "
        ++ Number.fixed2 c.ethicsThreshold)
    ++ when (!card.rollbackReady && rollbackRequired c p)
      "no working rollback path was demonstrated"

/-- Whether the risk caps a verdict at conditional. -/
def riskCaps (card : Scorecard) (v : Verdict) : Bool :=
  card.risk.exceedsTolerance && (v == .approved || v == .conditional)

/-- Whether dissent caps a verdict at conditional. -/
def dissentCaps (card : Scorecard) (c : Criteria) (v : Verdict) : Bool :=
  v == .approved && c.approvalConsensus && !card.dissent.isEmpty

/-- The verdict under the cap of risk. -/
def cappedByRisk (card : Scorecard) : Verdict :=
  let v := byScore card.overall
  if riskCaps card v then .conditional else v

/-- The verdict under both caps. -/
def capped (card : Scorecard) (c : Criteria) : Verdict :=
  let v := cappedByRisk card
  if dissentCaps card c v then .conditional else v

/-- The conditions that the scorecard gives rise to. -/
def namedConditions (card : Scorecard) (c : Criteria) : List String :=
  let v := byScore card.overall
  when (v == .conditional && card.performance < c.performanceThreshold)
      ("raise performance score from " ++ Number.fixed2 card.performance ++ " to at least "
        ++ Number.fixed2 c.performanceThreshold)
    ++ when (v == .conditional && !card.rollbackReady)
      "demonstrate a working rollback path before merging"
    ++ when (riskCaps card v)
      ("apply risk mitigations: risk level " ++ Number.fixed2 card.risk.riskLevel
        ++ " exceeds tolerance " ++ Number.fixed2 card.risk.tolerance)
    ++ when (dissentCaps card c (cappedByRisk card))
      ("consensus not reached; dissenting checks: " ++ String.intercalate ", " card.dissent)

/-- The conditions of a proposal that is not rejected outright. -/
def conditions (card : Scorecard) (c : Criteria) : List String :=
  let named := namedConditions card c
  if capped card c == .conditional && named.isEmpty then [monitorClosely card.overall] else named

/-- **The decision** on a scorecard. -/
def decision (card : Scorecard) (c : Criteria) (p : Policy) : Decision :=
  let hard := card.hardRejections c p
  if hard.isEmpty then { verdict := card.capped c, conditions := card.conditions c }
  else { verdict := .rejected, hardRejections := hard }

end Scorecard

end ShadowGate
