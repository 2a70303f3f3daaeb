import ShadowGate.Report

/-!
# The ledger of validations

Running figures over every report, and the most recent reports themselves.

* `Statistics.record` — one more report; means are updated in place, `mean + (x - mean) / n`.
* `Ledger.record` — figures and history; the history keeps the newest `historyLimit` reports.
-/

namespace ShadowGate

/-- Figures over reports. -/
structure Statistics where
  /-- how many reports -/
  total : Nat := 0
  /-- how many approved -/
  approved : Nat := 0
  /-- how many conditional -/
  conditional : Nat := 0
  /-- how many for review -/
  requiresReview : Nat := 0
  /-- how many rejected -/
  rejected : Nat := 0
  /-- the share of approvals -/
  approvalRate : Float := 0.0
  /-- mean overall score -/
  meanOverall : Float := 0.0
  /-- mean safety score -/
  meanSafety : Float := 0.0
  /-- mean performance score -/
  meanPerformance : Float := 0.0
  /-- mean ethics score -/
  meanEthics : Float := 0.0
  /-- how many reports of each category that occurred -/
  categories : SortedMap Category Nat := ∅
deriving Inhabited, DecidableEq

namespace Statistics

/-- The mean of `n` values, from the mean of the others and the last value. -/
def step (mean x : Float) (n : Nat) : Float := mean + (x - mean) / Float.ofNat n

/-- One if the report has the verdict. -/
def tally (r : Report) (v : Verdict) : Nat := if r.verdict = v then 1 else 0

/-- **One more report.** -/
def record (s : Statistics) (r : Report) : Statistics :=
  let n := s.total + 1
  let approved := s.approved + tally r .approved
  { total := n
    approved
    conditional := s.conditional + tally r .conditional
    requiresReview := s.requiresReview + tally r .requiresReview
    rejected := s.rejected + tally r .rejected
    approvalRate := Float.ofNat approved / Float.ofNat n
    meanOverall := step s.meanOverall r.overallScore n
    meanSafety := step s.meanSafety r.safetyScore n
    meanPerformance := step s.meanPerformance r.performanceScore n
    meanEthics := step s.meanEthics r.ethicsScore n
    categories := s.categories.insert r.category ((s.categories.get? r.category).getD 0 + 1) }

/-- The figures over a list of reports. -/
def ofReports (reports : List Report) : Statistics := reports.foldl record {}

/-- Figures as a value. -/
def toJson (s : Statistics) : Json :=
  Json.object
    [("total", .ofNat s.total),
     ("approved", .ofNat s.approved),
     ("conditional", .ofNat s.conditional),
     ("requires_review", .ofNat s.requiresReview),
     ("rejected", .ofNat s.rejected),
     ("approval_rate", Json.ofFloat s.approvalRate),
     ("mean_overall_score", Json.ofFloat s.meanOverall),
     ("mean_safety_score", Json.ofFloat s.meanSafety),
     ("mean_performance_score", Json.ofFloat s.meanPerformance),
     ("mean_ethics_score", Json.ofFloat s.meanEthics),
     ("category_distribution",
      Json.object (s.categories.toList.map fun p => (p.1.tag, .ofNat p.2)))]

/-- A count for each category that a field of an object names. -/
def categories? : Json → Option (SortedMap Category Nat)
  | .obj fields => do
    let pairs ← fields.mapM fun f => do
      let category ← Category.ofJson? (.str f.1)
      let n ← f.2.nat?
      pure (category, n)
    pure (SortedMap.ofList pairs)
  | _ => none

/-- The figures that a value describes. -/
def ofJson? (v : Json) : Option Statistics := do
  let row ← Json.Row.ofJson? 11 v
  let total ← row.required 0 "total" Json.nat?
  let approved ← row.required 1 "approved" Json.nat?
  let conditional ← row.required 2 "conditional" Json.nat?
  let requiresReview ← row.required 3 "requires_review" Json.nat?
  let rejected ← row.required 4 "rejected" Json.nat?
  let approvalRate ← row.required 5 "approval_rate" Json.float?
  let meanOverall ← row.required 6 "mean_overall_score" Json.float?
  let meanSafety ← row.required 7 "mean_safety_score" Json.float?
  let meanPerformance ← row.required 8 "mean_performance_score" Json.float?
  let meanEthics ← row.required 9 "mean_ethics_score" Json.float?
  let categories ← row.required 10 "category_distribution" categories?
  pure { total, approved, conditional, requiresReview, rejected, approvalRate, meanOverall,
         meanSafety, meanPerformance, meanEthics, categories }

end Statistics

/-- Figures over every report, and the newest reports. -/
structure Ledger where
  /-- the newest reports, oldest first -/
  recent : List Report := []
  /-- figures over every report -/
  statistics : Statistics := {}
deriving Inhabited

namespace Ledger

/-- How many reports the history keeps. -/
def historyLimit : Nat := 256

/-- Enter a report. -/
def enter (l : Ledger) (r : Report) : Ledger where
  recent := (if l.recent.length = historyLimit then l.recent.drop 1 else l.recent) ++ [r]
  statistics := l.statistics.record r

/-- Enter reports in order. -/
def record (l : Ledger) (reports : List Report) : Ledger := reports.foldl enter l

end Ledger

end ShadowGate
