import ShadowGate.Report

/-!
# Batches of reports

Approved proposals of one batch that target the same category are merged one at a time: the best
of them keeps its approval and the others wait for it.

* `Batch.winner` — the report that keeps its approval: the earliest of those with the highest
  overall score.
* `Batch.resolveConflicts` — every other approval of the category becomes conditional on it.
* `Batch.flagExcess` — reports beyond the limit are told to wait for a later batch.
-/

namespace ShadowGate.Batch

/-- A report with its place in the batch. -/
abbrev Placed : Type := Report × Nat

/-- The approved reports of a category, with their places. -/
def approvals (reports : List Report) (category : Category) : List Placed :=
  reports.zipIdx.filter fun r => r.1.isApproved && r.1.category == category

/-- The better of two reports; the first unless the second scores higher. -/
def better (a b : Placed) : Placed := if b.1.overallScore > a.1.overallScore then b else a

/-- The report of a category that keeps its approval. -/
def winner (reports : List Report) (category : Category) : Option Placed :=
  match approvals reports category with
  | [] => none
  | first :: rest => some (rest.foldl better first)

/-- What every approved report of a contested category is told. -/
def contestedAdvice (approved : Nat) (category : Category) : String :=
  Number.natText approved ++ " approved changes target " ++ category.tag
    ++ "; merge them one at a time"

/-- What a report that waits for another depends on. -/
def waitCondition (winner : Report) (category : Category) : String :=
  "conflicts with " ++ winner.changeId ++ " in " ++ category.tag
    ++ "; merge after it and re-validate"

/-- A report after conflicts are resolved. -/
def settle (reports : List Report) (now : Time) (r : Placed) : Report :=
  let category := r.1.category
  let rivals := (approvals reports category).length
  match winner reports category with
  | none => r.1
  | some best =>
    if r.1.isApproved && 2 ≤ rivals then
      let told := r.1.recommend (contestedAdvice rivals category)
      if r.2 = best.2 then told
      else (told.setVerdict .conditional now).require (waitCondition best.1 category)
    else r.1

/-- **One approval per category**: all others become conditional. -/
def resolveConflicts (reports : List Report) (now : Time) : List Report :=
  reports.zipIdx.map (settle reports now)

/-- What a report beyond the limit of a batch is told. -/
def excessAdvice (size limit : Nat) : String :=
  "Batch of " ++ Number.natText size ++ " exceeds the limit of " ++ Number.natText limit
    ++ " simultaneous changes; stage this change in a later batch"

/-- Tell every report beyond the limit to wait. -/
def flagExcess (limit : Nat) (reports : List Report) : List Report :=
  reports.zipIdx.map fun r =>
    if limit ≤ r.2 then r.1.recommend (excessAdvice reports.length limit) else r.1

end ShadowGate.Batch
