import ShadowGate.Proofs.Batch
import ShadowGate.Proofs.Decision
import ShadowGate.Proofs.Gate.Call

/-!
# Coherent reports

The verdict of a report, its stamp, its conditions and its hard rejections are set in different
places: by the decision, by the assessment, and once more when a batch has conflicts. They agree all
the same in every report that a gate gives out.

* `Report.Coherent` — how the parts agree. `coherent_assess` is an assessment's share in it, and
  `Batch.coherent_resolveConflicts` a batch's.
* `Report.InLine` — what stamp and conditions owe to the verdict. **Any change of the verdict brings
  it about**, so it survives all of them: `Report.InLine.setVerdicts`.
* `Gate.Issues` — the reports that a gate gives out.
* `Gate.issued_reports_are_coherent` — the theorem.
-/

namespace ShadowGate

/-! ## Reports -/

namespace Report

/-- **The parts of a report agree.** -/
structure Coherent (r : Report) : Prop where
  /-- an approval is stamped, and nothing else is -/
  stamped : r.approvedAt.isSome = true ↔ r.verdict = .approved
  /-- a conditional verdict has conditions, and nothing else has -/
  conditioned : r.conditions ≠ [] ↔ r.verdict = .conditional
  /-- hard rejections reject -/
  rejected : r.details.hardRejections ≠ [] → r.verdict = .rejected
  /-- an approval has an undo path, if it needs one -/
  undoable : r.verdict = .approved → r.rollbackSatisfied = true

/-- Stamp and conditions are in line with the verdict. -/
structure InLine (r : Report) : Prop where
  /-- an approval is stamped, and nothing else is -/
  stamped : r.approvedAt.isSome = true ↔ r.verdict = .approved
  /-- nothing but a conditional verdict has conditions -/
  conditioned : r.verdict ≠ .conditional → r.conditions = []

/-- A report after changes of its verdict, each at its own time. -/
def setVerdicts (r : Report) (changes : List (Verdict × Time)) : Report :=
  changes.foldl (fun r change => r.setVerdict change.1 change.2) r

variable {r : Report}

theorem Coherent.inLine (h : r.Coherent) : r.InLine where
  stamped := h.stamped
  conditioned hv := by
    by_contra hc
    exact hv (h.conditioned.mp hc)

/-- **A change of the verdict** brings stamp and conditions in line, whatever they were. -/
theorem inLine_setVerdict (r : Report) (v : Verdict) (now : Time) :
    (r.setVerdict v now).InLine where
  stamped := by
    simp only [setVerdict]
    split <;> simp_all
  conditioned hv := if_neg hv

/-- **Any changes of the verdict** keep them in line. -/
theorem InLine.setVerdicts (h : r.InLine) (changes : List (Verdict × Time)) :
    (r.setVerdicts changes).InLine := by
  induction changes generalizing r with
  | nil => exact h
  | cons change rest ih => exact ih (inLine_setVerdict r change.1 change.2)

/-- Recommendations have no part in it. -/
theorem Coherent.recommend (h : r.Coherent) (text : String) : (r.recommend text).Coherent :=
  ⟨h.stamped, h.conditioned, h.rejected, h.undoable⟩

/-- **An approval that has to wait** becomes conditional, on what it has to wait for. -/
theorem Coherent.waiting (h : r.Coherent) (happroved : r.verdict = .approved) (now : Time)
    (condition : String) : ((r.setVerdict .conditional now).require condition).Coherent where
  stamped := by simp [require, setVerdict]
  conditioned := by simp [require, setVerdict]
  rejected hhard := by
    have hrejected : r.verdict = .rejected := h.rejected hhard
    rw [happroved] at hrejected
    cases hrejected
  undoable := nofun

end Report

/-- **An assessment is coherent.** -/
theorem coherent_assess (checks : CheckSet) (policies : PolicyTable) (p : Proposal) (c : Criteria)
    (probe : Probe) (now : Time) : (assess checks policies p c probe now).Coherent where
  stamped := by
    simp only [assess]
    split <;> simp_all
  conditioned := by
    rw [conditions_assess, Ne, Scorecard.conditions_decision_eq_nil_iff, verdict_assess, not_not]
  rejected hhard := by
    rw [hardRejections_assess] at hhard
    rw [verdict_assess]
    exact (Scorecard.decision_of_hardRejections hhard).1
  undoable happroved := by
    rw [verdict_assess, Scorecard.verdict_decision_eq_approved_iff,
      Scorecard.hardRejections_eq_nil_iff] at happroved
    obtain ⟨⟨-, -, hundo⟩, -⟩ := happroved
    have hready : (assess checks policies p c probe now).rollbackReady = true ∨
        (assess checks policies p c probe now).rollbackRequired = false := hundo
    rw [Report.rollbackSatisfied]
    rcases hready with h | h <;> simp [h]

/-- The overall score of an assessment is a number. -/
theorem isNaN_assess (checks : CheckSet) (policies : PolicyTable) (p : Proposal) (c : Criteria)
    (probe : Probe) (now : Time) :
    (assess checks policies p c probe now).overallScore.isNaN = false :=
  Score.isNaN_unit _

/-! ## Batches -/

namespace Batch

variable {reports : List Report} {now : Time} {limit : Nat} {r : Report}

/-- A report beyond the limit is told so, and nothing else happens to it. -/
theorem exists_of_mem_flagExcess (hr : r ∈ flagExcess limit reports) :
    ∃ r₀ ∈ reports, r = r₀ ∨ ∃ text, r = r₀.recommend text := by
  obtain ⟨i, hi⟩ := List.mem_iff_getElem?.mp hr
  rw [getElem?_flagExcess] at hi
  obtain ⟨r₀, hr₀, rfl⟩ := Option.map_eq_some_iff.mp hi
  refine ⟨r₀, List.mem_of_getElem? hr₀, ?_⟩
  split
  · exact .inr ⟨_, rfl⟩
  · exact .inl rfl

theorem coherent_flagExcess (hreports : ∀ r ∈ reports, r.Coherent) :
    ∀ r ∈ flagExcess limit reports, r.Coherent := by
  intro r hr
  obtain ⟨r₀, hr₀, rfl | ⟨text, rfl⟩⟩ := exists_of_mem_flagExcess hr
  · exact hreports r hr₀
  · exact (hreports r₀ hr₀).recommend text

theorem scored_flagExcess (hscored : Scored reports) : Scored (flagExcess limit reports) := by
  intro r hr
  obtain ⟨r₀, hr₀, rfl | ⟨text, rfl⟩⟩ := exists_of_mem_flagExcess hr
  · exact hscored r hr₀
  · exact hscored r₀ hr₀

/-- **Settling conflicts** keeps reports coherent. -/
theorem coherent_resolveConflicts (hscored : Scored reports)
    (hreports : ∀ r ∈ reports, r.Coherent) :
    ∀ r ∈ resolveConflicts reports now, r.Coherent := by
  intro r hr
  obtain ⟨i, hi⟩ := List.mem_iff_getElem?.mp hr
  obtain ⟨r₀, hr₀, -⟩ := Option.map_eq_some_iff.mp (getElem?_resolveConflicts i ▸ hi)
  obtain ⟨r', hr', hsettled⟩ := exists_settled now hscored hr₀
  obtain rfl := Option.some.inj (hi.symm.trans hr')
  have hcoherent : r₀.Coherent := hreports r₀ (List.mem_of_getElem? hr₀)
  cases hsettled with
  | kept => exact hcoherent
  | told => exact hcoherent.recommend _
  | waits hcontested =>
    have happroved := Report.isApproved_eq_true_iff.mp hcontested.1
    exact (hcoherent.recommend _).waiting happroved now _

end Batch

/-! ## Gates -/

namespace Gate

variable {σ : Type} {g : Gate σ} {report : Report}

/-- **The reports that a gate gives out**: on a proposal, on a shadow, or on one of a batch. -/
inductive Issues (g : Gate σ) : Report → Prop where
  | validated (id : ShadowId) (p : Proposal) (c : Criteria) (now : Time) :
    Issues g (g.validate id p c now).1
  | onShadow (id : ShadowId) (p : Proposal) (c : Criteria) (now : Time) {report : Report}
    (h : (g.validateShadow id p c now).1 = .ok report) : Issues g report
  | inBatch (fresh : Nat → ShadowId) (proposals : List Proposal) (c : Criteria) (now : Time)
    {report : Report} (h : report ∈ (g.validateBatch fresh proposals c now).1) : Issues g report

theorem exists_assess_of_mem_evaluateAll (g : Gate σ) (fresh : Nat → ShadowId) (c : Criteria)
    (now : Time) (proposals : List Proposal)
    (h : report ∈ (g.evaluateAll fresh c now proposals).1) :
    ∃ p probe, report = g.assess p c probe now := by
  induction proposals generalizing g fresh with
  | nil => cases h
  | cons p rest ih =>
    rcases List.mem_cons.mp h with rfl | h
    · exact ⟨p, _, rfl⟩
    · exact ih { g with host := (g.host.probe (fresh 0) p now).2 } (fun n => fresh (n + 1)) h

theorem scored_evaluateAll (g : Gate σ) (fresh : Nat → ShadowId) (c : Criteria) (now : Time)
    (proposals : List Proposal) : Batch.Scored (g.evaluateAll fresh c now proposals).1 := by
  intro r hr
  obtain ⟨p, probe, rfl⟩ := exists_assess_of_mem_evaluateAll g fresh c now proposals hr
  exact isNaN_assess _ _ _ _ _ _

/-- **Every report that a gate gives out is coherent.** -/
theorem Issues.coherent (h : g.Issues report) : report.Coherent := by
  cases h with
  | validated id p c now => exact coherent_assess _ _ _ _ _ _
  | onShadow id p c now h =>
    obtain ⟨s, ready, storage, -, -, rfl, -⟩ := validateShadow_eq_ok h
    exact coherent_assess _ _ _ _ _ _
  | inBatch fresh proposals c now h =>
    have hscored := g.scored_evaluateAll fresh c now proposals
    refine Batch.coherent_resolveConflicts (Batch.scored_flagExcess hscored)
      (Batch.coherent_flagExcess fun r hr => ?_) report h
    obtain ⟨p, probe, rfl⟩ := exists_assess_of_mem_evaluateAll g fresh c now proposals hr
    exact coherent_assess _ _ _ _ _ _

/-- A proposal that no check minds. -/
def sampleProposal : Proposal where
  id := "p"
  source := ""
  category := .metaLearning
  description := "tune"
  confidence := 1.0

/-- Three proposals of one category; the last has a word in it that is not allowed. -/
def sampleBatch : List Proposal :=
  [sampleProposal, { sampleProposal with id := "q" },
   { sampleProposal with id := "r", description := "override" }]

/-- The n-th of a row of ids. -/
def sampleIds (n : Nat) : ShadowId := ⟨BitVec.ofNat 128 n⟩

set_option maxRecDepth 100000 in
theorem verdicts_sampleBatch :
    (sampleGate.validateBatch sampleIds sampleBatch {} 0).1.map Report.verdict =
      [.approved, .conditional, .rejected] := by
  decide +kernel

/-- **The parts of a report agree, and stay in line with its verdict.** In every report that a gate
with any checks and policies gives out, on any proposal, shadow or batch and under any criteria, an
approval is stamped and nothing else is, a conditional verdict has conditions and nothing else has,
hard rejections reject, and an approval has the undo path that it needs. After any changes of its
verdict an approval is still stamped and nothing else is, and nothing but a conditional verdict has
conditions. -/
theorem issued_reports_are_coherent (h : g.Issues report) :
    report.Coherent ∧ ∀ changes, (report.setVerdicts changes).InLine :=
  ⟨h.coherent, fun changes => h.coherent.inLine.setVerdicts changes⟩

/-- An approval of the sample batch that has to wait for another is coherent. -/
theorem waiting_approval_is_coherent :
    ∃ report ∈ (sampleGate.validateBatch sampleIds sampleBatch {} 0).1,
      report.verdict = .conditional ∧ report.Coherent ∧
        ∀ changes, (report.setVerdicts changes).InLine := by
  have hwaits : Verdict.conditional ∈
      (sampleGate.validateBatch sampleIds sampleBatch {} 0).1.map Report.verdict := by
    rw [verdicts_sampleBatch]
    decide
  obtain ⟨report, hreport, hverdict⟩ := List.mem_map.mp hwaits
  exact ⟨report, hreport, hverdict, issued_reports_are_coherent (.inBatch _ _ _ _ hreport)⟩

end Gate

end ShadowGate
