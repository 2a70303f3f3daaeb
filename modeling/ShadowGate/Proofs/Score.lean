import Mathlib.Data.List.Forall2
import ShadowGate.Proofs.Number.Order
import ShadowGate.Report

/-!
# Scores stay in the unit interval

Two comparisons cut a double to an interval but let an undefined one through, and undefined doubles
can come from anywhere: a proposer's confidence, a check, a baseline that is infinite, a mean. So
wherever a score is made, one of two things stands before it: `Score.unit`, which turns an undefined
double into zero, or the test of a check's score, which puts the conservative one in its place.

* `Score.InUnit` — a defined double between zero and one, and `Score.inUnit_unit`.
* `Check.Rates` — **what a line of a report has to do with its check**: the score is the check's own,
  cut to the unit interval, or the conservative one with a note why. `Check.rates_run` says that
  running a check gives such a line.
* `KeywordCheck.degraded_run_iff` — of all the doubles that a keyword check can be set up with, those
  that make its score undefined degrade it, and no others do.
* `assess_is_bounded` — the theorem.
-/

namespace ShadowGate

/-! ## The unit interval -/

namespace Score

/-- **A score**: a defined double between zero and one. -/
structure InUnit (x : Float) : Prop where
  /-- it is defined -/
  defined : x.isNaN = false
  /-- it is not below zero -/
  nonneg : 0.0 ≤ x
  /-- it is not above one -/
  le_one : x ≤ 1.0

variable {x : Float}

theorem inUnit_zero : InUnit 0.0 := ⟨by decide, by decide, by decide⟩

theorem inUnit_one : InUnit 1.0 := ⟨by decide, by decide, by decide⟩

theorem inUnit_conservative : InUnit conservative := ⟨by decide, by decide, by decide⟩

/-- A defined double, cut by two comparisons. -/
theorem inUnit_clamp (hx : x.isNaN = false) : InUnit (Number.clamp x 0.0 1.0) := by
  rw [Number.clamp]
  split
  · exact inUnit_zero
  · rename_i hlow
    split
    · exact inUnit_one
    · rename_i hhigh
      refine ⟨hx, ?_, ?_⟩
      · rw [Number.lt_iff_rank_lt hx inUnit_zero.defined, not_lt] at hlow
        exact (Number.le_iff_rank_le inUnit_zero.defined hx).mpr hlow
      · rw [gt_iff_lt, Number.lt_iff_rank_lt inUnit_one.defined hx, not_lt] at hhigh
        exact (Number.le_iff_rank_le hx inUnit_one.defined).mpr hhigh

/-- **An undefined double** is neither below zero nor above one, so both comparisons let it
through. -/
theorem clamp_of_isNaN (hx : x.isNaN = true) : Number.clamp x 0.0 1.0 = x := by
  have hlow : ¬ x < 0.0 := fun h => Bool.false_ne_true ((Number.isNaN_of_lt h).1.symm.trans hx)
  have hhigh : ¬ x > 1.0 := fun h => Bool.false_ne_true ((Number.isNaN_of_lt h).2.symm.trans hx)
  rw [Number.clamp, if_neg hlow, if_neg hhigh]

/-- **Any double**, cut to the unit interval. -/
theorem inUnit_unit (x : Float) : InUnit (unit x) := by
  rw [unit]
  split
  · exact inUnit_zero
  · rename_i hx
    exact inUnit_clamp (by simpa using hx)

/-- Both infinities lie outside the unit interval. -/
theorem InUnit.isFinite (h : InUnit x) : x.isFinite = true := by
  have hdefined : x.toModel.unpack.isNaN = false := h.defined
  have hzero : Number.rank 0.0 = toLex (0, toLex (0, 0)) := rfl
  have hone : Number.rank 1.0 = toLex (1, toLex (-52, 2 ^ 52)) := rfl
  have hlow := (Number.le_iff_rank_le inUnit_zero.defined h.defined).mp h.nonneg
  have hhigh := (Number.le_iff_rank_le h.defined inUnit_one.defined).mp h.le_one
  rw [hzero, Number.rank] at hlow
  rw [hone, Number.rank] at hhigh
  change x.toModel.unpack.isFinite = true
  cases hx : x.toModel.unpack with
  | infinity s =>
    -- one infinity has a rank below that of zero, and the other above that of one
    rw [hx] at hlow hhigh
    cases s with
    | negative => exact absurd hlow (by decide)
    | positive => exact absurd hhigh (by decide)
  | notANumber =>
    rw [hx] at hdefined
    cases hdefined
  | zero s => rfl
  | finite s mantissa exponent hpos => rfl

end Score

/-! ## Checks -/

namespace Check

/-- The check gives the proposal a finite number. -/
def Answers (check : Check) (p : Proposal) : Prop :=
  ∃ x : Float, check.evaluate p = .ok x ∧ x.isFinite = true

/-- **A line of a report rates a proposal by a check.** -/
structure Rates (check : Check) (p : Proposal) (line : CheckScore) : Prop where
  /-- the line names the check -/
  name : line.name = check.name
  /-- and its dimension -/
  kind : line.kind = check.kind
  /-- the score is one -/
  inUnit : Score.InUnit line.score
  /-- a note stands exactly where the check gave no finite number -/
  degraded_iff : line.degraded.isSome = true ↔ ¬ check.Answers p
  /-- the score is conservative then -/
  conservative : line.degraded.isSome = true → line.score = 0.3
  /-- and otherwise what the check gave, cut to the unit interval -/
  own : ∀ x : Float, check.evaluate p = .ok x → x.isFinite = true →
    line.score = Number.clamp x 0.0 1.0

/-- **What counts of a check's outcome**: a finite number, cut to the unit interval, or else the
conservative score and a reason. -/
theorem settle_cases (outcome : Except CheckFault Float) :
    (∃ x : Float, outcome = .ok x ∧ x.isFinite = true ∧
      settle outcome = (Number.clamp x 0.0 1.0, none)) ∨
    (∀ x : Float, outcome = .ok x → x.isFinite = false) ∧
      ∃ reason, settle outcome = (0.3, some reason) := by
  cases outcome with
  | error fault => exact .inr ⟨fun x => nofun, _, rfl⟩
  | ok x =>
    cases hfinite : x.isFinite with
    | true => exact .inl ⟨x, rfl, hfinite, by rw [settle, if_pos hfinite]⟩
    | false =>
      refine .inr ⟨fun y hy => ?_, "non-finite score " ++ Number.nonFiniteName x, ?_⟩
      · obtain rfl := Except.ok.inj hy
        exact hfinite
      · simp only [settle, hfinite, Bool.false_eq_true, if_false, Score.conservative]

/-- **Running a check** gives a line that rates the proposal by it. -/
theorem rates_run (check : Check) (p : Proposal) : check.Rates p (check.run p) := by
  rcases settle_cases (check.evaluate p) with ⟨x, hx, hfinite, hsettle⟩ | ⟨hno, reason, hsettle⟩
  · have hline : check.run p =
        { name := check.name, kind := check.kind, score := Number.clamp x 0.0 1.0 } := by
      rw [run, hsettle]
    have hanswers : check.Answers p := ⟨x, hx, hfinite⟩
    rw [hline]
    refine ⟨rfl, rfl, Score.inUnit_clamp (Number.isNaN_of_isFinite hfinite), ?_, nofun,
      fun y hy _ => ?_⟩
    · simp [hanswers]
    · obtain rfl := Except.ok.inj (hx.symm.trans hy)
      rfl
  · have hline : check.run p =
        { name := check.name, kind := check.kind, score := 0.3, degraded := some reason } := by
      rw [run, hsettle]
    have hsilent : ¬ check.Answers p := by
      rintro ⟨x, hx, hfinite⟩
      rw [hno x hx] at hfinite
      cases hfinite
    rw [hline]
    exact ⟨rfl, rfl, Score.inUnit_conservative, by simp [hsilent], fun _ => rfl,
      fun x hx hfinite => absurd ⟨x, hx, hfinite⟩ hsilent⟩

end Check

namespace KeywordCheck

/-- What a keyword check makes of a proposal, before the score is cut to the unit interval. -/
def rawScore (k : KeywordCheck) (p : Proposal) : Float :=
  k.baseline - k.penalty * Float.ofNat (k.hits p.searchableText)

/-- **A keyword check is degraded** exactly if its score is undefined: an infinite one is cut to the
unit interval like any other. -/
theorem degraded_run_iff (k : KeywordCheck) (p : Proposal) :
    (k.toCheck.run p).degraded.isSome = true ↔ (k.rawScore p).isNaN = true := by
  rw [(k.toCheck.rates_run p).degraded_iff]
  cases hraw : (k.rawScore p).isNaN with
  | false =>
    have hfinite : (k.score p).isFinite = true := (Score.inUnit_clamp hraw).isFinite
    simp only [Bool.false_eq_true, iff_false, not_not]
    exact ⟨k.score p, rfl, hfinite⟩
  | true =>
    simp only [iff_true]
    rintro ⟨x, hx, hfinite⟩
    have hscore : k.score p = k.rawScore p := Score.clamp_of_isNaN hraw
    obtain rfl : k.score p = x := Except.ok.inj hx
    rw [hscore] at hfinite
    rw [Number.isNaN_of_isFinite hfinite] at hraw
    cases hraw

end KeywordCheck

/-! ## Reports -/

/-- **A report is bounded**: every score that it shows is one. -/
structure Report.Bounded (r : Report) : Prop where
  /-- the overall score -/
  overall : Score.InUnit r.overallScore
  /-- the safety score -/
  safety : Score.InUnit r.safetyScore
  /-- the performance score -/
  performance : Score.InUnit r.performanceScore
  /-- the ethics score -/
  ethics : Score.InUnit r.ethicsScore
  /-- the level of risk -/
  riskLevel : Score.InUnit r.riskLevel
  /-- the mean of the three dimensions -/
  compositeBase : Score.InUnit r.details.compositeBase
  /-- the score of every check -/
  checks : ∀ line ∈ r.details.checks, Score.InUnit line.score

/-- The lines of one dimension, in the order of a report. -/
def Details.linesOf (d : Details) : Dimension → List CheckScore
  | .safety => d.safetyChecks
  | .performance => d.performanceChecks
  | .ethics => d.ethicsChecks

theorem Details.mem_checks_iff {d : Details} {line : CheckScore} :
    line ∈ d.checks ↔ ∃ kind, line ∈ d.linesOf kind := by
  simp only [Details.checks, List.mem_append]
  constructor
  · rintro ((h | h) | h)
    · exact ⟨.safety, h⟩
    · exact ⟨.performance, h⟩
    · exact ⟨.ethics, h⟩
  · rintro ⟨_ | _ | _, h⟩
    · exact .inl (.inl h)
    · exact .inl (.inr h)
    · exact .inr h

section Assess

variable (checks : CheckSet) (policies : PolicyTable) (p : Proposal) (c : Criteria) (probe : Probe)
  (now : Time)

theorem linesOf_assess (kind : Dimension) :
    (assess checks policies p c probe now).details.linesOf kind = checks.run p kind := by
  cases kind <;> rfl

/-- **Running the checks of a dimension** gives one line for each of them, in their order. -/
theorem rates_checksFor (kind : Dimension) :
    List.Forall₂ (fun check line => check.Rates p line) (checks.checksFor p.category kind)
      (checks.run p kind) := by
  rw [CheckSet.run, List.forall₂_map_right_iff, List.forall₂_same]
  exact fun check _ => check.rates_run p

theorem inUnit_of_mem_run {kind : Dimension} {line : CheckScore}
    (hline : line ∈ checks.run p kind) : Score.InUnit line.score := by
  obtain ⟨check, _, rfl⟩ := List.mem_map.mp hline
  exact (check.rates_run p).inUnit

theorem bounded_assess : (assess checks policies p c probe now).Bounded where
  overall := Score.inUnit_unit _
  safety := Score.inUnit_unit _
  performance := Score.inUnit_unit _
  ethics := Score.inUnit_unit _
  riskLevel := Score.inUnit_unit _
  compositeBase := Score.inUnit_unit _
  checks := by
    intro line hline
    obtain ⟨kind, hkind⟩ := Details.mem_checks_iff.mp hline
    rw [linesOf_assess] at hkind
    exact inUnit_of_mem_run checks p hkind

end Assess

/-- **Every score of a report is a defined double in the unit interval.** For all checks, whatever
doubles they give and whether they fail or die, all policies, proposals and criteria with any doubles
in them, and whatever exercising the undo path showed: the report is bounded, and the lines of each
dimension are those of the checks of that dimension that concern the category, one for each and in
their order, with a note and the conservative score exactly for a check that gives no finite number.
A keyword check gives such a line as well, whatever its baseline and its penalty, and carries a note
exactly if they make its score undefined. -/
theorem assess_is_bounded (checks : CheckSet) (policies : PolicyTable) (p : Proposal)
    (c : Criteria) (probe : Probe) (now : Time) :
    let r := assess checks policies p c probe now
    r.Bounded ∧
    (∀ kind, List.Forall₂ (fun check line => check.Rates p line)
      (checks.checksFor p.category kind) (r.details.linesOf kind)) ∧
    ∀ k : KeywordCheck, k.toCheck.Rates p (k.toCheck.run p) ∧
      ((k.toCheck.run p).degraded.isSome = true ↔ (k.rawScore p).isNaN = true) := by
  intro r
  refine ⟨bounded_assess checks policies p c probe now, fun kind => ?_, fun k => ?_⟩
  · rw [linesOf_assess]
    exact rates_checksFor checks p kind
  · exact ⟨k.toCheck.rates_run p, k.degraded_run_iff p⟩

end ShadowGate
