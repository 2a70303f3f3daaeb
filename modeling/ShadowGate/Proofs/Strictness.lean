import ShadowGate.Proofs.Decision
import ShadowGate.Proofs.Number.Arithmetic
import ShadowGate.Proofs.Score

/-!
# Stricter levels never help

A level acts on a validation in four ways: it sets the thresholds, asks for an undo path, asks for
consensus, and damps the overall score. Each of them can only lower the verdict as the level rises.

* `Verdict.rank` — verdicts from the worst to the best.
* `Scorecard.NotAbove` — **one decision has no advantage over another**, stage by stage, and
  `Scorecard.rank_decision_le`: its verdict ranks no higher then.
* `Score.overall_critical_le` — damping does not raise the overall score: nine tenths of a mean are
  not more than the mean, and what is added and subtracted afterwards is the same.
* `stricter_levels_never_help` — the theorem.
-/

namespace ShadowGate

/-- How good a verdict is. -/
def Verdict.rank : Verdict → Nat
  | .rejected => 0
  | .requiresReview => 1
  | .conditional => 2
  | .approved => 3

/-! ## Decisions -/

namespace Decision

/-- A higher score ranks no lower. -/
theorem rank_byScore_mono {x y : Float} (h : x ≤ y) : (byScore x).rank ≤ (byScore y).rank := by
  have hreach : ∀ t : Float, x ≥ t → y ≥ t := fun t ht => Number.le_le_trans ht h
  rw [byScore, byScore]
  split
  · rename_i hx
    rw [if_pos (hreach _ hx)]
  · split
    · rename_i hx
      split
      · decide
      · rw [if_pos (hreach _ hx)]
    · split
      · rename_i hx
        split
        · decide
        · split
          · decide
          · rw [if_pos (hreach _ hx)]
      · exact Nat.zero_le _

end Decision

namespace Scorecard

open Decision

variable {card card' : Scorecard} {c c' : Criteria} {p p' : Policy}

/-- **One decision has no advantage over another**: not in the overall score, and whatever rejects or
caps the other rejects or caps it as well. -/
structure NotAbove (card : Scorecard) (c : Criteria) (p : Policy) (card' : Scorecard)
    (c' : Criteria) (p' : Policy) : Prop where
  /-- the overall score is no higher -/
  overall : card.overall ≤ card'.overall
  /-- it is rejected outright where the other is -/
  hard : card.hardRejections c p = [] → card'.hardRejections c' p' = []
  /-- risk caps it where risk caps the other -/
  risk : card.risk.exceedsTolerance = false → card'.risk.exceedsTolerance = false
  /-- dissent caps it where dissent caps the other -/
  dissent : (c.approvalConsensus = true → card.dissent = []) →
    (c'.approvalConsensus = true → card'.dissent = [])

/-- The caps lower a verdict to conditional, and no further. -/
theorem rank_capped (card : Scorecard) (c : Criteria) :
    (card.capped c).rank =
      if card.risk.exceedsTolerance = true ∨ (c.approvalConsensus = true ∧ card.dissent ≠ []) then
        min 2 (byScore card.overall).rank
      else (byScore card.overall).rank := by
  rw [capped, dissentCaps, cappedByRisk, riskCaps]
  cases byScore card.overall <;> cases card.risk.exceedsTolerance <;>
    cases c.approvalConsensus <;> cases card.dissent <;> rfl

theorem NotAbove.rank_capped_le (h : NotAbove card c p card' c' p') :
    (card.capped c).rank ≤ (card'.capped c').rank := by
  have hscore := rank_byScore_mono h.overall
  rw [rank_capped, rank_capped]
  split
  · split <;> omega
  · rename_i hfree
    obtain ⟨hrisk, hdissent⟩ := not_or.mp hfree
    have hrisk' : card'.risk.exceedsTolerance = false := h.risk (by simpa using hrisk)
    have hdissent' : c'.approvalConsensus = true → card'.dissent = [] := by
      refine h.dissent fun hc => ?_
      by_contra hne
      exact hdissent ⟨hc, hne⟩
    rw [if_neg]
    · exact hscore
    · rintro (hr | ⟨hc, hne⟩)
      · rw [hrisk'] at hr
        cases hr
      · exact hne (hdissent' hc)

/-- **A decision without advantage ranks no higher.** -/
theorem NotAbove.rank_decision_le (h : NotAbove card c p card' c' p') :
    (card.decision c p).verdict.rank ≤ (card'.decision c' p').verdict.rank := by
  by_cases hhard : card.hardRejections c p = []
  · rw [(decision_of_no_hardRejections hhard).1,
      (decision_of_no_hardRejections (h.hard hhard)).1]
    exact h.rank_capped_le
  · rw [(decision_of_hardRejections hhard).1]
    exact Nat.zero_le _

end Scorecard

/-! ## Scores -/

namespace Score

variable {x y : Float}

/-- The value of a defined double that is cut to the unit interval. -/
theorem value_unit (hx : x.isNaN = false) :
    Number.value (unit x) = max 0 (min (Number.value x) (Number.value 1.0)) := by
  have hzero : Number.value 0.0 = 0 := rfl
  have hone : Number.value 0.0 ≤ Number.value 1.0 :=
    (Number.le_iff_value_le inUnit_zero.defined inUnit_one.defined).mp (by decide)
  have hunit : unit x = Number.clamp x 0.0 1.0 := by
    rw [unit, hx]
    rfl
  rw [hunit, Number.clamp]
  split
  · rename_i hlow
    rw [Number.lt_iff_value_lt hx inUnit_zero.defined] at hlow
    omega
  · rename_i hlow
    rw [Number.lt_iff_value_lt hx inUnit_zero.defined] at hlow
    split
    · rename_i hhigh
      rw [gt_iff_lt, Number.lt_iff_value_lt inUnit_one.defined hx] at hhigh
      omega
    · rename_i hhigh
      rw [gt_iff_lt, Number.lt_iff_value_lt inUnit_one.defined hx] at hhigh
      omega

/-- Cutting to the unit interval preserves the order. -/
theorem unit_mono (h : x ≤ y) : unit x ≤ unit y := by
  obtain ⟨hx, hy⟩ := Number.isNaN_of_le h
  have hvalue := (Number.le_iff_value_le hx hy).mp h
  rw [Number.le_iff_value_le (isNaN_unit x) (isNaN_unit y), value_unit hx, value_unit hy]
  omega

/-- **Damping does not raise the overall score.** -/
theorem overall_critical_le (safety performance ethics : Float) (level : Level) (ready : Bool)
    (risk : Float) :
    overall (compositeBase safety performance ethics) .critical ready risk ≤
      overall (compositeBase safety performance ethics) level ready risk := by
  have hbase : InUnit (compositeBase safety performance ethics) := inUnit_unit _
  generalize compositeBase safety performance ethics = base at hbase
  have hdamped : damped base .critical ≤ damped base level := by
    have hle : base * 0.9 ≤ base :=
      (Number.mul_le_of_le_one hbase.isFinite hbase.nonneg (by decide) (by decide)).2
    rw [damped, damped, if_pos rfl]
    split
    · exact Number.le_self (Number.isNaN_of_le hle).1
    · exact hle
  have hbonus : (if ready then 0.1 else -0.2 : Float).isFinite = true := by
    cases ready <;> decide
  have hrisk : InUnit (unit risk) := inUnit_unit _
  have hshare : (unit risk * 0.3).isFinite = true :=
    (Number.mul_le_of_le_one hrisk.isFinite hrisk.nonneg (by decide) (by decide)).1
  rw [overall, overall]
  exact unit_mono (Number.sub_le_sub_const (Number.add_le_add_const hdamped hbonus) hshare)

end Score

/-! ## Levels -/

section Levels

variable (checks : CheckSet) (policies : PolicyTable) (p : Proposal) (base : Criteria)
  (probe : Probe) (now : Time)

/-- What is decided about a proposal at a level. Only the overall score and the dissent depend on
it. -/
def cardAt (level : Level) : Scorecard :=
  let safety := Score.safety (checks.run p .safety) (policies.get p.category)
  let performance :=
    Score.performance (checks.run p .performance) (Score.performanceBonus p.benefits)
  let ethics := Score.ethics (checks.run p .ethics) p.category
  let risk := Risk.assess p (policies.get p.category).maxRiskTolerance
  { safety, performance, ethics
    overall := Score.overall (Score.compositeBase safety performance ethics) level probe.ready
      risk.riskLevel
    rollbackReady := probe.ready
    risk
    dissent := dissenting (checks.run p .safety ++ checks.run p .performance ++ checks.run p .ethics)
      (base.atLevel level) }

theorem level_atLevel (level : Level) : (base.atLevel level).level = level := by
  cases level <;> rfl

/-- **The verdict at a level is the decision on its card.** -/
theorem verdict_atLevel (level : Level) :
    (assess checks policies p (base.atLevel level) probe now).verdict =
      ((cardAt checks policies p base probe level).decision (base.atLevel level)
        (policies.get p.category)).verdict := by
  have hcard : (assess checks policies p (base.atLevel level) probe now).card
      (base.atLevel level) = cardAt checks policies p base probe level := by
    simp only [cardAt, Report.card, assess, Details.checks, level_atLevel]
  rw [verdict_assess, hcard]

/-- **Critical has no advantage over comprehensive**: it damps the overall score, and asks for an undo
path. -/
theorem notAbove_critical :
    (cardAt checks policies p base probe .critical).NotAbove (base.atLevel .critical)
      (policies.get p.category) (cardAt checks policies p base probe .comprehensive)
      (base.atLevel .comprehensive) (policies.get p.category) where
  overall := Score.overall_critical_le _ _ _ .comprehensive _ _
  hard h := by
    rw [Scorecard.hardRejections_eq_nil_iff, Decision.rollbackRequired_eq_false_iff] at h ⊢
    obtain ⟨hsafe, hethical, hready | ⟨hrequired, _⟩⟩ := h
    · exact ⟨hsafe, hethical, .inl hready⟩
    · cases hrequired
  risk h := h
  dissent h := h

/-- **Comprehensive has no advantage over standard**: it asks for consensus. -/
theorem notAbove_comprehensive :
    (cardAt checks policies p base probe .comprehensive).NotAbove (base.atLevel .comprehensive)
      (policies.get p.category) (cardAt checks policies p base probe .standard)
      (base.atLevel .standard) (policies.get p.category) where
  overall := Number.le_self (Score.isNaN_unit _)
  hard h := h
  risk h := h
  dissent h := fun _ => h rfl

/-- **Standard has no advantage over basic**, if relaxing raises no threshold: basic lowers the
thresholds, and asks for no undo path. -/
theorem notAbove_standard
    (hrelax : ∀ kind, Criteria.relax (base.threshold kind) ≤ base.threshold kind) :
    (cardAt checks policies p base probe .standard).NotAbove (base.atLevel .standard)
      (policies.get p.category) (cardAt checks policies p base probe .basic)
      (base.atLevel .basic) (policies.get p.category) where
  overall := Number.le_self (Score.isNaN_unit _)
  hard h := by
    rw [Scorecard.hardRejections_eq_nil_iff, Decision.rollbackRequired_eq_false_iff] at h ⊢
    obtain ⟨hsafe, hethical, hundo⟩ := h
    refine ⟨fun hlt => hsafe (Number.lt_le_trans hlt (hrelax .safety)),
      fun hlt => hethical (Number.lt_le_trans hlt (hrelax .ethics)), ?_⟩
    exact hundo.imp_right fun ⟨_, hcritical⟩ => ⟨rfl, hcritical⟩
  risk h := h
  dissent h hconsensus := by
    have hnone := dissenting_eq_nil_iff.mp (h hconsensus)
    refine dissenting_eq_nil_iff.mpr fun check hcheck hlt => hnone check hcheck ?_
    have hthreshold : ∀ kind, (base.atLevel .basic).threshold kind =
        Criteria.relax ((base.atLevel .standard).threshold kind) := by
      intro kind
      cases kind <;> rfl
    rw [hthreshold] at hlt
    exact Number.lt_le_trans hlt (hrelax check.kind)

end Levels

/-- **Stricter levels never help.** For all checks, policies, proposals, criteria and whatever
exercising the undo path showed: the verdict at the critical level ranks no higher than at the
comprehensive one, and that no higher than at the standard one; and where relaxing raises none of the
three thresholds, the verdict at the standard level ranks no higher than at the basic one. -/
theorem stricter_levels_never_help (checks : CheckSet) (policies : PolicyTable) (p : Proposal)
    (base : Criteria) (probe : Probe) (now : Time) :
    let rankAt (level : Level) : Nat :=
      (assess checks policies p (base.atLevel level) probe now).verdict.rank
    rankAt .critical ≤ rankAt .comprehensive ∧ rankAt .comprehensive ≤ rankAt .standard ∧
    (Criteria.relax base.safetyThreshold ≤ base.safetyThreshold →
      Criteria.relax base.performanceThreshold ≤ base.performanceThreshold →
      Criteria.relax base.ethicsThreshold ≤ base.ethicsThreshold →
      rankAt .standard ≤ rankAt .basic) := by
  simp only [verdict_atLevel]
  refine ⟨(notAbove_critical checks policies p base probe).rank_decision_le,
    (notAbove_comprehensive checks policies p base probe).rank_decision_le,
    fun hsafety hperformance hethics => ?_⟩
  have hrelax : ∀ kind, Criteria.relax (base.threshold kind) ≤ base.threshold kind := by
    intro kind
    cases kind with
    | safety => exact hsafety
    | performance => exact hperformance
    | ethics => exact hethics
  exact (notAbove_standard checks policies p base probe hrelax).rank_decision_le

/-- A proposal about learning strategies that changes nothing yet. -/
def learningProposal (description : String) (risks : List String) (confidence : Float) : Proposal :=
  { id := "p", source := "", category := .learningStrategy, description, risks, confidence }

/-- At the default criteria relaxing lowers all three thresholds, so all four levels are in order;
and each step from one level to the next costs some proposal its verdict. A hazard to safety is
rejected from the standard level on, one to performance is no consensus from the comprehensive one
on, and what has only just been conditional is not so at the critical one. -/
theorem default_levels_are_in_order :
    let rankAt (p : Proposal) (level : Level) : Nat :=
      (assess .builtin {} p (({} : Criteria).atLevel level) { ready := true } 0).verdict.rank
    let hasty := learningProposal "reset" [] 1.0
    let costly := learningProposal "slow" [] 1.0
    let doubtful := learningProposal "slow" ["severe"] 0.0
    (Criteria.relax 0.8 ≤ 0.8 ∧ Criteria.relax 0.7 ≤ 0.7 ∧ Criteria.relax 0.9 ≤ 0.9) ∧
      (rankAt hasty .critical ≤ rankAt hasty .comprehensive ∧
        rankAt hasty .comprehensive ≤ rankAt hasty .standard ∧
        rankAt hasty .standard ≤ rankAt hasty .basic) ∧
      Level.all.map (rankAt hasty) = [3, 0, 0, 0] ∧
      Level.all.map (rankAt costly) = [3, 3, 2, 2] ∧
      Level.all.map (rankAt doubtful) = [2, 2, 2, 1] := by
  have hrelax : Criteria.relax 0.8 ≤ 0.8 ∧ Criteria.relax 0.7 ≤ 0.7 ∧ Criteria.relax 0.9 ≤ 0.9 := by
    decide
  obtain ⟨hcritical, hcomprehensive, hstandard⟩ :=
    stricter_levels_never_help .builtin {} (learningProposal "reset" [] 1.0) {} { ready := true } 0
  refine ⟨hrelax, ⟨hcritical, hcomprehensive, hstandard hrelax.1 hrelax.2.1 hrelax.2.2⟩, ?_⟩
  decide +kernel

end ShadowGate
