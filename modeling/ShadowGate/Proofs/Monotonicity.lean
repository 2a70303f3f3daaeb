import ShadowGate.Proofs.Strictness

/-!
# Better scores and laxer rules never hurt

A decision compares two scores with two thresholds, climbs a ladder by a third score, and may be
held back by what is missing: an undo path, a tolerable risk, a consensus. Raising a score, lowering
a threshold, dropping a requirement or meeting it can only help, also all at once. The performance
score has no part in the verdict; it only shows in the conditions.

* `Scorecard.NoBetter` — one scorecard is no better than another in anything that a verdict depends
  on.
* `Decision.NoLaxer` — criteria and policy are no laxer than others.
* `Scorecard.NoBetter.notAbove` — **the two together** leave no advantage at any stage of the
  decision.
* `Scorecard.verdicts_are_monotone` — the theorem.
-/

namespace ShadowGate

/-- **Rules that are no laxer than others**: the thresholds are no lower, and what the others ask
for they ask for as well. -/
structure Decision.NoLaxer (c : Criteria) (p : Policy) (c' : Criteria) (p' : Policy) : Prop where
  /-- the threshold of safety -/
  safety : c'.safetyThreshold ≤ c.safetyThreshold
  /-- the threshold of ethics -/
  ethics : c'.ethicsThreshold ≤ c.ethicsThreshold
  /-- an undo path by the criteria -/
  rollback : c'.rollbackRequirement = true → c.rollbackRequirement = true
  /-- an undo path by the policy -/
  critical : p'.rollbackCritical = true → p.rollbackCritical = true
  /-- consensus -/
  consensus : c'.approvalConsensus = true → c.approvalConsensus = true

namespace Scorecard

open Decision

variable {card card' : Scorecard} {c c' : Criteria} {p p' : Policy}

/-- **A scorecard that is no better than another.** Scores that are compared are numbers, and the
performance score is not among them. -/
structure NoBetter (card card' : Scorecard) : Prop where
  /-- it is no safer -/
  safety : card.safety ≤ card'.safety
  /-- it is no more ethical -/
  ethics : card.ethics ≤ card'.ethics
  /-- it scores no higher overall -/
  overall : card.overall ≤ card'.overall
  /-- if its undo path works, so does the other's -/
  rollback : card.rollbackReady = true → card'.rollbackReady = true
  /-- if the other's risk is too high, so is its own -/
  risk : card'.risk.exceedsTolerance = true → card.risk.exceedsTolerance = true
  /-- if a check dissents from the other, one dissents from it -/
  dissent : card'.dissent ≠ [] → card.dissent ≠ []

/-- A score that reaches its threshold still does when it rises and the threshold falls. -/
theorem not_lt_of_le_of_le {x y t u : Float} (hreached : ¬ x < t) (hscore : x ≤ y)
    (hlower : u ≤ t) : ¬ y < u := by
  intro hlt
  exact hreached (Number.lt_le_trans (Number.le_lt_trans hscore hlt) hlower)

/-- **What is not rejected outright** is not so on a better card under laxer rules. -/
theorem NoBetter.hardRejections_eq_nil (hcard : card.NoBetter card') (hrules : NoLaxer c p c' p')
    (hnone : card.hardRejections c p = []) : card'.hardRejections c' p' = [] := by
  rw [hardRejections_eq_nil_iff, rollbackRequired_eq_false_iff] at hnone ⊢
  obtain ⟨hsafe, hethical, hundo⟩ := hnone
  refine ⟨not_lt_of_le_of_le hsafe hcard.safety hrules.safety,
    not_lt_of_le_of_le hethical hcard.ethics hrules.ethics, ?_⟩
  rcases hundo with hready | ⟨hrequirement, hcritical⟩
  · exact .inl (hcard.rollback hready)
  · -- what the stricter rules do not ask for, the laxer ones do not ask for either
    refine .inr ⟨Bool.eq_false_iff.mpr fun hasked => ?_, Bool.eq_false_iff.mpr fun hasked => ?_⟩
    · rw [hrules.rollback hasked] at hrequirement
      cases hrequirement
    · rw [hrules.critical hasked] at hcritical
      cases hcritical

/-- **A card that is no better, under rules that are no laxer**, has no advantage. -/
theorem NoBetter.notAbove (hcard : card.NoBetter card') (hrules : NoLaxer c p c' p') :
    card.NotAbove c p card' c' p' where
  overall := hcard.overall
  hard := hcard.hardRejections_eq_nil hrules
  risk htolerable := by
    refine Bool.eq_false_iff.mpr fun hexceeds => ?_
    rw [hcard.risk hexceeds] at htolerable
    cases htolerable
  dissent hagreed hasked := by
    by_contra hdissent
    exact hcard.dissent hdissent (hagreed (hrules.consensus hasked))

/-- **Verdicts are monotone.** A scorecard that is no better than another, under rules that are no
laxer, gets a verdict that ranks no higher, whatever the performance scores and their thresholds. So
what is rejected under laxer rules is rejected under stricter ones. -/
theorem verdicts_are_monotone (hcard : card.NoBetter card') (hrules : NoLaxer c p c' p') :
    (card.decision c p).verdict.rank ≤ (card'.decision c' p').verdict.rank ∧
    ((card'.decision c' p').verdict = .rejected → (card.decision c p).verdict = .rejected) := by
  have hrank := (hcard.notAbove hrules).rank_decision_le
  refine ⟨hrank, fun hrejected => ?_⟩
  rw [hrejected] at hrank
  cases hverdict : (card.decision c p).verdict with
  | rejected => rfl
  | _ =>
    rw [hverdict] at hrank
    exact absurd hrank (by decide)

/-- A card with a dissenting check and too much risk, that performs perfectly. -/
def riskyCard : Scorecard where
  safety := 0.85
  performance := 1.0
  ethics := 0.92
  overall := 0.82
  rollbackReady := false
  risk := { exceedsTolerance := true }
  dissent := ["bias"]

/-- A card that is better in everything but performance. -/
def soundCard : Scorecard where
  safety := 0.9
  performance := 0.1
  ethics := 0.95
  overall := 0.85
  rollbackReady := true
  risk := {}

/-- Under criteria that ask for consensus the first card is conditional; the second is approved
under laxer ones, however badly it performs. -/
theorem sound_card_is_approved_over_risky_card :
    let strict : Criteria := { rollbackRequirement := false, approvalConsensus := true }
    let lax : Criteria :=
      { safetyThreshold := 0.5, ethicsThreshold := 0.5, rollbackRequirement := false
        performanceThreshold := 1.0 }
    riskyCard.NoBetter soundCard ∧ NoLaxer strict {} lax {} ∧
    (riskyCard.decision strict {}).verdict = .conditional ∧
    (soundCard.decision lax {}).verdict = .approved ∧
    (riskyCard.decision strict {}).verdict.rank ≤ (soundCard.decision lax {}).verdict.rank := by
  intro strict lax
  have hcard : riskyCard.NoBetter soundCard :=
    ⟨by decide, by decide, by decide, nofun, nofun, nofun⟩
  have hrules : NoLaxer strict {} lax {} := ⟨by decide, by decide, nofun, nofun, nofun⟩
  exact ⟨hcard, hrules, by decide, by decide, (verdicts_are_monotone hcard hrules).1⟩

end Scorecard

end ShadowGate
