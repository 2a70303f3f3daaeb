import ShadowGate.Proofs.Gate.Coherence
import ShadowGate.Proofs.Gate.Probe

/-!
# Batches and single validations

The proposals of a batch are evaluated one after another over the same host, and then their reports
are revised: beyond the limit, and where approvals are in conflict. What the first step gives is
what each proposal would get on its own, as long as copies of live state come out the same way again
and again; so a batch is its proposals on their own, up to the revisions.

* `Gate.getElem?_evaluateAll` — **the reports before the revisions**, each by the copy that was made
  for it; `Gate.evaluateAll_eq`: of its own proposal only.
* `Report.Agrees` — what no revision touches.
* `Batch.Follows` — a report of a batch, in terms of the reports on each of its proposals alone;
  `Batch.follows_of_unstamped` puts the two revisions together.
* `Gate.batch_follows_single_validations` — the theorem, and `Gate.rejected_is_not_told_of_rivals`:
  only those who take part in a conflict are told of it.
-/

namespace ShadowGate

/-! ## Reports -/

namespace Report

/-- Two reports agree on everything that was found: all but verdict, conditions, recommendations and
stamp. -/
structure Agrees (r r' : Report) : Prop where
  changeId : r.changeId = r'.changeId
  category : r.category = r'.category
  overallScore : r.overallScore = r'.overallScore
  safetyScore : r.safetyScore = r'.safetyScore
  performanceScore : r.performanceScore = r'.performanceScore
  ethicsScore : r.ethicsScore = r'.ethicsScore
  riskLevel : r.riskLevel = r'.riskLevel
  rollbackReady : r.rollbackReady = r'.rollbackReady
  rollbackRequired : r.rollbackRequired = r'.rollbackRequired
  details : r.details = r'.details

/-- What was found, with nothing made of it. -/
def findings (r : Report) : Report :=
  { r with verdict := .rejected, recommendations := [], conditions := [], approvedAt := none }

theorem Agrees.of_findings {r r' : Report} (h : r.findings = r'.findings) : r.Agrees r' := by
  simp only [findings, Report.mk.injEq] at h
  obtain ⟨hid, hcategory, -, hoverall, hsafety, hperformance, hethics, hrisk, hready, hrequired,
    hdetails, -⟩ := h
  exact ⟨hid, hcategory, hoverall, hsafety, hperformance, hethics, hrisk, hready, hrequired,
    hdetails⟩

/-- A report without its stamp. -/
def unstamped (r : Report) : Report := { r with approvedAt := none }

/-- A report that differs in its stamp only. -/
theorem exists_of_unstamped_eq {r r' : Report} (h : r.unstamped = r'.unstamped) :
    ∃ approvedAt, r = { r' with approvedAt } := by
  refine ⟨r.approvedAt, ?_⟩
  have heq : { r.unstamped with approvedAt := r.approvedAt } =
      { r'.unstamped with approvedAt := r.approvedAt } := by rw [h]
  exact heq

end Report

/-! ## Revisions -/

namespace Batch

variable {evaluated solo : List Report} {i : Nat} {now : Time} {s : Report}

/-- **The i-th report of a batch**, in terms of the reports on each of its proposals alone. -/
structure Follows (solo : List Report) (limit : Nat) (s : Report) (i : Nat) (r : Report) :
    Prop where
  /-- it finds the same -/
  agrees : r.Agrees s
  /-- an approval that another goes before becomes conditional -/
  waits : Outranked solo (s, i) → r.verdict = .conditional
  /-- every other verdict stands -/
  stands : ¬ Outranked solo (s, i) → r.verdict = s.verdict
  /-- beyond the limit it is told to wait, and one of several approvals is told of the others -/
  recommendations : r.recommendations = s.recommendations
    ++ (if limit ≤ i then [excessAdvice solo.length limit] else [])
    ++ (if Contested solo s then [contestedAdvice (rivals solo s.category) s.category] else [])

/-- Reports that are the same but for their stamps, and for recommendations, are rated the same. -/
theorem map_rating_flagExcess (limit : Nat)
    (h : evaluated.map Report.unstamped = solo.map Report.unstamped) :
    (flagExcess limit evaluated).map rating = solo.map rating := by
  have hflagged : (flagExcess limit evaluated).map rating = evaluated.map rating := by
    refine List.ext_getElem? fun i => ?_
    rw [List.getElem?_map, List.getElem?_map, getElem?_flagExcess, Option.map_map]
    refine congrArg (fun f => Option.map f evaluated[i]?) (funext fun r => ?_)
    simp only [Function.comp_apply]
    split <;> rfl
  have hstamps : ∀ l : List Report, l.map rating = (l.map Report.unstamped).map rating := by
    intro l
    rw [List.map_map]
    rfl
  rw [hflagged, hstamps, h, ← hstamps]

/-- **The first revision** touches nothing but the recommendations. -/
theorem exists_flagged (h : evaluated.map Report.unstamped = solo.map Report.unstamped)
    (limit : Nat) (hs : solo[i]? = some s) :
    ∃ f, (flagExcess limit evaluated)[i]? = some f ∧ f.findings = s.findings ∧
      f.verdict = s.verdict ∧ f.recommendations = s.recommendations ++
        (if limit ≤ i then [excessAdvice solo.length limit] else []) := by
  have hlength : evaluated.length = solo.length := by simpa using congrArg List.length h
  obtain ⟨e, he, hunstamped⟩ : ∃ e, evaluated[i]? = some e ∧ e.unstamped = s.unstamped := by
    refine Option.map_eq_some_iff.mp ?_
    rw [← List.getElem?_map, h, List.getElem?_map, hs, Option.map_some]
  obtain ⟨approvedAt, rfl⟩ := Report.exists_of_unstamped_eq hunstamped
  refine ⟨_, by rw [getElem?_flagExcess, he, Option.map_some], ?_⟩
  rw [hlength]
  split
  · exact ⟨rfl, rfl, rfl⟩
  · exact ⟨rfl, rfl, (List.append_nil _).symm⟩

/-- **Both revisions together.** -/
theorem follows_of_unstamped (h : evaluated.map Report.unstamped = solo.map Report.unstamped)
    (hscored : Scored evaluated) (limit : Nat) (now : Time) (hs : solo[i]? = some s) :
    ∃ r, (resolveConflicts (flagExcess limit evaluated) now)[i]? = some r ∧
      Follows solo limit s i r := by
  obtain ⟨f, hf, hfindings, hverdict, hrecommendations⟩ := exists_flagged h limit hs
  have hagrees : f.Agrees s := .of_findings hfindings
  -- conflicts are settled by ratings, and these are what they were
  have hratings := map_rating_flagExcess limit h
  have hrating : rating f = rating s := by
    simp only [rating, Report.isApproved, hverdict, hagrees.category, hagrees.overallScore]
  have hrank : Outranked (flagExcess limit evaluated) (f, i) ↔ Outranked solo (s, i) :=
    ⟨fun h => h.congr hratings hrating, fun h => h.congr hratings.symm hrating.symm⟩
  have hcontested := contested_congr hratings hrating
  have hadvice : contestedAdvice (rivals (flagExcess limit evaluated) f.category) f.category =
      contestedAdvice (rivals solo s.category) s.category := by
    rw [hagrees.category, rivals_congr hratings]
  obtain ⟨r, hr, hsettled⟩ := exists_settled now (scored_flagExcess hscored) hf
  refine ⟨r, hr, ?_⟩
  cases hsettled with
  | kept hc ho =>
    refine ⟨hagrees, fun h => absurd (hrank.mpr h) ho, fun _ => hverdict, ?_⟩
    rw [if_neg (fun h => hc (hcontested.mpr h)), List.append_nil, hrecommendations]
  | told hc ho =>
    refine ⟨.of_findings hfindings, fun h => absurd (hrank.mpr h) ho, fun _ => hverdict, ?_⟩
    rw [if_pos (hcontested.mp hc), ← hrecommendations, ← hadvice]
    rfl
  | waits hc ho condition =>
    refine ⟨.of_findings hfindings, fun _ => rfl, fun h => absurd (hrank.mp ho) h, ?_⟩
    rw [if_pos (hcontested.mp hc), ← hrecommendations, ← hadvice]
    rfl

end Batch

/-! ## Gates -/

/-- The id of the shadow matters only where nothing is kept. -/
theorem Host.probeOf_congr {ρ : Retention} {id id' : ShadowId} (h : ρ = .forgetful → id = id')
    (copy : Except Fault Snapshot) : probeOf ρ id copy = probeOf ρ id' copy := by
  by_cases hforgets : ρ = .forgetful
  · rw [h hforgets]
  · rcases copy with (e | message) | snapshot <;> simp [probeOf, hforgets]

namespace Gate

variable {σ ω : Type} {act : ω → σ → σ} {g : Gate σ}

theorem Reached.blank {backing : Backing σ} {retention : Retention}
    (hg : Reached act backing retention g) : g.host.Blank :=
  hg.invariant Host.blank_operations (fun _ _ hh => hh) fun _ _ _ _ => rfl

/-- What a probe shows at a gate. -/
def probeAt (g : Gate σ) (id : ShadowId) : Probe :=
  Host.probeOf g.host.registry.retention id (g.host.backing.snapshot g.host.live).1

theorem evaluate_eq (hblank : g.host.Blank) (id : ShadowId) (p : Proposal) (c : Criteria)
    (now : Time) : (g.evaluate id p c now).1 = g.assess p c (g.probeAt id) now := by
  rw [probeAt, ← g.host.answer_probe hblank id p now]
  rfl

theorem length_evaluateAll (g : Gate σ) (fresh : Nat → ShadowId) (c : Criteria) (now : Time)
    (proposals : List Proposal) :
    (g.evaluateAll fresh c now proposals).1.length = proposals.length := by
  induction proposals generalizing g fresh with
  | nil => rfl
  | cons p rest ih => exact congrArg (· + 1) (ih _ _)

/-- **Each report before the revisions**, by the copy of live state that was made for it. -/
theorem getElem?_evaluateAll (c : Criteria) (now : Time) (proposals : List Proposal) {g : Gate σ}
    (hblank : g.host.Blank) (fresh : Nat → ShadowId) (i : Nat) :
    (g.evaluateAll fresh c now proposals).1[i]? = proposals[i]?.map fun p =>
      g.assess p c (Host.probeOf g.host.registry.retention (fresh i)
        (g.host.backing.snapshot (g.host.backing.copied i g.host.live)).1) now := by
  induction proposals generalizing g fresh i with
  | nil => rfl
  | cons p rest ih =>
    cases i with
    | zero => exact congrArg some (evaluate_eq hblank (fresh 0) p c now)
    | succ i =>
      -- the host of the others is the one that the first probe leaves
      obtain ⟨hbacking, hretention, hblank'⟩ := g.host.keeps_probe hblank (fresh 0) p now
      have hlive := g.host.live_probe (fresh 0) p now
      have ih' := ih (g := { g with host := (g.host.probe (fresh 0) p now).2 }) hblank'
        (fun n => fresh (n + 1)) i
      simp only [hbacking, hretention, hlive] at ih'
      exact ih'

/-- **Each report before the revisions depends on its own proposal only**, if copies come out the
same way. -/
theorem evaluateAll_eq (proposals : List Proposal) (c : Criteria) (now : Time) {g : Gate σ}
    (hblank : g.host.Blank) (hsteady : g.host.backing.Steady g.host.live)
    (fresh : Nat → ShadowId) :
    (g.evaluateAll fresh c now proposals).1 =
      proposals.mapIdx fun i p => g.assess p c (g.probeAt (fresh i)) now := by
  refine List.ext_getElem? fun i => ?_
  rw [getElem?_evaluateAll c now proposals hblank fresh i, List.getElem?_mapIdx,
    hsteady.probeOf_copied]
  rfl

/-- **The reports before the revisions** are those on each proposal alone, but for their stamps. -/
theorem unstamped_evaluateAll (hblank : g.host.Blank)
    (hsteady : g.host.backing.Steady g.host.live) {fresh alone : Nat → ShadowId}
    (hids : g.host.registry.retention = .forgetful → fresh = alone) (proposals : List Proposal)
    (c : Criteria) (now : Time) (clock : Nat → Time) :
    (g.evaluateAll fresh c now proposals).1.map Report.unstamped =
      (proposals.mapIdx fun i p => (g.validate (alone i) p c (clock i)).1).map
        Report.unstamped := by
  have hsolo : ∀ i p, (g.validate (alone i) p c (clock i)).1 =
      g.assess p c (g.probeAt (fresh i)) (clock i) := by
    intro i p
    rw [probeAt, Host.probeOf_congr fun hforgets => congrFun (hids hforgets) i]
    exact evaluate_eq hblank (alone i) p c (clock i)
  refine List.ext_getElem? fun i => ?_
  rw [evaluateAll_eq proposals c now hblank hsteady fresh, List.getElem?_map, List.getElem?_map,
    List.getElem?_mapIdx, List.getElem?_mapIdx, Option.map_map, Option.map_map]
  refine congrArg (fun f => Option.map f proposals[i]?) (funext fun p => ?_)
  -- the clock leaves nothing but its stamp on a report
  simp only [Function.comp_apply, hsolo]
  rfl

/-- **A batch follows the validations of its proposals, each on its own.** In every gate that a run
can lead to, over a backing store whose copies come out the same way again and again, a batch gives
one report for each of its proposals, in order. Against the report that validating the proposal
alone would give, under any id and at any time, it finds the same; its verdict is the same, unless
that is an approval and another approval of the category scores higher, or as high and comes
earlier: then it is conditional; and its recommendations are the same, followed by a note if it is
beyond the limit, and by a note on its rivals if it is approved and not the only one of its
category. Where the registry keeps nothing a report names the shadow that was lost, so there the ids
have to be the same ones. -/
theorem batch_follows_single_validations {backing : Backing σ} {retention : Retention}
    (hg : Reached act backing retention g) (hsteady : backing.Steady g.host.live)
    (fresh alone : Nat → ShadowId) (hids : retention = .forgetful → fresh = alone)
    (proposals : List Proposal) (c : Criteria) (now : Time) (clock : Nat → Time) :
    let batch := (g.validateBatch fresh proposals c now).1
    let solo := proposals.mapIdx fun i p => (g.validate (alone i) p c (clock i)).1
    batch.length = proposals.length ∧
    ∀ i p, proposals[i]? = some p →
      ∃ r, batch[i]? = some r ∧
        Batch.Follows solo c.maxSimultaneousChanges (g.validate (alone i) p c (clock i)).1 i r := by
  intro batch solo
  have hblank := hg.blank
  obtain ⟨rfl, rfl⟩ := hg.frame
  have hsame := unstamped_evaluateAll hblank hsteady hids proposals c now clock
  refine ⟨?_, fun i p hp => ?_⟩
  · have hlength : (g.evaluateAll fresh c now proposals).1.length = proposals.length := by
      rw [evaluateAll_eq proposals c now hblank hsteady fresh, List.length_mapIdx]
    simpa [batch, validateBatch, Batch.resolveConflicts, Batch.flagExcess] using hlength
  · refine Batch.follows_of_unstamped hsame (g.scored_evaluateAll fresh c now proposals)
      c.maxSimultaneousChanges now ?_
    rw [List.getElem?_mapIdx, hp, Option.map_some]

/-- The reports on each proposal of the sample batch alone, each under an id and at a time of its
own. -/
def sampleSolo : List Report :=
  sampleBatch.mapIdx fun i p => (sampleGate.validate (sampleIds (i + 3)) p {} i).1

set_option maxRecDepth 100000 in
theorem verdicts_sampleSolo :
    sampleSolo.map (fun r => (r.verdict, r.category)) =
      [(.approved, .metaLearning), (.approved, .metaLearning), (.rejected, .metaLearning)] := by
  decide +kernel

theorem rivals_sampleSolo : Batch.rivals sampleSolo .metaLearning = 2 := by
  have hcount : Batch.rivals sampleSolo .metaLearning =
      (sampleSolo.map fun r => (r.verdict, r.category)).countP
        fun r => r.1 == .approved && r.2 == .metaLearning := by
    rw [List.countP_map]
    rfl
  rw [hcount, verdicts_sampleSolo]
  rfl

/-- Of two proposals that are approved on their own, the second waits for the first, and is told
so. -/
theorem second_of_sample_batch_waits :
    (sampleGate.validateBatch sampleIds sampleBatch {} 0).1.length = 3 ∧
    ∃ r s, (sampleGate.validateBatch sampleIds sampleBatch {} 0).1[1]? = some r ∧
      sampleSolo[1]? = some s ∧ r.Agrees s ∧ s.verdict = .approved ∧ r.verdict = .conditional ∧
      r.recommendations = s.recommendations ++ [Batch.contestedAdvice 2 .metaLearning] := by
  have hg : Reached Store.write Store.backing .exact sampleGate := ⟨_, _, _, _, [], rfl⟩
  have hsteady : Store.backing.Steady sampleGate.host.live := .copies fun n => ⟨_, rfl⟩
  obtain ⟨hlength, hfollows⟩ := batch_follows_single_validations hg hsteady sampleIds
    (fun i => sampleIds (i + 3)) nofun sampleBatch {} 0 fun i => i
  obtain ⟨s, hs⟩ : ∃ s, sampleSolo[1]? = some s := ⟨_, rfl⟩
  obtain ⟨r, hr, hfollows⟩ : ∃ r, (sampleGate.validateBatch sampleIds sampleBatch {} 0).1[1]? =
      some r ∧ Batch.Follows sampleSolo 10 s 1 r := by
    obtain rfl := Option.some.inj hs
    exact hfollows 1 _ rfl
  have hwaits := congrArg (fun verdicts => verdicts[1]?) verdicts_sampleBatch
  have hsolo := congrArg (fun pairs => pairs[1]?) verdicts_sampleSolo
  simp only [List.getElem?_map, hr, hs, Option.map_some] at hwaits hsolo
  obtain ⟨happroved, hcategory⟩ := Prod.mk.inj (Option.some.inj hsolo)
  have hcontested : Batch.Contested sampleSolo s := by
    refine ⟨beq_iff_eq.mpr happroved, ?_⟩
    rw [hcategory, rivals_sampleSolo]
  refine ⟨hlength, r, s, hr, hs, hfollows.agrees, happroved, Option.some.inj hwaits, ?_⟩
  rw [hfollows.recommendations, if_neg (by decide), if_pos hcontested, hcategory,
    rivals_sampleSolo, List.append_nil]

set_option maxRecDepth 100000 in
/-- **A report that is not approved is not told of rivals**: the last proposal of the sample batch
is within the limit and rejected, and its report has no note on the two approvals of its
category. -/
theorem rejected_is_not_told_of_rivals :
    2 ≤ Batch.rivals sampleSolo .metaLearning ∧
    sampleSolo[2]?.map Report.category = some .metaLearning ∧
    (sampleGate.validateBatch sampleIds sampleBatch {} 0).1[2]?.map Report.recommendations ≠
      sampleSolo[2]?.map fun s =>
        s.recommendations ++ [Batch.contestedAdvice 2 .metaLearning] := by
  rw [rivals_sampleSolo]
  decide +kernel

end Gate

end ShadowGate
