import ShadowGate.Proofs.Host.Lifecycle
import ShadowGate.Proofs.Replay

/-!
# Best-effort merges

A merge that is admitted tries every change of the log, whatever became of those before it. The store
behind it may refuse any change, and may be left in any state by a refusal; what is on record
afterwards is what it answered, change by change.

* `MergeResult.applied_add_failed`, `MergeResult.failed_eq_countP`,
  `MergeResult.partialFailure_eq` — the figures of a trail.
* `Host.BestEffort` — the record of a merge, the live state and the registry fit the log.
* `Host.admitted_merge_is_best_effort` — the theorem.
-/

namespace ShadowGate

/-! ## Figures -/

namespace MergeResult

theorem failed_le (m : MergeResult) : m.failed ≤ m.auditTrail.length := List.length_filter_le _ _

theorem applied_add_failed (m : MergeResult) : m.applied + m.failed = m.auditTrail.length :=
  Nat.sub_add_cancel m.failed_le

/-- The refused changes are those on record as failed. -/
theorem failed_eq_countP (m : MergeResult) :
    m.failed = m.auditTrail.countP fun a => a.outcome ≠ .applied := by
  rw [failed, ← List.countP_eq_length_filter]
  refine List.countP_congr fun a _ => ?_
  simp [AuditEntry.succeeded]

/-- **A merge reports a partial failure exactly if a change was refused.** -/
theorem partialFailure_eq (m : MergeResult) :
    m.partialFailure =
      if m.failed = 0 then none else some (.partialMerge m.failed m.auditTrail.length) := by
  rw [partialFailure]
  by_cases hnone : m.failed = 0
  · simp [hnone]
  · simp [hnone, Nat.pos_of_ne_zero hnone]

end MergeResult

/-! ## Merges -/

namespace Host

variable {σ : Type} {h : Host σ} {id : ShadowId} {s : Shadow} {now : Time} {report : Report}

/-- **The record of a merge, and the host after it, fit the log.** -/
structure BestEffort (h : Host σ) (id : ShadowId) (s : Shadow) (report : Report) (m : MergeResult)
    (after : Host σ) : Prop where
  /-- the record is of the shadow -/
  shadowId : m.shadowId = id
  /-- and of the proposal that let it through -/
  changeId : m.changeId = report.changeId
  /-- one line for every change -/
  length : m.auditTrail.length = s.log.length
  /-- every line tells what became of its change, tried on what the changes before it left -/
  tells : ∀ i e, s.log[i]? = some e → ∃ a, m.auditTrail[i]? = some a ∧
    Backing.Tells a i e (h.backing.apply (h.backing.tryAll h.live (s.log.take i)) e).1
  /-- live state is what trying every change leaves -/
  live : after.live = h.backing.tryAll h.live s.log
  /-- every change counts once -/
  total : m.applied + m.failed = s.log.length
  /-- as refused if it is on record as such -/
  failed : m.failed = m.auditTrail.countP fun a => a.outcome ≠ .applied
  /-- a merge without refusals is complete -/
  complete : m.failed = 0 → m.isComplete = true ∧ m.partialFailure = none
  /-- any other one says how many of how many were refused -/
  incomplete : m.failed ≠ 0 →
    m.isComplete = false ∧ m.partialFailure = some (.partialMerge m.failed s.log.length)
  /-- the shadow is off the registry, unless that never drops anything -/
  deregistered : h.registry.retention ≠ .sticky → after.registry.get? id = none
  /-- what became of its storage is what a cleanup answers -/
  cleanup : m.cleanup = (h.cleanup id).1
  /-- and it was there to be cleaned up -/
  cleaned : m.cleanup.shadowId = some id ∧ m.cleanup.alreadyCleaned = false

/-- The report on storage that was given up names the shadow, and that there was something to do. -/
theorem releaseReport_spec (id : ShadowId) (released : Except String Unit) :
    (releaseReport id released).shadowId = some id ∧
      (releaseReport id released).alreadyCleaned = false := by
  cases released <;> exact ⟨rfl, rfl⟩

/-- What a merge answers and leaves when its replay runs to its end. -/
theorem merge_of_replay {trail : List AuditEntry} (hs : h.registry.get? id = some s)
    (hadmitted : s.admitMerge now report = .ok ())
    (htrail : (h.backing.replay s.log h.live).1 = .ok trail) :
    (∃ m, (h.merge id report now).1 = .ok m ∧ m.shadowId = id ∧ m.changeId = report.changeId ∧
      m.auditTrail = trail ∧ m.cleanup = (h.cleanup id).1) ∧
    (h.merge id report now).2.live = h.backing.tryAll h.live s.log := by
  refine ⟨?_, (live_merge_of_admitted hs hadmitted).trans (h.backing.state_of_replay htrail)⟩
  -- the mark of the merge is not on the storage, so the cleanup answers as it would have before
  rw [merge_of_admitted hs hadmitted]
  simp only [htrail, answer_end hs, answer_cleanup hs]
  exact ⟨_, rfl, rfl, rfl, rfl, rfl⟩

/-- **A merge that is admitted is best-effort, and exact about it.** Over any backing store that
comes to an end with every change, applied or refused, and whatever state a refusal leaves: the merge
of a shadow that the guard lets through succeeds; its trail has one line for every change of the log,
in order, and each says what the store answered to that change after all those before it; live state
is what trying all of them leaves; the figures add up; and the shadow is cleaned up. -/
theorem admitted_merge_is_best_effort (hreturns : h.backing.Returns)
    (hs : h.registry.get? id = some s) (hadmitted : s.admitMerge now report = .ok ()) :
    ∃ m, (h.merge id report now).1 = .ok m ∧
      BestEffort h id s report m (h.merge id report now).2 := by
  obtain ⟨trail, htrail⟩ := hreturns.exists_replay s.log h.live
  obtain ⟨⟨m, hanswer, hid, hchange, rfl, hcleanup⟩, hlive⟩ := merge_of_replay hs hadmitted htrail
  have hlength : m.auditTrail.length = s.log.length := by
    simpa using congrArg List.length (h.backing.outline_of_replay htrail)
  refine ⟨m, hanswer, hid, hchange, hlength, fun i e he => h.backing.tells_of_replay htrail he,
    hlive, ?_, m.failed_eq_countP, ?_, ?_, ?_, hcleanup, ?_⟩
  · rw [m.applied_add_failed, hlength]
  · intro hnone
    exact ⟨by simp [MergeResult.isComplete, hnone], by simp [m.partialFailure_eq, hnone]⟩
  · intro hsome
    exact ⟨by simp [MergeResult.isComplete, hsome],
      by simp [m.partialFailure_eq, hsome, hlength]⟩
  · intro hdrops
    exact (removed_of_merge hdrops hanswer).2
  · rw [hcleanup, answer_cleanup hs]
    exact releaseReport_spec id s.releaseStorage

/-- A store that counts the changes it is asked for, and refuses every second one. -/
def flickering : Backing Nat where
  snapshot n := (.ok .empty, n)
  apply n _ := (if n % 2 = 1 then .error (.refused (.unavailable "busy")) else .ok (), n + 1)

/-- A host over it with a shadow that need not be validated, and three changes in its log. -/
def flickeringHost : Host Nat :=
  operations.run (start flickering 0 {} .exact)
    [⟨.create sampleId { ShadowConfig.memoryOnly with validationRequired := false }, 0⟩,
     ⟨.on sampleId (.log "note" (.bool true)), 1⟩,
     ⟨.on sampleId (.log "note" (.bool false)), 2⟩,
     ⟨.on sampleId (.log "note" .null), 3⟩]

/-- The second of three changes is refused, and the third is applied to what the refusal left. -/
theorem merge_goes_on_after_refusal :
    flickeringHost.backing.Returns ∧
    ∃ s m, flickeringHost.registry.get? sampleId = some s ∧
      s.admitMerge 4 sampleReport = .ok () ∧
      (flickeringHost.merge sampleId sampleReport 4).1 = .ok m ∧
      BestEffort flickeringHost sampleId s sampleReport m
        (flickeringHost.merge sampleId sampleReport 4).2 ∧
      m.auditTrail.map (fun a => (a.changeId, a.outcome)) =
        [(1, .applied), (2, .failed "source unavailable: busy"), (3, .applied)] ∧
      m.partialFailure = some (.partialMerge 1 3) ∧
      (flickeringHost.merge sampleId sampleReport 4).2.live = 3 := by
  have hreturns : flickeringHost.backing.Returns := by
    intro n e message
    change (if n % 2 = 1 then _ else _) ≠ _
    split <;> exact nofun
  obtain ⟨s, hs, hadmitted⟩ : ∃ s, flickeringHost.registry.get? sampleId = some s ∧
      s.admitMerge 4 sampleReport = .ok () := ⟨_, rfl, rfl⟩
  obtain ⟨m, hm, hexact⟩ := admitted_merge_is_best_effort hreturns hs hadmitted
  refine ⟨hreturns, s, m, hs, hadmitted, hm, hexact, ?_⟩
  obtain rfl := Except.ok.inj hm
  exact ⟨rfl, rfl, rfl⟩

end Host

end ShadowGate
