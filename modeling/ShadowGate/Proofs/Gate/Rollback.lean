import ShadowGate.Proofs.Gate.Lifecycle
import ShadowGate.Proofs.Host.PrivateCopy

/-!
# Rollback tests

A rollback test replays the log of a shadow on a scratch tree of its private copy and takes it back.
The notes of a log always restore a tree, so what the test answers is decided by the setup of the
shadow and by whether it rests on a true copy; and since the scratch tree is the only thing that the
test touches, nothing is different afterwards.

* `Backing.SparesProbe` — no snapshot brings a tree with the name of the scratch tree.
* `Shadow.Unprobed` — **the invariant**: no private copy holds a scratch tree.
  `Host.unprobed_operations` is one call.
* `Shadow.Sound.answer_testRollback`, `Host.testRollback_of_unprobed` — what a test answers, and
  what it leaves.
* `Gate.rollback_is_exact_and_leaves_no_trace` — the theorem.
-/

namespace ShadowGate

/-! ## Snapshots without a scratch tree -/

/-- No snapshot carries a tree with the name of the scratch tree. -/
def Backing.SparesProbe {σ : Type} (b : Backing σ) : Prop :=
  ∀ live s, (b.snapshot live).1 = .ok s → s.ancillary.get? probeTree = none

/-- A live store copies its records and two other trees. -/
theorem Store.sparesProbe_backing : Store.backing.SparesProbe := by
  intro live s hs
  obtain rfl : live.snapshot = s := Except.ok.inj hs
  have hagents : probeTree ≠ agentStatesTree := by decide
  have hconfiguration : probeTree ≠ configurationTree := by decide
  simp [snapshot, ancillaryTrees, SortedMap.ofList, SortedMap.get?_insert_ne _ hagents,
    SortedMap.get?_insert_ne _ hconfiguration]

/-! ## Private copies without a scratch tree -/

namespace PrivateCopy

theorem get?_probe_ofSnapshot {s : Snapshot} (hs : s.ancillary.get? probeTree = none)
    (directory : Option Directory) : (ofSnapshot s directory).trees.get? probeTree = none := by
  have hname : probeTree ≠ stateTree := by decide
  rw [ofSnapshot, SortedMap.get?_insert_ne _ hname, hs]

theorem get?_probe_apply (c : PrivateCopy) (e : ChangeEntry) :
    (c.apply e).trees.get? probeTree = c.trees.get? probeTree := by
  have hname : probeTree ≠ stateTree := by decide
  exact SortedMap.get?_insert_ne _ hname _

end PrivateCopy

namespace Shadow

variable {s s' : Shadow} {ρ : Retention} {now : Time} {op : Shadow.Op}

/-- The private copy holds no scratch tree. -/
def Unprobed (s : Shadow) : Prop := ∀ copy, s.storage = some copy → copy.trees.get? probeTree = none

/-- A shadow whose copy is gone holds nothing. -/
theorem Unprobed.of_released (hgone : s.storage = none) : s.Unprobed := by
  intro copy hcopy
  rw [hgone] at hcopy
  cases hcopy

/-- A change in the copy that leaves the scratch tree's name free. -/
theorem Unprobed.map (hs : s.Unprobed) (f : PrivateCopy → PrivateCopy)
    (hf : ∀ copy, (f copy).trees.get? probeTree = copy.trees.get? probeTree) :
    Unprobed { s with storage := s.storage.map f } := by
  intro copy hcopy
  obtain ⟨old, hold, rfl⟩ := Option.map_eq_some_iff.mp hcopy
  rw [hf]
  exact hs old hold

/-- **One operation** leaves no scratch tree behind. -/
theorem Unprobed.becomes (hs : s.Unprobed) (hb : s.Becomes ρ now op s') : s'.Unprobed := by
  cases hb with
  | same => exact hs
  | @logged kind data =>
    have htried := hs.map (fun copy => copy.apply (s.nextEntry kind data))
      (fun copy => copy.get?_probe_apply _)
    intro copy hcopy
    rw [storage_logged, storageAfter] at hcopy
    split at hcopy
    · exact htried copy hcopy
    · exact hs copy hcopy
  | numbered => exact hs
  | opened => exact hs
  | recorded => exact hs
  | @probed old =>
    intro copy hcopy
    obtain rfl := Option.some.inj hcopy
    exact old.get?_dropProbe
  | merged => exact .of_released rfl
  | discarded => exact .of_released rfl
  | released => exact .of_released rfl
  | lost => exact hs.map _ fun _ => rfl

/-! ## One test -/

/-- **What a test answers** for a sound shadow that has not expired. -/
theorem Sound.answer_testRollback (hs : s.Sound) (hfresh : s.isExpired now = false) :
    (s.testRollback now).1 = .ok (s.config.rollbackCapability && s.degraded.isNone) := by
  have hmutable : s.ensureMutable now = .ok () :=
    ensureMutable_eq_ok_iff.mpr ⟨hs.isTerminal_eq_false, hfresh⟩
  obtain ⟨copy, hcopy⟩ := hs.stored
  rw [testRollback]
  cases hrollback : s.config.rollbackCapability <;> cases hdegraded : s.degraded <;>
    simp [hmutable, hs.not_isTampered, hcopy, PrivateCopy.probe_eq]

/-- A test leaves a shadow without a scratch tree as it was. -/
theorem Unprobed.testRollback (hs : s.Unprobed) (now : Time) : (s.testRollback now).2 = s := by
  rcases s.testRollback_cases now with ⟨r, hr⟩ | ⟨copy, hcopy, hr⟩
  · rw [hr]
  · rw [hr, PrivateCopy.dropProbe_of_get?_eq_none (hs copy hcopy), ← hcopy]

end Shadow

/-! ## Hosts -/

namespace Host

variable {σ : Type} {h : Host σ} {id : ShadowId} {now : Time}

/-- No private copy holds a scratch tree. -/
def Unprobed (h : Host σ) : Prop := ∀ id s, h.registry.get? id = some s → s.Unprobed

theorem get?_probe_of_settle (hspares : h.backing.SparesProbe) {snapshot : Snapshot}
    {note : Option String}
    (hsettle : settleSnapshot (h.backing.snapshot h.live).1 = .ok (snapshot, note)) :
    snapshot.ancillary.get? probeTree = none := by
  cases hresult : (h.backing.snapshot h.live).1 with
  | ok s =>
    rw [hresult] at hsettle
    obtain ⟨rfl, -⟩ := Prod.mk.inj (Except.ok.inj hsettle)
    exact hspares h.live s hresult
  | error fault =>
    rcases settleSnapshot_eq_ok hsettle with rfl | ⟨-, rfl⟩
    · rw [hresult] at hsettle
      cases fault <;> cases hsettle
    · rfl

theorem get?_probe_of_copy {isolation : Isolation} {s : Snapshot} {copy : PrivateCopy}
    (hs : s.ancillary.get? probeTree = none) (hcopy : h.copy id isolation s = .ok copy) :
    copy.trees.get? probeTree = none := by
  unfold Host.copy at hcopy
  split at hcopy
  · obtain rfl := Except.ok.inj hcopy
    exact PrivateCopy.get?_probe_ofSnapshot hs _
  · obtain rfl := Except.ok.inj hcopy
    exact PrivateCopy.get?_probe_ofSnapshot hs _
  · cases hcopy

/-- **A new shadow** has no scratch tree. -/
theorem unprobed_forkOf (hspares : h.backing.SparesProbe) {config : ShadowConfig}
    {snapshot : Snapshot} {note : Option String}
    (hsettle : settleSnapshot (h.backing.snapshot h.live).1 = .ok (snapshot, note)) :
    (h.forkOf id config now snapshot note).Unprobed := by
  intro copy hcopy
  rcases h.forkOf_cases id config now snapshot note with ⟨made, hmade, hstorage, -⟩ | ⟨hstorage, -⟩
  · obtain rfl := Option.some.inj (hstorage.symm.trans hcopy)
    exact get?_probe_of_copy (get?_probe_of_settle hspares hsettle) hmade
  · obtain rfl := Option.some.inj (hstorage.symm.trans hcopy)
    rfl

/-- **One call** leaves no scratch tree behind. -/
theorem unprobed_operations (hspares : h.backing.SparesProbe) (c : Timed Call)
    (hh : h.Unprobed) : (operations h c).2.Unprobed := by
  intro id s' hs'
  cases transition_of_get? c hs' with
  | forked config snapshot note hcall hsettle hnew =>
    subst hnew
    exact unprobed_forkOf hspares hsettle
  | acted s op hcall hs hbecomes => exact (hh id s hs).becomes hbecomes
  | swept s hcall hs hsticky hnew =>
    subst hnew
    exact .of_released rfl
  | kept hcall hs => exact hh id s' hs

/-- **A test leaves the whole host as it was.** -/
theorem testRollback_of_unprobed (hh : h.Unprobed) (id : ShadowId) (now : Time) :
    (h.testRollback id now).2 = h := by
  cases hs : h.registry.get? id with
  | none => simp only [testRollback, onShadow, hs]
  | some s => exact onShadow_of_kept hs ((hh id s hs).testRollback now)

end Host

/-! ## Gates -/

namespace Gate

variable {σ ω : Type} {act : ω → σ → σ} {g : Gate σ}

/-- **A run** leaves no scratch tree behind. -/
theorem Reached.unprobed {backing : Backing σ} {retention : Retention}
    (hg : Reached act backing retention g) (hspares : backing.SparesProbe) : g.host.Unprobed := by
  obtain ⟨live, settings, checks, policies, calls, rfl⟩ := hg
  refine (host_invariant_run (I := fun h => h.Unprobed ∧ h.backing = backing) ?_
    (fun _ _ hh => hh) ⟨?_, rfl⟩ calls).1
  · rintro h c ⟨hunprobed, hbacking⟩
    obtain ⟨ids, hframe⟩ := Host.frame_operations h c
    refine ⟨Host.unprobed_operations ?_ c hunprobed, hframe.backing.trans hbacking⟩
    rw [hbacking]
    exact hspares
  · intro id s hs
    cases hs

/-- **Rollback tests are exact and leave no trace.** The notes of a log restore any tree, so a probe
never fails. In every gate that a run can lead to, over a registry that drops what is removed and a
backing store whose snapshots leave the scratch tree's name free: a test of a registered shadow that
has not expired answers whether the shadow may roll back and rests on a true copy, whatever its log;
and a test of any id leaves the host as it was, without a scratch tree in any private copy. -/
theorem rollback_is_exact_and_leaves_no_trace {backing : Backing σ} {retention : Retention}
    (hg : Reached act backing retention g) (hdrops : retention ≠ .sticky)
    (hspares : backing.SparesProbe) :
    (∀ (t : Tree) (log : List ChangeEntry), (t.rollForward log).1 = t.applyAll log ∧
      (t.rollForward log).1.revertAll (t.rollForward log).2 = t) ∧
    (∀ (copy : PrivateCopy) (records : Tree) (log : List ChangeEntry),
      (copy.probe records log).1 = true) ∧
    (∀ id s now, g.host.registry.get? id = some s →
      now - s.createdAt ≤ s.config.maxDuration →
      (g.host.testRollback id now).1 =
        .ok (s.config.rollbackCapability && s.degraded.isNone)) ∧
    ∀ id now, (g.host.testRollback id now).2 = g.host ∧
      ∀ other s copy, (g.host.testRollback id now).2.registry.get? other = some s →
        s.storage = some copy → copy.trees.get? probeTree = none := by
  have hunprobed : g.host.Unprobed := hg.unprobed hspares
  refine ⟨fun t log => ⟨t.rollForward_fst log, t.revertAll_rollForward log⟩, ?_, ?_, ?_⟩
  · intro copy records log
    rw [copy.probe_eq]
  · intro id s now hs hfresh
    have hsound : s.Sound := (hg.sound hdrops).1 id s hs
    rw [Host.testRollback, Host.answer_onShadow hs]
    exact hsound.answer_testRollback (Shadow.isExpired_eq_false_iff.mpr hfresh)
  · intro id now
    have hkept := Host.testRollback_of_unprobed hunprobed id now
    refine ⟨hkept, ?_⟩
    intro other s copy hs
    rw [hkept] at hs
    exact hunprobed other s hs copy

/-- The sample shadow can roll its change back, and trying that changes nothing. -/
theorem rollback_of_sample_is_exact :
    ∃ g, Reached Store.write Store.backing .exact g ∧ Store.backing.SparesProbe ∧
      (∃ s, g.host.registry.get? Host.sampleId = some s ∧ s.log.length = 1) ∧
      (g.host.testRollback Host.sampleId 5).1 = .ok true ∧
      (g.host.testRollback Host.sampleId 5).2 = g.host := by
  have hg : Reached Store.write Store.backing .exact
      ((operations Store.write).run sampleGate (sampleCalls.take 5)) := ⟨_, _, _, _, _, rfl⟩
  obtain ⟨-, -, hexact, htrace⟩ :=
    rollback_is_exact_and_leaves_no_trace hg (by decide) Store.sparesProbe_backing
  refine ⟨_, hg, Store.sparesProbe_backing, ⟨_, rfl, rfl⟩, ?_, (htrace _ _).1⟩
  exact hexact Host.sampleId _ 5 rfl (by decide)

end Gate

end ShadowGate
