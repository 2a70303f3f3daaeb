import ShadowGate.Proofs.Gate.Live
import ShadowGate.Proofs.Host.PrivateCopy

/-!
# Previews

In experiment mode the private copy of a shadow is a preview of its merge. Logging tries the changes
out on a copy that was taken long ago, merging replays them on live state as it has become in the
meantime; at every record that a change targets the two end the same, because the last change of it
decides.

* `Gate.rehearses_run` — along every run, the private copies show what the logged changes do.
* `Gate.merge_agrees_with_preview` — the theorem.
-/

namespace ShadowGate.Gate

variable {id : ShadowId} {s : Shadow} {now : Time}

/-- **A run** keeps every private copy true to its log, and the registry's way to retain. -/
theorem rehearses_run (live : Store) (settings : Settings) (retention : Retention)
    (checks : CheckSet) (policies : PolicyTable) (calls : List (Timed (Call Store.Write))) :
    ((operations Store.write).run (start live settings retention checks policies)
        calls).host.Rehearses ∧
    ((operations Store.write).run (start live settings retention checks policies)
        calls).host.registry.retention = retention := by
  refine (operations Store.write).run_invariant
    (I := fun g => g.host.Rehearses ∧ g.host.registry.retention = retention) ?_ ⟨?_, rfl⟩
  · intro g c _ hg
    refine host_invariant (I := fun h => h.Rehearses ∧ h.registry.retention = retention) g c ?_
      (fun _ _ hh => hh) hg
    rintro h call - ⟨hr, hretention⟩
    obtain ⟨ids, hframe⟩ := Host.frame_operations h call
    exact ⟨Host.rehearses_operations h call hr, hframe.retention.trans hretention⟩
  · intro id s hs
    cases hs

/-- The primary records after a merge that went well. -/
theorem state_of_merge {h : Host Store} {report : Report} {m : MergeResult}
    (hb : h.backing = Store.backing) (hs : h.registry.get? id = some s)
    (hmerge : (h.merge id report now).1 = .ok m) :
    (h.merge id report now).2.live.state = h.live.state.applyAll s.log := by
  rcases Host.merge_cases hb id report now with ⟨e, he⟩ | ⟨s', hs', -, -, hlive⟩
  · rw [he] at hmerge
    cases hmerge
  · obtain rfl : s = s' := Option.some.inj (hs.symm.trans hs')
    rw [hlive]
    exact Store.state_foldl_apply s.log h.live

/-- **A merge does what its preview shows.** In every run of a gate over a live store, when a shadow
in experiment mode is merged, each record that its log targets ends in live state as it stood in the
private copy, present or absent, and every other record stays as it was. So if live state still is
what the snapshot copied, it ends as the private copy. Only a registry that never drops anything can
hold a shadow whose copy is gone. -/
theorem merge_agrees_with_preview (live : Store) (settings : Settings) (retention : Retention)
    (checks : CheckSet) (policies : PolicyTable) (calls : List (Timed (Call Store.Write)))
    {g : Gate Store}
    (hrun : g = (operations Store.write).run (start live settings retention checks policies) calls)
    {report : Report} {m : MergeResult} (hs : g.host.registry.get? id = some s)
    (hmode : s.config.experimentMode = true) (hmerge : (g.host.merge id report now).1 = .ok m)
    {merged : Tree} (hmerged : merged = (g.host.merge id report now).2.live.state) :
    (retention ≠ .sticky → ∃ copy, s.storage = some copy) ∧
    (∀ copy, s.storage = some copy →
      (∀ k, Targets s.log k → merged.get? k = copy.state.get? k) ∧
      (s.degraded = none → g.host.live.state = s.snapshot.records → merged = copy.state)) ∧
    ∀ k, ¬ Targets s.log k → merged.get? k = g.host.live.state.get? k := by
  have hb : g.host.backing = Store.backing := by
    rw [hrun]
    exact backing_run rfl calls
  obtain ⟨hrehearses, hretention⟩ := rehearses_run live settings retention checks policies calls
  rw [← hrun] at hrehearses hretention
  have hpreview := hrehearses id s hs
  rw [hretention] at hpreview
  rw [state_of_merge hb hs hmerge] at hmerged
  subst hmerged
  refine ⟨hpreview.stored, fun copy hcopy => ?_, fun k hk => ?_⟩
  · have hstate : copy.state = s.base.applyAll s.log := by
      rw [hpreview.state copy hcopy, Shadow.tried, if_pos hmode]
    rw [hstate]
    -- one log, two trees under it: live state as it has become, and the base of the shadow
    refine ⟨fun k hk => Tree.get?_applyAll_congr (.inl hk), fun hsound hlive => ?_⟩
    rw [hlive, Shadow.base, hsound]
    rfl
  · exact Tree.get?_applyAll_of_not_targets hk _

/-- The sample run without its last call ends with a shadow that can be merged, while live state has
gone another way: the merge brings it to what the private copy shows. -/
theorem merge_of_sample_agrees_with_preview :
    ∃ g s m copy, g = (operations Store.write).run sampleGate (sampleCalls.take 5) ∧
      g.host.registry.get? Host.sampleId = some s ∧ s.config.experimentMode = true ∧
      (g.host.merge Host.sampleId Host.sampleReport 5).1 = .ok m ∧ s.storage = some copy ∧
      Targets s.log (Text.toBytes "rate") ∧
      g.host.live.state.bytesAt "rate" ≠ copy.state.bytesAt "rate" ∧
      (g.host.merge Host.sampleId Host.sampleReport 5).2.live.state.bytesAt "rate" =
        copy.state.bytesAt "rate" := by
  obtain ⟨g, hg⟩ : ∃ g, g = (operations Store.write).run sampleGate (sampleCalls.take 5) := ⟨_, rfl⟩
  obtain ⟨s, copy, hs, hmode, hcopy, htargets, hne⟩ :
      ∃ s copy, g.host.registry.get? Host.sampleId = some s ∧ s.config.experimentMode = true ∧
        s.storage = some copy ∧ Targets s.log (Text.toBytes "rate") ∧
        g.host.live.state.bytesAt "rate" ≠ copy.state.bytesAt "rate" := by
    subst hg
    refine ⟨_, _, rfl, rfl, rfl, ⟨_, List.mem_singleton_self _, rfl⟩, ?_⟩
    decide
  obtain ⟨m, hm⟩ : ∃ m, (g.host.merge Host.sampleId Host.sampleReport 5).1 = .ok m := by
    subst hg
    exact ⟨_, rfl⟩
  obtain ⟨-, hpreview, -⟩ :=
    merge_agrees_with_preview {} {} .exact .builtin {} _ hg hs hmode hm rfl
  exact ⟨g, s, m, copy, hg, hs, hmode, hm, hcopy, htargets, hne, (hpreview copy hcopy).1 _ htargets⟩

end ShadowGate.Gate
