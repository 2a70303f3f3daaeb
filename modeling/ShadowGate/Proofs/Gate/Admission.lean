import ShadowGate.Proofs.Gate.Lifecycle
import ShadowGate.Proofs.Replay

/-!
# When a merge succeeds

A merge asks for a report that approves, and for a shadow that is ready for it. Two of its guards
never speak of a shadow that a run can register: such a shadow is not over, and its snapshot has not
been tampered with. What remains is a condition on the clock, the report and three fields of the
shadow.

* `Shadow.Mergeable` — the condition. `Shadow.Sound.admitMerge_eq_ok_iff` ties it to the guard.
* `Host.merge_ok_iff` — a merge that is admitted succeeds, whatever becomes of its changes.
* `Gate.merge_succeeds_iff_mergeable` — the theorem.
-/

namespace ShadowGate

/-! ## The condition -/

/-- **The shadow may be merged** on the strength of a report. -/
structure Shadow.Mergeable (s : Shadow) (now : Time) (r : Report) : Prop where
  /-- it has not outlived its time -/
  fresh : now - s.createdAt ≤ s.config.maxDuration
  /-- no validation is open -/
  idle : s.phase ≠ .validating
  /-- the report approves -/
  approved : r.verdict = .approved
  /-- an undo path that the report asks for was demonstrated -/
  undoable : r.rollbackRequired = true → r.rollbackReady = true
  /-- a shadow that must be validated has passed, and with the report's proposal -/
  validated : s.config.validationRequired = true →
    s.phase = .passed ∧ s.status = .passed ∧ s.validatedChange = some r.changeId

namespace Report

theorem rollbackSatisfied_eq_true_iff {r : Report} :
    r.rollbackSatisfied = true ↔ (r.rollbackRequired = true → r.rollbackReady = true) := by
  rw [rollbackSatisfied]
  cases r.rollbackRequired <;> simp

end Report

/-- **The guard of a merge lets a sound shadow pass exactly if it may be merged.** -/
theorem Shadow.Sound.admitMerge_eq_ok_iff {s : Shadow} (hs : s.Sound) {now : Time} {r : Report} :
    s.admitMerge now r = .ok () ↔ s.Mergeable now r := by
  rw [Shadow.admitMerge_eq_ok_iff, ensureOpen_eq_ok_iff, admitReport_eq_ok_iff,
    admitVerdict_eq_ok_iff, isExpired_eq_false_iff, Report.isApproved_eq_true_iff,
    Report.rollbackSatisfied_eq_true_iff]
  constructor
  · rintro ⟨⟨-, hfresh, hidle⟩, ⟨happroved, hundoable⟩, hvalidated, -⟩
    exact ⟨hfresh, hidle, happroved, hundoable, hvalidated⟩
  · -- soundness stands for the two guards that the condition does not mention
    rintro ⟨hfresh, hidle, happroved, hundoable, hvalidated⟩
    exact ⟨⟨hs.isTerminal_eq_false, hfresh, hidle⟩, ⟨happroved, hundoable⟩, hvalidated,
      hs.not_isTampered⟩

/-! ## Hosts -/

/-- **A merge succeeds exactly if it is admitted**, if applying a change always comes to an end. -/
theorem Host.merge_ok_iff {σ : Type} {h : Host σ} (hreturns : h.backing.Returns) {id : ShadowId}
    {report : Report} {now : Time} :
    (∃ m, (h.merge id report now).1 = .ok m) ↔
      ∃ s, h.registry.get? id = some s ∧ s.admitMerge now report = .ok () := by
  cases hs : h.registry.get? id with
  | none => simp [merge, hs]
  | some s =>
    cases hadmitted : s.admitMerge now report with
    | error e => simp [merge_of_refused hs hadmitted, hadmitted]
    | ok u =>
      obtain ⟨trail, htrail⟩ := hreturns.exists_replay s.log h.live
      simp [merge_of_admitted hs hadmitted, htrail, hadmitted]

/-! ## Gates -/

namespace Gate

variable {σ ω : Type} {act : ω → σ → σ} {g : Gate σ}

/-- **A merge succeeds exactly if the shadow may be merged.** In every gate that a run can lead to,
over a registry that drops what is removed and a backing store that comes to an end with every
change: a merge of any id, at any time and with any report, answers with a record if and only if a
shadow is registered under the id that may be merged on the strength of the report; and whatever the
record says of the single changes, nothing is registered under the id afterwards. -/
theorem merge_succeeds_iff_mergeable {backing : Backing σ} {retention : Retention}
    (hg : Reached act backing retention g) (hdrops : retention ≠ .sticky)
    (hreturns : backing.Returns) (id : ShadowId) (report : Report) (now : Time) :
    ((∃ m, (g.host.merge id report now).1 = .ok m) ↔
      ∃ s, g.host.registry.get? id = some s ∧ s.Mergeable now report) ∧
    ∀ m, (g.host.merge id report now).1 = .ok m →
      (g.host.merge id report now).2.registry.get? id = none := by
  obtain ⟨hsound, hretention, rfl⟩ := hg.sound hdrops
  constructor
  · rw [Host.merge_ok_iff hreturns]
    constructor
    · rintro ⟨s, hs, hadmitted⟩
      exact ⟨s, hs, (hsound id s hs).admitMerge_eq_ok_iff.mp hadmitted⟩
    · rintro ⟨s, hs, hmergeable⟩
      exact ⟨s, hs, (hsound id s hs).admitMerge_eq_ok_iff.mpr hmergeable⟩
  · intro m hm
    exact (Host.removed_of_merge hretention hm).2

/-- A store that refuses every change. -/
def refusingBacking : Backing Store := Outage.backing { applyFails := some "down" }

/-- The sample shadow is merged although its only change is refused, and is gone then; with a report
on another proposal it is not merged. -/
theorem refused_changes_do_not_stop_merge :
    ∃ g, Reached Store.write refusingBacking .exact g ∧ refusingBacking.Returns ∧
      (∃ m, (g.host.merge Host.sampleId Host.sampleReport 5).1 = .ok m ∧ m.failed = 1) ∧
      (g.host.merge Host.sampleId Host.sampleReport 5).2.registry.get? Host.sampleId = none ∧
      ¬∃ m,
        (g.host.merge Host.sampleId { Host.sampleReport with changeId := "q" } 5).1 = .ok m := by
  have hreturns : refusingBacking.Returns := Outage.returns_backing rfl
  have hg : Reached Store.write refusingBacking .exact ((operations Store.write).run
      (startOn refusingBacking {} {} .exact .builtin {}) (sampleCalls.take 5)) :=
    ⟨_, _, _, _, _, rfl⟩
  have hall := merge_succeeds_iff_mergeable hg (by decide) hreturns Host.sampleId
  obtain ⟨m, hm⟩ := (hall Host.sampleReport 5).1.mpr
    ⟨_, rfl, by decide, nofun, rfl, fun _ => rfl, fun _ => ⟨rfl, rfl, rfl⟩⟩
  refine ⟨_, hg, hreturns, ⟨m, hm, ?_⟩, (hall Host.sampleReport 5).2 m hm, ?_⟩
  · obtain rfl := Except.ok.inj hm
    rfl
  · intro hother
    obtain ⟨s, hs, hmergeable⟩ := (hall _ 5).1.mp hother
    obtain rfl := Option.some.inj hs
    have hchange : some "p" = some "q" := (hmergeable.validated rfl).2.2
    exact absurd hchange (by decide)

end Gate

end ShadowGate
