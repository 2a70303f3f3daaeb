import ShadowGate.Proofs.Host.Transition
import ShadowGate.Proofs.Replay

/-!
# Hosts over a live store

A live store can always be copied and takes every change, so a host over one touches it in one way
only: a merge that is admitted replays the shadow's log on it.

* `Host.merge_into_live`, `Host.merge_cases` — a merge is refused and changes nothing, or replays the
  log and goes well.
* `Backing.Keeps` — copying live state does not change it, as with a live store.
* `Host.live_operations_of_keeps`, `Host.live_operations` — **every call but a merge leaves live state
  alone**.
* `Host.Spent` — nothing under an id can be merged any more. A merge spends its shadow, and only a
  new shadow under the same id would undo that (`Host.spent_operations`).
-/

namespace ShadowGate

/-! ## Copies -/

/-- Copying live state leaves it as it was. -/
def Backing.Keeps {σ : Type} (b : Backing σ) : Prop := ∀ live, (b.snapshot live).2 = live

theorem Store.keeps_backing : Store.backing.Keeps := fun _ => rfl

namespace Host

/-! ## Live state -/

/-- A creation leaves live state as its copy does. -/
theorem live_create_eq {σ : Type} (h : Host σ) (id : ShadowId) (config : ShadowConfig) (now : Time) :
    (h.create id config now).2.live = (h.backing.snapshot h.live).2 := by
  simp only [create]
  split <;> rfl

/-- **Every call but a merge leaves live state alone**, if copying it does. -/
theorem live_operations_of_keeps {σ : Type} {h : Host σ} (hkeeps : h.backing.Keeps) (c : Timed Call)
    (hc : ∀ id report, c.call ≠ .on id (.merge report)) : (operations h c).2.live = h.live := by
  obtain ⟨call, now⟩ := c
  cases call with
  | create id config => exact (h.live_create_eq id config now).trans (hkeeps h.live)
  | on id op =>
    refine live_act h id now fun report hop => hc id report ?_
    rw [hop]
  | sweep => exact live_sweep h now
  | setRoot fault => rfl

section Live

variable {h : Host Store} {id : ShadowId} {now : Time}

/-- What the merge of a shadow into a live store answers: every change applied. -/
def mergeResult (id : ShadowId) (s : Shadow) (report : Report) : MergeResult where
  shadowId := id
  changeId := report.changeId
  auditTrail := Store.trailFrom 0 s.log
  cleanup := releaseReport id s.releaseStorage

/-- **A merge that is admitted goes well**, with the same answer whatever the live store holds, and
the whole log ends up in it. -/
theorem merge_into_live {s : Shadow} {report : Report} (hb : h.backing = Store.backing)
    (hs : h.registry.get? id = some s) (hadmitted : s.admitMerge now report = .ok ()) :
    (h.merge id report now).1 = .ok (mergeResult id s report) ∧
    (h.merge id report now).2.live = s.log.foldl Store.apply h.live := by
  have hreplay : h.backing.replay s.log h.live =
      (.ok (Store.trailFrom 0 s.log), s.log.foldl Store.apply h.live) := by
    rw [hb]
    exact Store.replay_eq s.log h.live
  rw [merge_of_admitted hs hadmitted, hreplay]
  refine ⟨?_, live_cleanup _ id⟩
  simp only [answer_end hs]
  rfl

/-- **The ends of a merge**: refused, with nothing changed, or the whole log on live state. -/
theorem merge_cases (hb : h.backing = Store.backing) (id : ShadowId) (report : Report)
    (now : Time) :
    (∃ e, h.merge id report now = (.error e, h)) ∨
    ∃ s, h.registry.get? id = some s ∧ s.admitMerge now report = .ok () ∧
      (h.merge id report now).1 = .ok (mergeResult id s report) ∧
      (h.merge id report now).2.live = s.log.foldl Store.apply h.live := by
  cases hs : h.registry.get? id with
  | none => exact .inl ⟨.notFound id, by simp only [merge, hs]⟩
  | some s =>
    cases hadmitted : s.admitMerge now report with
    | error e => exact .inl ⟨e, merge_of_refused hs hadmitted⟩
    | ok u => exact .inr ⟨s, rfl, hadmitted, merge_into_live hb hs hadmitted⟩

/-- Copying a live store does not change it. -/
theorem live_create (hb : h.backing = Store.backing) (id : ShadowId) (config : ShadowConfig)
    (now : Time) : (h.create id config now).2.live = h.live := by
  rw [live_create_eq, hb]
  rfl

/-- **Every call but a merge leaves a live store alone.** -/
theorem live_operations (hb : h.backing = Store.backing) (c : Timed Call)
    (hc : ∀ id report, c.call ≠ .on id (.merge report)) : (operations h c).2.live = h.live :=
  live_operations_of_keeps (hb ▸ Store.keeps_backing) c hc

end Live

/-! ## Spent ids -/

section Spent

variable {σ : Type} {h : Host σ} {id : ShadowId} {s s' : Shadow} {now : Time}

/-- Whatever is registered under the id is over. -/
def Spent (id : ShadowId) (h : Host σ) : Prop :=
  ∀ s, h.registry.get? id = some s → s.phase.isTerminal = true

/-- A shadow that is over stays so. -/
theorem isTerminal_of_becomes {op : Shadow.Op} {ρ : Retention} (hb : s.Becomes ρ now op s')
    (hs : s.phase.isTerminal = true) : s'.phase.isTerminal = true := by
  -- what is over is not open: nothing can be logged, and no validation opened
  have hclosed : s.ensureOpen now ≠ .ok () := by
    intro hopen
    rw [(Shadow.ensureOpen_eq_ok_iff.mp hopen).1] at hs
    cases hs
  cases hb with
  | same => exact hs
  | logged hopen => exact absurd hopen hclosed
  | numbered => exact hs
  | opened hopen => exact absurd hopen hclosed
  | recorded hphase =>
    rw [hphase] at hs
    cases hs
  | probed => exact hs
  | merged => rfl
  | discarded => rfl
  | released => exact hs
  | lost => exact hs

/-- **Nothing but a new shadow under the id** brings it back. -/
theorem spent_operations (c : Timed Call) (hc : ∀ config, c.call ≠ .create id config)
    (hspent : Spent id h) : Spent id (operations h c).2 := by
  intro s' hs'
  cases transition_of_get? c hs' with
  | forked config snapshot note hcall => exact absurd hcall (hc config)
  | acted s op hcall hs hbecomes => exact isTerminal_of_becomes hbecomes (hspent s hs)
  | swept s hcall hs hsticky hnew =>
    subst hnew
    rfl
  | kept hcall hs => exact hspent s' hs

/-- **A merge spends its shadow.** -/
theorem spent_of_admitMerge {report : Report} (hs : h.registry.get? id = some s)
    (hadmitted : s.admitMerge now report = .ok ()) : Spent id (h.merge id report now).2 := by
  intro s' hs'
  rw [get?_merge_self hs, Shadow.after, hadmitted] at hs'
  obtain ⟨-, rfl⟩ := Shadow.eq_of_remainder hs'
  rfl

/-- A spent shadow is not admitted to a merge. -/
theorem Spent.not_admitMerge {report : Report} (hspent : Spent id h)
    (hs : h.registry.get? id = some s) : s.admitMerge now report ≠ .ok () := by
  intro hadmitted
  obtain ⟨hopen, -⟩ := Shadow.admitMerge_eq_ok_iff.mp hadmitted
  have hactive := (Shadow.ensureOpen_eq_ok_iff.mp hopen).1
  rw [hspent s hs] at hactive
  cases hactive

end Spent

end Host

end ShadowGate
