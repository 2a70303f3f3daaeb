import ShadowGate.Proofs.Gate.Call
import ShadowGate.Proofs.Gate.Rollback
import ShadowGate.Proofs.Host.Live

/-!
# What a probe shows

A proposal's undo path is exercised in a shadow of its own. Every step on that shadow goes well, so
what the probe shows is decided when the shadow is made: by how the copy of live state comes out,
and by whether the registry keeps the shadow at all. The proposal has no say in it, and neither have
the clock and the other shadows.

* `Host.probeOf` — what a probe shows, by the copy; `Host.answer_probe` says so.
* `Backing.Steady` — copies of live state come out the same way again and again, and then probes do
  too.
* `Host.Blank` — a registry that keeps nothing has nothing.
-/

namespace ShadowGate

/-! ## Logging into a shadow that is open -/

namespace Shadow

variable {s : Shadow} {now : Time}

theorem createdAt_logged (s : Shadow) (kind : String) (data : Json) :
    (s.logged kind data).createdAt = s.createdAt := by
  rw [logged, push_eq]

/-- A shadow that is open stays so when a change is logged. -/
theorem ensureOpen_logged (hopen : s.ensureOpen now = .ok ()) (kind : String) (data : Json) :
    (s.logged kind data).ensureOpen now = .ok () := by
  obtain ⟨-, hfresh, -⟩ := ensureOpen_eq_ok_iff.mp hopen
  rw [isExpired_eq_false_iff] at hfresh
  rw [ensureOpen_eq_ok_iff, phase_logged hopen, isExpired_eq_false_iff, createdAt_logged,
    config_logged]
  exact ⟨rfl, hfresh, nofun⟩

/-- **Logging goes well** in a shadow that is open and has its private copy. -/
theorem logChange_of_open {copy : PrivateCopy} (hopen : s.ensureOpen now = .ok ())
    (hstorage : s.storage = some copy) (kind : String) (data : Json) :
    s.logChange now kind data = (.ok (s.nextEntry kind data), s.logged kind data) := by
  rcases s.logChange_cases now kind data with ⟨e, he⟩ | ⟨-, hgone, -⟩ | ⟨-, h⟩
  · -- nothing but a closed shadow or a missing copy makes it fail
    cases hmode : s.config.experimentMode <;>
      simp [logChange, hopen, tryOut, hmode, hstorage] at he
  · rw [hstorage] at hgone
    cases hgone
  · exact h

end Shadow

namespace Host

variable {σ : Type} {h : Host σ} {id : ShadowId} {s : Shadow} {now : Time}

/-- **Logging changes one by one goes well**, and leaves a sound shadow that is as it was in all
that a test looks at. -/
theorem logAll_of_open (kind : String) (payloads : List Json) {h : Host σ} {s : Shadow}
    (hs : h.registry.get? id = some s) (hsound : s.Sound) (hopen : s.ensureOpen now = .ok ()) :
    ∃ entries s', (h.logAll id now kind payloads).1 = .ok entries ∧
      (h.logAll id now kind payloads).2.registry.get? id = some s' ∧ s'.Sound ∧
      s'.ensureOpen now = .ok () ∧ s'.config = s.config ∧ s'.degraded = s.degraded := by
  induction payloads generalizing h s with
  | nil => exact ⟨[], s, rfl, hs, hsound, hopen, rfl, rfl⟩
  | cons data rest ih =>
    obtain ⟨copy, hcopy⟩ := hsound.stored
    have hlog := Shadow.logChange_of_open hopen hcopy kind data
    have hanswer := answer_onShadow hs fun s => s.logChange now kind data
    have hafter := get?_onShadow_self hs fun s => s.logChange now kind data
    rw [hlog] at hanswer hafter
    obtain ⟨entries, s', hentries, hs', hsound', hopen', hconfig, hdegraded⟩ :=
      ih hafter (hsound.logged hopen kind data) (Shadow.ensureOpen_logged hopen kind data)
    have heq : h.log id now kind data = (.ok (s.nextEntry kind data), (h.log id now kind data).2) :=
      Prod.ext hanswer rfl
    rw [logAll, heq]
    refine ⟨s.nextEntry kind data :: entries, s', ?_, hs', hsound', hopen', ?_, ?_⟩
    · simp only [log, hentries]
      rfl
    · rw [hconfig, Shadow.config_logged]
    · rw [hdegraded, Shadow.degraded_logged]

/-- **What exercising an undo path answers**, in a sound shadow that is open. -/
theorem answer_exercise (p : Proposal) (hs : h.registry.get? id = some s) (hsound : s.Sound)
    (hopen : s.ensureOpen now = .ok ()) :
    (h.exercise id p now).1 = .ok (s.config.rollbackCapability && s.degraded.isNone) := by
  obtain ⟨entries, s', hentries, hs', hsound', hopen', hconfig, hdegraded⟩ :=
    logAll_of_open p.category.tag p.payloads hs hsound hopen
  have heq : h.logProposal id now p = (.ok entries, (h.logProposal id now p).2) :=
    Prod.ext hentries rfl
  obtain ⟨-, hfresh, -⟩ := Shadow.ensureOpen_eq_ok_iff.mp hopen'
  rw [exercise, heq, ← hconfig, ← hdegraded, ← hsound'.answer_testRollback hfresh]
  exact answer_onShadow hs' fun s => s.testRollback now

/-! ## Probes -/

/-- **What a probe shows**, by how the copy of live state comes out and what the registry does with
the shadow. -/
def probeOf (ρ : Retention) (id : ShadowId) : Except Fault Snapshot → Probe
  | .error (.crashed message) =>
    { ready := false
      note := some ("rollback probe could not start: " ++ (ShadowError.crashed message).message) }
  | .error (.refused _) =>
    if ρ = .forgetful then probeOutcome (.error (.notFound id)) else { ready := false }
  | .ok _ => if ρ = .forgetful then probeOutcome (.error (.notFound id)) else { ready := true }

/-- A registry that keeps nothing has nothing. -/
def Blank (h : Host σ) : Prop :=
  h.registry.retention = .forgetful → ∀ id, h.registry.get? id = none

theorem exercise_of_none (hn : h.registry.get? id = none) (p : Proposal) (now : Time) :
    (h.exercise id p now).1 = .error (.notFound id) := by
  have hstep : ∀ {α : Type} (step : Shadow → Except ShadowError α × Shadow),
      h.onShadow id step = (.error (.notFound id), h) := by
    intro α step
    simp only [onShadow, hn]
  cases hpayloads : p.payloads with
  | nil => simp only [exercise, logProposal, hpayloads, logAll, testRollback, hstep]
  | cons data rest => simp only [exercise, logProposal, hpayloads, logAll, log, hstep]

/-- The shadow of a probe is open from the start. -/
theorem ensureOpen_forkOf_probeConfig (h : Host σ) (id : ShadowId) (now : Time) (s : Snapshot)
    (note : Option String) : (h.forkOf id probeConfig now s note).ensureOpen now = .ok () := by
  have hlifetime : (0 : Int) ≤ probeConfig.maxDuration := by decide
  rw [Shadow.ensureOpen_eq_ok_iff, Shadow.isExpired_eq_false_iff]
  refine ⟨rfl, ?_, nofun⟩
  have hage : now - (h.forkOf id probeConfig now s note).createdAt = 0 := Int.sub_self now
  rw [hage]
  exact hlifetime

/-- What a probe shows if its shadow is made: one that rests on a true copy has an undo path. -/
theorem answer_probe_of_settled (hblank : h.Blank) {snapshot : Snapshot} {note : Option String}
    (hsettle : settleSnapshot (h.backing.snapshot h.live).1 = .ok (snapshot, note))
    (p : Proposal) :
    (h.probe id p now).1 =
      if h.registry.retention = .forgetful then probeOutcome (.error (.notFound id))
      else { ready := note.isNone } := by
  have hcreate : (h.create id probeConfig now).1 = .ok () := by simp only [create, hsettle]
  have hprobe : (h.probe id p now).1 =
      probeOutcome ((h.create id probeConfig now).2.exercise id p now).1 := by
    rw [probe, show h.create id probeConfig now = (.ok (), (h.create id probeConfig now).2) from
      Prod.ext hcreate rfl]
  have hregistered : (h.create id probeConfig now).2.registry.get? id =
      if h.registry.retention = .forgetful then h.registry.get? id
      else some (h.forkOf id probeConfig now snapshot note) := by
    simp only [create, hsettle]
    exact Registry.get?_insert_self _ _ _
  rw [hprobe]
  by_cases hforgets : h.registry.retention = .forgetful
  · rw [if_pos hforgets, hblank hforgets] at hregistered
    rw [if_pos hforgets, exercise_of_none hregistered]
  · rw [if_neg hforgets] at hregistered
    rw [if_neg hforgets, answer_exercise p hregistered (h.sound_forkOf ..)
      (h.ensureOpen_forkOf_probeConfig ..)]
    rfl

/-- **A probe shows what the copy decides.** -/
theorem answer_probe (hblank : h.Blank) (id : ShadowId) (p : Proposal) (now : Time) :
    (h.probe id p now).1 = probeOf h.registry.retention id (h.backing.snapshot h.live).1 := by
  rcases hcopy : (h.backing.snapshot h.live).1 with (e | message) | snapshot
  · exact answer_probe_of_settled hblank (by rw [hcopy]; rfl) p
  · have hcreate : (h.create id probeConfig now).1 = .error (.crashed message) := by
      simp only [create, hcopy]
      rfl
    rw [probe, show h.create id probeConfig now =
      (.error (.crashed message), (h.create id probeConfig now).2) from Prod.ext hcreate rfl]
    rfl
  · exact answer_probe_of_settled hblank (by rw [hcopy]; rfl) p

/-- **One call** leaves nothing in a registry that keeps nothing. -/
theorem blank_operations (h : Host σ) (c : Timed Call) (hblank : h.Blank) :
    (operations h c).2.Blank := by
  obtain ⟨ids, hframe⟩ := frame_operations h c
  intro hforgets id
  rw [hframe.retention] at hforgets
  have hnone := hblank hforgets
  obtain ⟨call, now⟩ := c
  cases call with
  | create i config =>
    have hsame : (h.create i config now).2.registry = h.registry := by
      simp only [create]
      split
      · rfl
      · simp only [Registry.insert, hforgets]
    exact (congrArg (fun r => Registry.get? r id) hsame).trans (hnone id)
  | on i op =>
    have hsame : (operations h ⟨.on i op, now⟩).2 = h := act_of_none (hnone i) now op
    rw [hsame]
    exact hnone id
  | sweep =>
    have hsweep := h.get?_sweep now id
    rw [hnone id, Option.bind_none] at hsweep
    exact hsweep
  | setRoot fault => exact hnone id

/-- **A probe leaves live state as its copy does.** -/
theorem live_probe (h : Host σ) (id : ShadowId) (p : Proposal) (now : Time) :
    (h.probe id p now).2.live = (h.backing.snapshot h.live).2 := by
  have hexercise : ∀ k : Host σ, (k.exercise id p now).2.live = k.live := by
    intro k
    refine (k.reach_exercise p now (List.mem_singleton_self id)).invariant
      (P := Call.Serves [id] []) (I := fun k' => k'.live = k.live) ?_ rfl
    rintro k' ⟨call, now'⟩ hserves hlive
    cases call with
    | create i config => cases hserves
    | on i op => exact (k'.live_act i now' hserves.2).trans hlive
    | sweep => cases hserves
    | setRoot fault => exact hlive
  rw [← h.live_create_eq id probeConfig now, probe]
  split
  · rename_i e k heq
    rw [heq]
  · rename_i k heq
    rw [heq]
    exact (live_cleanup _ id).trans (hexercise k)

/-- A probe keeps how live state is copied, how the registry retains, and that it keeps nothing if
it does not. -/
theorem keeps_probe (hblank : h.Blank) (id : ShadowId) (p : Proposal) (now : Time) :
    (h.probe id p now).2.backing = h.backing ∧
      (h.probe id p now).2.registry.retention = h.registry.retention ∧
      (h.probe id p now).2.Blank := by
  have hid : id ∈ [id] := List.mem_singleton_self id
  refine (h.reach_probe p now hid hid).invariant (I := fun k =>
    k.backing = h.backing ∧ k.registry.retention = h.registry.retention ∧ k.Blank) ?_
    ⟨rfl, rfl, hblank⟩
  rintro k c - ⟨hbacking, hretention, hblank⟩
  obtain ⟨ids, hframe⟩ := k.frame_operations c
  exact ⟨hframe.backing.trans hbacking, hframe.retention.trans hretention,
    k.blank_operations c hblank⟩

end Host

/-! ## Copies that come out the same way -/

namespace Backing

variable {σ : Type} {b : Backing σ} {live : σ}

/-- Live state after a number of copies. -/
def copied (b : Backing σ) : Nat → σ → σ
  | 0, live => live
  | n + 1, live => b.copied n (b.snapshot live).2

/-- **Copies of live state come out the same way**, again and again: they all succeed, or are all
refused, or all die of the same. -/
inductive Steady (b : Backing σ) (live : σ) : Prop where
  | copies (h : ∀ n, ∃ s, (b.snapshot (b.copied n live)).1 = .ok s)
  | refuses (h : ∀ n, ∃ e, (b.snapshot (b.copied n live)).1 = .error (.refused e))
  | crashes (message : String)
    (h : ∀ n, (b.snapshot (b.copied n live)).1 = .error (.crashed message))

/-- **A probe after any number of copies** shows what a probe before them does. -/
theorem Steady.probeOf_copied (h : b.Steady live) (ρ : Retention) (id : ShadowId) (n : Nat) :
    Host.probeOf ρ id (b.snapshot (b.copied n live)).1 =
      Host.probeOf ρ id (b.snapshot live).1 := by
  cases h with
  | copies h =>
    obtain ⟨s, hs : (b.snapshot live).1 = .ok s⟩ := h 0
    obtain ⟨s', hs'⟩ := h n
    rw [hs, hs']
    rfl
  | refuses h =>
    obtain ⟨e, he : (b.snapshot live).1 = .error (.refused e)⟩ := h 0
    obtain ⟨e', he'⟩ := h n
    rw [he, he']
    rfl
  | crashes message h =>
    have hfirst : (b.snapshot live).1 = .error (.crashed message) := h 0
    rw [hfirst, h n]

end Backing

end ShadowGate
