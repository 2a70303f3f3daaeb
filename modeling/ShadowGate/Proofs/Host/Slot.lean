import ShadowGate.Proofs.Host.Call
import ShadowGate.Proofs.Shadow.Step

/-!
# One shadow of a host

A host is its shadows side by side: what a call does to the shadow under an id depends on that
shadow alone, and every other shadow stays as it is.

* `Host.Frame` — everything but the shadows under some ids is as it was.
* `Shadow.after` — what is left of a shadow after an operation on it; `Host.get?_act_self` ties it
  to the host.
* `Host.merge_of_admitted`, `Host.discard_of_admitted` — the end of a shadow, as one equation each.
* `Host.live_act` — no operation but a merge touches live state.
-/

namespace ShadowGate

/-! ## Registries -/

namespace Registry

@[simp] theorem retention_insert (r : Registry) (id : ShadowId) (s : Shadow) :
    (r.insert id s).retention = r.retention := by
  rw [insert]
  split <;> rfl

@[simp] theorem retention_update (r : Registry) (id : ShadowId) (s : Shadow) :
    (r.update id s).retention = r.retention := by
  rw [update]
  split <;> rfl

@[simp] theorem retention_remove (r : Registry) (id : ShadowId) :
    (r.remove id).retention = r.retention := by
  rw [remove]
  split <;> rfl

theorem get?_insert_ne (r : Registry) {id other : ShadowId} (h : other ≠ id) (s : Shadow) :
    (r.insert id s).get? other = r.get? other := by
  rw [insert]
  split
  · rfl
  · exact SortedMap.get?_insert_ne _ h _

/-- An insertion is kept or ignored. -/
theorem get?_insert_self (r : Registry) (id : ShadowId) (s : Shadow) :
    (r.insert id s).get? id = if r.retention = .forgetful then r.get? id else some s := by
  rw [insert]
  split
  · rename_i h
    rw [if_pos h]
  · rename_i h
    rw [if_neg h]
    exact SortedMap.get?_insert_self _ _ _

/-- A removal is carried out or ignored. -/
theorem get?_remove_self (r : Registry) (id : ShadowId) :
    (r.remove id).get? id = if r.retention = .sticky then r.get? id else none := by
  rw [remove]
  split
  · rename_i h
    rw [if_pos h]
  · rename_i h
    rw [if_neg h]
    exact SortedMap.get?_erase_self _ _

theorem update_of_none {r : Registry} {id : ShadowId} (h : r.get? id = none) (s : Shadow) :
    r.update id s = r := by
  rw [update]
  rw [h]

theorem mem_ids_iff {r : Registry} {id : ShadowId} : id ∈ r.ids ↔ ∃ s, r.get? id = some s := by
  constructor
  · intro hid
    obtain ⟨⟨k, s⟩, hmem, rfl⟩ := List.mem_map.mp hid
    exact ⟨s, SortedMap.get?_eq_some_iff.mpr hmem⟩
  · rintro ⟨s, hs⟩
    exact List.mem_map.mpr ⟨(id, s), SortedMap.get?_eq_some_iff.mp hs, rfl⟩

/-- No id is listed twice. -/
theorem nodup_ids (r : Registry) : r.ids.Nodup := by
  refine List.pairwise_map.mpr (List.Pairwise.imp ?_ r.shadows.sorted)
  intro p q hlt heq
  have hself : compare q.1 q.1 = .eq := Std.ReflCmp.compare_self
  rw [heq, hself] at hlt
  cases hlt

end Registry

/-- What a registry still holds of a shadow that is cleaned up. -/
def Retention.remainder (ρ : Retention) (s : Shadow) : Option Shadow :=
  if ρ = .sticky then some { s with storage := none } else none

namespace Host

variable {σ α : Type} {h h' : Host σ} {id : ShadowId} {s : Shadow} {now : Time}

/-! ## Frames -/

/-- Everything but live state, the shadow root and the shadows under some ids is as it was. -/
structure Frame (ids : List ShadowId) (h h' : Host σ) : Prop where
  /-- live state is copied and changed the same way -/
  backing : h'.backing = h.backing
  /-- the settings are the same -/
  settings : h'.settings = h.settings
  /-- the registry retains the same way -/
  retention : h'.registry.retention = h.registry.retention
  /-- every other shadow is as it was -/
  others : ∀ id, id ∉ ids → h'.registry.get? id = h.registry.get? id

namespace Frame

theorem refl (ids : List ShadowId) (h : Host σ) : Frame ids h h := ⟨rfl, rfl, rfl, fun _ _ => rfl⟩

theorem trans {ids : List ShadowId} {h h' h'' : Host σ} (f : Frame ids h h')
    (g : Frame ids h' h'') : Frame ids h h'' where
  backing := g.backing.trans f.backing
  settings := g.settings.trans f.settings
  retention := g.retention.trans f.retention
  others id hid := (g.others id hid).trans (f.others id hid)

theorem mono {ids more : List ShadowId} (f : Frame ids h h') (hsub : ids ⊆ more) :
    Frame more h h' where
  backing := f.backing
  settings := f.settings
  retention := f.retention
  others id hid := f.others id fun hmem => hid (hsub hmem)

/-- A registry that differs at one id, and any live state. -/
theorem of_registry (live : σ) {r : Registry} (hret : r.retention = h.registry.retention)
    (hne : ∀ other, other ≠ id → r.get? other = h.registry.get? other) :
    Frame [id] h { h with live, registry := r } where
  backing := rfl
  settings := rfl
  retention := hret
  others other hother := hne other fun heq => hother (heq ▸ List.mem_singleton_self _)

end Frame

theorem frame_create (h : Host σ) (id : ShadowId) (config : ShadowConfig) (now : Time) :
    Frame [id] h (h.create id config now).2 := by
  rw [create]
  simp only
  split
  · exact Frame.of_registry _ rfl fun _ _ => rfl
  · exact Frame.of_registry _ (Registry.retention_insert ..)
      fun other hother => Registry.get?_insert_ne _ hother _

theorem frame_onShadow (h : Host σ) (id : ShadowId)
    (step : Shadow → Except ShadowError α × Shadow) : Frame [id] h (h.onShadow id step).2 := by
  rw [onShadow]
  split
  · exact Frame.refl _ _
  · exact Frame.of_registry _ (Registry.retention_update ..)
      fun other hother => Registry.get?_update_ne _ hother _

theorem frame_cleanup (h : Host σ) (id : ShadowId) : Frame [id] h (h.cleanup id).2 := by
  rw [cleanup]
  split
  · exact Frame.refl _ _
  · refine Frame.of_registry _ ?_ fun other hother => ?_
    · rw [Registry.retention_update, Registry.retention_remove]
    · rw [Registry.get?_update_ne _ hother, Registry.get?_remove_ne _ hother]

theorem frame_cleanupInUse (h : Host σ) (id : ShadowId) :
    Frame [id] h (h.cleanupInUse id).2 := by
  rw [cleanupInUse]
  split
  · exact Frame.refl _ _
  · exact Frame.of_registry _ (Registry.retention_remove ..)
      fun other hother => Registry.get?_remove_ne _ hother

/-- A shadow whose phase is set, on whatever live state, and which is then cleaned up. -/
theorem frame_end (h : Host σ) (id : ShadowId) (s : Shadow) (live : σ) :
    Frame [id] h ({ h with live, registry := h.registry.update id s }.cleanup id).2 :=
  (Frame.of_registry live (Registry.retention_update ..)
    fun _ hother => Registry.get?_update_ne _ hother _).trans (frame_cleanup _ id)

theorem frame_merge (h : Host σ) (id : ShadowId) (report : Report) (now : Time) :
    Frame [id] h (h.merge id report now).2 := by
  rw [merge]
  split
  · exact Frame.refl _ _
  · split
    · exact Frame.refl _ _
    · simp only
      split <;> exact frame_end h id _ _

theorem frame_discard (h : Host σ) (id : ShadowId) : Frame [id] h (h.discard id).2 := by
  rw [discard]
  split
  · exact Frame.refl _ _
  · split
    · exact Frame.refl _ _
    · exact frame_end h id _ h.live

theorem frame_loseDirectory (h : Host σ) (id : ShadowId) : Frame [id] h (h.loseDirectory id) := by
  rw [loseDirectory]
  split
  · exact Frame.refl _ _
  · exact Frame.of_registry _ (Registry.retention_update ..)
      fun other hother => Registry.get?_update_ne _ hother _

/-- **An operation on a shadow leaves every other shadow alone.** -/
theorem frame_act (h : Host σ) (id : ShadowId) (now : Time) (op : Shadow.Op) :
    Frame [id] h (h.act id now op).2 := by
  cases op with
  | view => exact Frame.refl _ _
  | read key => exact Frame.refl _ _
  | log kind data => exact frame_onShadow ..
  | beginValidation => exact frame_onShadow ..
  | recordValidation changeId passed => exact frame_onShadow ..
  | testRollback => exact frame_onShadow ..
  | merge report => exact frame_merge ..
  | discard => exact frame_discard ..
  | cleanup => exact frame_cleanup ..
  | cleanupInUse => exact frame_cleanupInUse ..
  | loseDirectory => exact frame_loseDirectory ..

/-! ## The shadow itself -/

end Host

/-- What a discarded shadow leaves to learn: one insight per logged change. -/
def Shadow.lessons (s : Shadow) : List Insight := s.log.map fun e => Insight.ofChange e s.status

/-- **What is left of a shadow after an operation on it**, in a registry that retains so. -/
def Shadow.after (s : Shadow) (ρ : Retention) (now : Time) : Shadow.Op → Option Shadow
  | .view => some s
  | .read _ => some s
  | .log kind data => some (s.logChange now kind data).2
  | .beginValidation => some (s.beginValidation now).2
  | .recordValidation changeId passed => some (s.recordValidation changeId passed).2
  | .testRollback => some (s.testRollback now).2
  | .merge report =>
    match s.admitMerge now report with
    | .ok () => ρ.remainder { s with phase := .merged }
    | .error _ => some s
  | .discard =>
    match s.admitDiscard with
    | .ok () => ρ.remainder { s with phase := .discarded }
    | .error _ => some s
  | .cleanup => ρ.remainder s
  | .cleanupInUse => if ρ = .sticky then some s else none
  | .loseDirectory => some s.loseDirectory

namespace Host

variable {σ α : Type} {h h' : Host σ} {id : ShadowId} {s : Shadow} {now : Time}

theorem get?_onShadow_self (hs : h.registry.get? id = some s)
    (step : Shadow → Except ShadowError α × Shadow) :
    (h.onShadow id step).2.registry.get? id = some (step s).2 := by
  rw [onShadow]
  rw [hs]
  exact Registry.get?_update_self hs _

/-- A step that leaves the shadow as it was leaves the host as it was. -/
theorem onShadow_of_kept (hs : h.registry.get? id = some s)
    {step : Shadow → Except ShadowError α × Shadow} (hkept : (step s).2 = s) :
    (h.onShadow id step).2 = h := by
  simp only [onShadow, hs, hkept, Registry.update_of_get? hs]

theorem answer_onShadow (hs : h.registry.get? id = some s)
    (step : Shadow → Except ShadowError α × Shadow) : (h.onShadow id step).1 = (step s).1 := by
  simp only [onShadow, hs]

/-- A step that succeeds was taken on a registered shadow. -/
theorem onShadow_eq_ok {a : α} {step : Shadow → Except ShadowError α × Shadow}
    (heq : h.onShadow id step = (.ok a, h')) :
    ∃ s, h.registry.get? id = some s ∧ (step s).1 = .ok a ∧
      h'.registry.get? id = some (step s).2 := by
  cases hs : h.registry.get? id with
  | none =>
    rw [onShadow, hs] at heq
    cases heq
  | some s =>
    have hanswer := answer_onShadow hs step
    have hafter := get?_onShadow_self hs step
    rw [heq] at hanswer hafter
    exact ⟨s, rfl, hanswer.symm, hafter⟩

theorem answer_cleanup (hs : h.registry.get? id = some s) :
    (h.cleanup id).1 = releaseReport id s.releaseStorage := by
  simp only [cleanup, hs]

theorem get?_cleanup_self (hs : h.registry.get? id = some s) :
    (h.cleanup id).2.registry.get? id = h.registry.retention.remainder s := by
  unfold cleanup Retention.remainder
  rw [hs]
  have hgone := Registry.get?_remove_self h.registry id
  by_cases hρ : h.registry.retention = .sticky
  · -- the removal is ignored, so the update finds the shadow
    rw [if_pos hρ, hs] at hgone
    rw [if_pos hρ]
    exact Registry.get?_update_self hgone _
  · rw [if_neg hρ] at hgone
    rw [if_neg hρ]
    simp only [Registry.update_of_none hgone, hgone]

theorem get?_end_self (hs : h.registry.get? id = some s) (s' : Shadow) (live : σ) :
    ({ h with live, registry := h.registry.update id s' }.cleanup id).2.registry.get? id =
      h.registry.retention.remainder s' := by
  rw [get?_cleanup_self (s := s') (Registry.get?_update_self hs s')]
  simp only [Registry.retention_update]

theorem answer_end (hs : h.registry.get? id = some s) (s' : Shadow) (live : σ) :
    ({ h with live, registry := h.registry.update id s' }.cleanup id).1 =
      releaseReport id s'.releaseStorage :=
  answer_cleanup (s := s') (Registry.get?_update_self hs s')

theorem get?_cleanupInUse_self (hs : h.registry.get? id = some s) :
    (h.cleanupInUse id).2.registry.get? id =
      if h.registry.retention = .sticky then some s else none := by
  rw [cleanupInUse]
  simp only [hs, Registry.get?_remove_self]

/-- A merge that the guard refuses changes nothing. -/
theorem merge_of_refused {report : Report} {e : ShadowError} (hs : h.registry.get? id = some s)
    (he : s.admitMerge now report = .error e) : h.merge id report now = (.error e, h) := by
  simp only [merge, hs, he]

/-- **A merge that the guard admits**: the log replayed on live state, the shadow marked as merged
and cleaned up, and the trail of the replay in the answer. -/
theorem merge_of_admitted {report : Report} (hs : h.registry.get? id = some s)
    (ha : s.admitMerge now report = .ok ()) :
    h.merge id report now =
      let replayed := h.backing.replay s.log h.live
      let ended := { h with
        live := replayed.2
        registry := h.registry.update id { s with phase := .merged } }.cleanup id
      (match replayed.1 with
        | .error message => .error (.crashed message)
        | .ok auditTrail =>
          .ok { shadowId := id, changeId := report.changeId, auditTrail, cleanup := ended.1 },
        ended.2) := by
  cases hr : (h.backing.replay s.log h.live).1 <;> simp only [merge, hs, ha, hr]

theorem get?_merge_self (hs : h.registry.get? id = some s) (report : Report) :
    (h.merge id report now).2.registry.get? id =
      s.after h.registry.retention now (.merge report) := by
  cases hadmitted : s.admitMerge now report with
  | error e =>
    rw [merge_of_refused hs hadmitted, Shadow.after, hadmitted]
    exact hs
  | ok u =>
    rw [merge_of_admitted hs hadmitted, Shadow.after, hadmitted]
    exact get?_end_self hs _ _

/-- A discard that the guard refuses changes nothing. -/
theorem discard_of_refused {e : ShadowError} (hs : h.registry.get? id = some s)
    (he : s.admitDiscard = .error e) : h.discard id = (.error e, h) := by
  simp only [discard, hs, he]

/-- **A discard that the guard admits**: the shadow's lessons, and the shadow marked as discarded
and cleaned up. -/
theorem discard_of_admitted (hs : h.registry.get? id = some s) (ha : s.admitDiscard = .ok ()) :
    h.discard id =
      (.ok s.lessons,
        ({ h with
          registry := h.registry.update id { s with phase := .discarded } }.cleanup id).2) := by
  simp only [discard, hs, ha]
  rfl

theorem get?_discard_self (hs : h.registry.get? id = some s) (now : Time) :
    (h.discard id).2.registry.get? id = s.after h.registry.retention now .discard := by
  cases hadmitted : s.admitDiscard with
  | error e =>
    rw [discard_of_refused hs hadmitted, Shadow.after, hadmitted]
    exact hs
  | ok u =>
    rw [discard_of_admitted hs hadmitted, Shadow.after, hadmitted]
    exact get?_end_self hs _ h.live

theorem get?_loseDirectory_self (hs : h.registry.get? id = some s) :
    (h.loseDirectory id).registry.get? id = some s.loseDirectory := by
  rw [loseDirectory]
  rw [hs]
  exact Registry.get?_update_self hs _

/-- **A shadow after an operation on it.** -/
theorem get?_act_self (hs : h.registry.get? id = some s) (now : Time) (op : Shadow.Op) :
    (h.act id now op).2.registry.get? id = s.after h.registry.retention now op := by
  cases op with
  | view => exact hs
  | read key => exact hs
  | log kind data => exact get?_onShadow_self hs _
  | beginValidation => exact get?_onShadow_self hs _
  | recordValidation changeId passed => exact get?_onShadow_self hs _
  | testRollback => exact get?_onShadow_self hs _
  | merge report => exact get?_merge_self hs report
  | discard => exact get?_discard_self hs now
  | cleanup => exact get?_cleanup_self hs
  | cleanupInUse => exact get?_cleanupInUse_self hs
  | loseDirectory => exact get?_loseDirectory_self hs

/-- An operation on a shadow that is not registered changes nothing. -/
theorem act_of_none (hn : h.registry.get? id = none) (now : Time) (op : Shadow.Op) :
    (h.act id now op).2 = h := by
  cases op <;>
    simp only [act, Prod.map_snd, log, beginValidation, recordValidation, testRollback, onShadow,
      merge, discard, cleanup, cleanupInUse, loseDirectory, hn]

/-! ## Live state -/

theorem live_onShadow (h : Host σ) (id : ShadowId) (step : Shadow → Except ShadowError α × Shadow) :
    (h.onShadow id step).2.live = h.live := by
  rw [onShadow]
  split <;> rfl

theorem live_cleanup (h : Host σ) (id : ShadowId) : (h.cleanup id).2.live = h.live := by
  rw [cleanup]
  split <;> rfl

theorem live_discard (h : Host σ) (id : ShadowId) : (h.discard id).2.live = h.live := by
  rw [discard]
  split
  · rfl
  · split
    · rfl
    · exact live_cleanup _ id

/-- A merge that the guard admits leaves live state as the replay does. -/
theorem live_merge_of_admitted {report : Report} (hs : h.registry.get? id = some s)
    (ha : s.admitMerge now report = .ok ()) :
    (h.merge id report now).2.live = (h.backing.replay s.log h.live).2 := by
  rw [merge_of_admitted hs ha]
  exact live_cleanup _ id

/-- **No operation but a merge touches live state.** -/
theorem live_act (h : Host σ) (id : ShadowId) (now : Time) {op : Shadow.Op}
    (hop : ∀ report, op ≠ .merge report) : (h.act id now op).2.live = h.live := by
  cases op with
  | view => rfl
  | read key => rfl
  | log kind data => exact live_onShadow ..
  | beginValidation => exact live_onShadow ..
  | recordValidation changeId passed => exact live_onShadow ..
  | testRollback => exact live_onShadow ..
  | merge report => exact absurd rfl (hop report)
  | discard => exact live_discard ..
  | cleanup => exact live_cleanup ..
  | cleanupInUse =>
    simp only [act, Prod.map_snd, cleanupInUse]
    split <;> rfl
  | loseDirectory =>
    simp only [act, loseDirectory]
    split <;> rfl

end Host

end ShadowGate
