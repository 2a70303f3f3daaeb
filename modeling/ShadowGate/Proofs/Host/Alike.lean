import ShadowGate.Proofs.Host.Live

/-!
# Hosts that look alike from a shadow

From where a shadow stands, a host is little more than the shadow itself. Two hosts look alike from
an id if they retain and store the same way and have the same shadow there; what else is registered,
and what live state holds, cannot be told.

* `Host.Alike` — the relation, an equivalence.
* `Host.alike_of_avoids` — a call that names another shadow, or none, makes no difference.
* `Host.act_congr`, `Host.sweep_congr` — **a call that is about the shadow is answered alike, and
  leaves hosts that look alike**. For a merge this needs a live store, which takes every change
  whatever it holds.
-/

namespace ShadowGate.Host

/-! ## The relation -/

section Alike

variable {σ α : Type} {a : ShadowId} {h h' h'' : Host σ} {now : Time}

/-- Two hosts look alike from the shadow under an id. -/
structure Alike (a : ShadowId) (h h' : Host σ) : Prop where
  /-- live state is copied and changed the same way -/
  backing : h'.backing = h.backing
  /-- the registry retains the same way -/
  retention : h'.registry.retention = h.registry.retention
  /-- the shadow is the same -/
  shadow : h'.registry.get? a = h.registry.get? a

namespace Alike

theorem refl (a : ShadowId) (h : Host σ) : Alike a h h := ⟨rfl, rfl, rfl⟩

theorem symm (r : Alike a h h') : Alike a h' h :=
  ⟨r.backing.symm, r.retention.symm, r.shadow.symm⟩

theorem trans (r : Alike a h h') (r' : Alike a h' h'') : Alike a h h'' :=
  ⟨r'.backing.trans r.backing, r'.retention.trans r.retention, r'.shadow.trans r.shadow⟩

end Alike

theorem Frame.alike {ids : List ShadowId} (f : Frame ids h h') (ha : a ∉ ids) : Alike a h h' :=
  ⟨f.backing, f.retention, f.others a ha⟩

/-- Hosts that look alike still do, if each keeps its frame and the shadow comes out the same. -/
theorem Alike.of_frames {ids ids' : List ShadowId} {k k' : Host σ} (r : Alike a h h')
    (f : Frame ids h k) (f' : Frame ids' h' k') (hs : k'.registry.get? a = k.registry.get? a) :
    Alike a k k' where
  backing := by rw [f.backing, f'.backing, r.backing]
  retention := by rw [f.retention, f'.retention, r.retention]
  shadow := hs

/-! ## Calls about something else -/

/-- The call names another shadow, or none. -/
def Call.Avoids (a : ShadowId) : Call → Prop
  | .create id _ => a ≠ id
  | .on id _ => a ≠ id
  | .sweep => False
  | .setRoot _ => True

/-- **A call that avoids a shadow makes no difference to it.** -/
theorem alike_of_avoids (h : Host σ) (c : Timed Call) (hc : c.call.Avoids a) :
    Alike a h (operations h c).2 := by
  obtain ⟨call, now⟩ := c
  cases call with
  | create id config =>
    exact (h.frame_create id config now).alike fun hid => hc (List.mem_singleton.mp hid)
  | on id op => exact (h.frame_act id now op).alike fun hid => hc (List.mem_singleton.mp hid)
  | sweep => cases hc
  | setRoot fault => exact ⟨rfl, rfl, rfl⟩

/-! ## Calls about the shadow -/

/-- Steps on the same shadow leave hosts that look alike. -/
theorem alike_onShadow (r : Alike a h h') (step : Shadow → Except ShadowError α × Shadow) :
    Alike a (h.onShadow a step).2 (h'.onShadow a step).2 := by
  refine r.of_frames (h.frame_onShadow a step) (h'.frame_onShadow a step) ?_
  cases hs : h.registry.get? a with
  | none => simp only [onShadow, hs, r.shadow]
  | some s => rw [get?_onShadow_self hs, get?_onShadow_self (r.shadow.trans hs)]

/-- Operations on the same shadow leave hosts that look alike. -/
theorem alike_act (r : Alike a h h') (now : Time) (op : Shadow.Op) :
    Alike a (h.act a now op).2 (h'.act a now op).2 := by
  refine r.of_frames (h.frame_act a now op) (h'.frame_act a now op) ?_
  cases hs : h.registry.get? a with
  | none => rw [act_of_none hs, act_of_none (r.shadow.trans hs), r.shadow]
  | some s => rw [get?_act_self hs, get?_act_self (r.shadow.trans hs), r.retention]

theorem alike_sweep (r : Alike a h h') (now : Time) : Alike a (h.sweep now).2 (h'.sweep now).2 := by
  refine r.of_frames (h.frame_sweep now) (h'.frame_sweep now) ?_
  rw [get?_sweep, get?_sweep, r.shadow, r.retention]

/-- A step on the shadow comes to the same end in both hosts. -/
theorem answer_onShadow_congr (r : Alike a h h') (step : Shadow → Except ShadowError α × Shadow) :
    (h'.onShadow a step).1 = (h.onShadow a step).1 := by
  cases hs : h.registry.get? a with
  | none => simp only [onShadow, hs, r.shadow]
  | some s => rw [answer_onShadow hs, answer_onShadow (r.shadow.trans hs)]

theorem answer_discard_congr (r : Alike a h h') : (h'.discard a).1 = (h.discard a).1 := by
  cases hs : h.registry.get? a with
  | none => simp only [discard, hs, r.shadow]
  | some s =>
    have hs' := r.shadow.trans hs
    cases hadmitted : s.admitDiscard with
    | error e => rw [discard_of_refused hs hadmitted, discard_of_refused hs' hadmitted]
    | ok u => rw [discard_of_admitted hs hadmitted, discard_of_admitted hs' hadmitted]

end Alike

/-! ## Merges into a live store -/

section Merge

variable {a : ShadowId} {h h' : Host Store} {now : Time}

theorem answer_merge_congr (hb : h.backing = Store.backing) (r : Alike a h h') (report : Report)
    (now : Time) : (h'.merge a report now).1 = (h.merge a report now).1 := by
  cases hs : h.registry.get? a with
  | none => simp only [merge, hs, r.shadow]
  | some s =>
    have hs' := r.shadow.trans hs
    cases hadmitted : s.admitMerge now report with
    | error e => rw [merge_of_refused hs hadmitted, merge_of_refused hs' hadmitted]
    | ok u =>
      rw [(merge_into_live hb hs hadmitted).1,
        (merge_into_live (r.backing.trans hb) hs' hadmitted).1]

/-- **An operation on the shadow is answered alike.** -/
theorem answer_act_congr (hb : h.backing = Store.backing) (r : Alike a h h') (now : Time)
    (op : Shadow.Op) : (h'.act a now op).1 = (h.act a now op).1 := by
  cases op with
  | view => simp only [act, handle?, r.shadow]
  | read key => simp only [act, handle?, r.shadow]
  | log kind data => exact congrArg Answer.logged (answer_onShadow_congr r _)
  | beginValidation => exact congrArg Answer.opened (answer_onShadow_congr r _)
  | recordValidation changeId passed => exact congrArg Answer.recorded (answer_onShadow_congr r _)
  | testRollback => exact congrArg Answer.tested (answer_onShadow_congr r _)
  | merge report => exact congrArg Answer.merged (answer_merge_congr hb r report now)
  | discard => exact congrArg Answer.discarded (answer_discard_congr r)
  | cleanup =>
    simp only [act, Prod.map_fst, cleanup, r.shadow]
    cases h.registry.get? a <;> rfl
  | cleanupInUse =>
    simp only [act, Prod.map_fst, cleanupInUse, r.shadow]
    cases h.registry.get? a <;> rfl
  | loseDirectory => rfl

/-- **A sweep's line about the shadow** is the same. -/
theorem answer_sweep_congr (r : Alike a h h') (now : Time) :
    (h'.sweep now).1.filter (fun line => line.1 = a) =
      (h.sweep now).1.filter (fun line => line.1 = a) := by
  rw [sweep_answer_at, sweep_answer_at]
  simp only [sweepLine, r.shadow]

end Merge

end ShadowGate.Host
