import ShadowGate.Proofs.Host.Slot

/-!
# Sweeps

A sweep takes the shadows one by one, in order of ids, and each as it stood before the sweep: the
turns of the others do not touch it.

* `Shadow.isSwept` — whether a shadow falls to a sweep: due, and not under validation.
* `Host.get?_sweep` — what is left of every shadow.
* `Host.sweep_answer` — what the sweep answers, shadow by shadow; `Host.sweep_answer_at` picks out
  the line of one.
-/

namespace ShadowGate

/-- Whether a shadow falls to a sweep. -/
def Shadow.isSwept (s : Shadow) (now : Time) : Bool := s.isDue now && s.phase != .validating

/-- **What is left of a shadow after a sweep.** -/
def Shadow.afterSweep (s : Shadow) (ρ : Retention) (now : Time) : Option Shadow :=
  if s.isSwept now then ρ.remainder { s with phase := .discarded } else some s

theorem Shadow.admitDiscard_of_isSwept {s : Shadow} {now : Time} (h : s.isSwept now = true) :
    s.admitDiscard = .ok () := by
  simp only [isSwept, isDue, Bool.and_eq_true, Bool.not_eq_true', bne_iff_ne] at h
  exact admitDiscard_eq_ok_iff.mpr ⟨h.1.1.2, h.2⟩

namespace Host

variable {σ : Type} {h : Host σ} {id : ShadowId} {s : Shadow} {now : Time}

/-- What a sweep answers about the shadow under an id. -/
def sweepLine (h : Host σ) (now : Time) (id : ShadowId) : List (ShadowId × List Insight) :=
  match h.registry.get? id with
  | none => []
  | some s => if s.isSwept now then [(id, s.lessons)] else []

/-- A sweep's turn at a shadow that falls to it. -/
theorem sweepOne_of_swept (hs : h.registry.get? id = some s) (hsw : s.isSwept now = true)
    (swept : List (ShadowId × List Insight)) :
    sweepOne now (swept, h) id = (swept ++ [(id, s.lessons)], (h.discard id).2) := by
  have hdue : s.isDue now = true := (Bool.and_eq_true_iff.mp hsw).1
  have hdiscard := discard_of_admitted hs (Shadow.admitDiscard_of_isSwept hsw)
  simp only [sweepOne, hs, hdue, if_true, hdiscard]

/-- A sweep's turn at any other shadow. -/
theorem sweepOne_of_spared (hs : h.registry.get? id = some s) (hsw : s.isSwept now = false)
    (swept : List (ShadowId × List Insight)) : sweepOne now (swept, h) id = (swept, h) := by
  cases hdue : s.isDue now with
  | false => simp [sweepOne, hs, hdue]
  | true =>
    -- a shadow that is due and spared is under validation, and the discard is refused
    have hphase : s.phase = .validating := by simpa [Shadow.isSwept, hdue] using hsw
    have hbusy : s.admitDiscard = .error (.busy s.id) := by
      simp [Shadow.admitDiscard, Shadow.ensureIdle, hphase, Phase.isTerminal]
    simp only [sweepOne, hs, hdue, if_true, discard_of_refused hs hbusy]

/-- **One turn of a sweep.** -/
theorem sweepOne_spec (h : Host σ) (now : Time) (id : ShadowId)
    (swept : List (ShadowId × List Insight)) :
    (sweepOne now (swept, h) id).1 = swept ++ h.sweepLine now id ∧
    (sweepOne now (swept, h) id).2.live = h.live ∧
    Frame [id] h (sweepOne now (swept, h) id).2 ∧
    (sweepOne now (swept, h) id).2.registry.get? id =
      (h.registry.get? id).bind fun s => s.afterSweep h.registry.retention now := by
  cases hs : h.registry.get? id with
  | none =>
    have hnone : sweepOne now (swept, h) id = (swept, h) := by simp only [sweepOne, hs]
    rw [hnone]
    refine ⟨?_, rfl, Frame.refl _ _, hs⟩
    simp only [sweepLine, hs, List.append_nil]
  | some s =>
    cases hsw : s.isSwept now with
    | false =>
      rw [sweepOne_of_spared hs hsw]
      refine ⟨?_, rfl, Frame.refl _ _, ?_⟩
      · simp [sweepLine, hs, hsw]
      · simp [Shadow.afterSweep, hs, hsw]
    | true =>
      rw [sweepOne_of_swept hs hsw]
      refine ⟨?_, live_discard h id, frame_discard h id, ?_⟩
      · simp only [sweepLine, hs, hsw, if_true]
      · rw [get?_discard_self hs now]
        simp only [Shadow.after, Shadow.admitDiscard_of_isSwept hsw, Shadow.afterSweep, hsw,
          if_true, Option.bind_some]

/-- **The turns of a sweep at ids that are all different.** -/
theorem foldl_sweepOne (now : Time) {ids : List ShadowId} (hids : ids.Nodup) (h : Host σ)
    (swept : List (ShadowId × List Insight)) :
    (ids.foldl (sweepOne now) (swept, h)).1 = swept ++ ids.flatMap (h.sweepLine now) ∧
    (ids.foldl (sweepOne now) (swept, h)).2.live = h.live ∧
    Frame ids h (ids.foldl (sweepOne now) (swept, h)).2 ∧
    ∀ id ∈ ids, (ids.foldl (sweepOne now) (swept, h)).2.registry.get? id =
      (h.registry.get? id).bind fun s => s.afterSweep h.registry.retention now := by
  induction ids generalizing h swept with
  | nil =>
    refine ⟨(List.append_nil _).symm, rfl, Frame.refl _ _, ?_⟩
    intro id hid
    cases hid
  | cons i rest ih =>
    obtain ⟨hi, hrest⟩ := List.nodup_cons.mp hids
    obtain ⟨hline, hlive, hframe, hself⟩ := sweepOne_spec h now i swept
    obtain ⟨ihline, ihlive, ihframe, ihself⟩ :=
      ih hrest (sweepOne now (swept, h) i).2 (sweepOne now (swept, h) i).1
    -- the first turn does not touch the shadows whose turns follow
    have hsame : ∀ j ∈ rest, (sweepOne now (swept, h) i).2.registry.get? j = h.registry.get? j := by
      intro j hj
      exact hframe.others j fun hji => hi (List.mem_singleton.mp hji ▸ hj)
    have hlines : rest.flatMap ((sweepOne now (swept, h) i).2.sweepLine now) =
        rest.flatMap (h.sweepLine now) := by
      rw [List.flatMap_def, List.flatMap_def]
      refine congrArg List.flatten (List.map_congr_left fun j hj => ?_)
      simp only [sweepLine, hsame j hj]
    refine ⟨?_, ihlive.trans hlive, ?_, ?_⟩
    · rw [List.foldl_cons, ihline, hline, hlines, List.flatMap_cons, List.append_assoc]
    · exact (hframe.mono (by simp)).trans (ihframe.mono (by simp))
    · intro j hj
      rw [List.foldl_cons]
      rcases List.mem_cons.mp hj with rfl | hj
      · rw [ihframe.others j hi, hself]
      · rw [ihself j hj, hsame j hj, hframe.retention]

/-! ## The sweep as a whole -/

theorem nodup_active (h : Host σ) : h.active.Nodup := Registry.nodup_ids _

theorem get?_eq_none_of_not_mem_active (hid : id ∉ h.active) : h.registry.get? id = none := by
  rw [Option.eq_none_iff_forall_ne_some]
  intro s hs
  exact hid (Registry.mem_ids_iff.mpr ⟨s, hs⟩)

/-- **What a sweep answers**: the shadows that fall to it, in order of ids. -/
theorem sweep_answer (h : Host σ) (now : Time) :
    (h.sweep now).1 = h.active.flatMap (h.sweepLine now) := by
  rw [sweep, (foldl_sweepOne now h.nodup_active h []).1, List.nil_append]

theorem live_sweep (h : Host σ) (now : Time) : (h.sweep now).2.live = h.live :=
  (foldl_sweepOne now h.nodup_active h []).2.1

theorem frame_sweep (h : Host σ) (now : Time) : Frame h.active h (h.sweep now).2 :=
  (foldl_sweepOne now h.nodup_active h []).2.2.1

/-- **What is left of every shadow after a sweep.** -/
theorem get?_sweep (h : Host σ) (now : Time) (id : ShadowId) :
    (h.sweep now).2.registry.get? id =
      (h.registry.get? id).bind fun s => s.afterSweep h.registry.retention now := by
  by_cases hid : id ∈ h.active
  · exact (foldl_sweepOne now h.nodup_active h []).2.2.2 id hid
  · rw [(frame_sweep h now).others id hid, get?_eq_none_of_not_mem_active hid]
    rfl

/-- The lines of one shadow among those of several, all different. -/
theorem filter_flatMap_sweepLine (h : Host σ) (now : Time) (id : ShadowId) {ids : List ShadowId}
    (hids : ids.Nodup) :
    (ids.flatMap (h.sweepLine now)).filter (fun line => line.1 = id) =
      if id ∈ ids then h.sweepLine now id else [] := by
  have hown : ∀ j, (h.sweepLine now j).filter (fun line => line.1 = id) =
      if j = id then h.sweepLine now j else [] := by
    intro j
    rw [sweepLine]
    by_cases hj : j = id
    · split
      · simp
      · split <;> simp [hj]
    · split
      · simp
      · split <;> simp [hj]
  induction ids with
  | nil => rfl
  | cons j rest ih =>
    obtain ⟨hj, hrest⟩ := List.nodup_cons.mp hids
    rw [List.flatMap_cons, List.filter_append, hown j, ih hrest]
    by_cases hji : j = id
    · subst hji
      simp [hj]
    · have hij : id ≠ j := fun heq => hji heq.symm
      simp [hji, hij]

/-- **What a sweep answers about one shadow.** -/
theorem sweep_answer_at (h : Host σ) (now : Time) (id : ShadowId) :
    (h.sweep now).1.filter (fun line => line.1 = id) = h.sweepLine now id := by
  rw [sweep_answer, filter_flatMap_sweepLine h now id h.nodup_active]
  by_cases hid : id ∈ h.active
  · rw [if_pos hid]
  · rw [if_neg hid]
    simp only [sweepLine, get?_eq_none_of_not_mem_active hid]

end Host

end ShadowGate
