import ShadowGate.Proofs.Host.Sweep

/-!
# Transitions of a shadow

All that a call can make of a shadow which is registered afterwards. Every invariant of shadows is
proved by cases on it.

* `Shadow.Becomes` — what an operation on a shadow can make of it; `Shadow.becomes_of_after`.
* `Host.Transition` — what any call of the host can make of what is registered under an id: a new
  shadow, the outcome of an operation or of a sweep, or what was there before;
  `Host.transition_of_get?`.
-/

namespace ShadowGate

namespace Shadow

/-- Whether an operation opens or closes a validation of the shadow. -/
def Signals (s : Shadow) (now : Time) : Shadow.Op → Prop
  | .beginValidation => s.ensureOpen now = .ok ()
  | .recordValidation _ _ => s.phase = .validating
  | _ => False

/-- **What an operation can make of a shadow that stays registered.** -/
inductive Becomes (s : Shadow) (ρ : Retention) (now : Time) : Shadow.Op → Shadow → Prop where
  /-- it stays as it is -/
  | same {op : Shadow.Op} (hquiet : ¬ s.Signals now op) : Becomes s ρ now op s
  /-- a change is logged -/
  | logged {kind : String} {data : Json} (hopen : s.ensureOpen now = .ok ()) :
    Becomes s ρ now (.log kind data) (s.logged kind data)
  /-- a change cannot be tried out, and its number is used up -/
  | numbered {kind : String} {data : Json} (hmode : s.config.experimentMode = true)
    (hstorage : s.storage = none) :
    Becomes s ρ now (.log kind data) { s with nextChange := s.nextChange + 1 }
  /-- a validation is opened -/
  | opened (hopen : s.ensureOpen now = .ok ()) :
    Becomes s ρ now .beginValidation { s with phase := .validating }
  /-- a validation is closed -/
  | recorded {changeId : String} {passed : Bool} (hphase : s.phase = .validating) :
    Becomes s ρ now (.recordValidation changeId passed) (s.recorded changeId passed)
  /-- its undo path is exercised -/
  | probed {copy : PrivateCopy} (hstorage : s.storage = some copy) :
    Becomes s ρ now .testRollback { s with storage := some copy.dropProbe }
  /-- it is merged, and its registry never drops anything -/
  | merged {report : Report} (hsticky : ρ = .sticky)
    (hadmitted : s.admitMerge now report = .ok ()) :
    Becomes s ρ now (.merge report) { s with phase := .merged, storage := none }
  /-- it is discarded, and its registry never drops anything -/
  | discarded (hsticky : ρ = .sticky) (hadmitted : s.admitDiscard = .ok ()) :
    Becomes s ρ now .discard { s with phase := .discarded, storage := none }
  /-- it is cleaned up, and its registry never drops anything -/
  | released (hsticky : ρ = .sticky) : Becomes s ρ now .cleanup { s with storage := none }
  /-- its directory disappears -/
  | lost : Becomes s ρ now .loseDirectory s.loseDirectory

variable {s s' : Shadow} {ρ : Retention} {now : Time} {op : Shadow.Op}

theorem eq_of_remainder (hr : ρ.remainder s = some s') :
    ρ = .sticky ∧ s' = { s with storage := none } := by
  rw [Retention.remainder] at hr
  split at hr
  · rename_i hρ
    exact ⟨hρ, (Option.some.inj hr).symm⟩
  · cases hr

/-- A shadow that is registered after an operation on it is what the operation can make of it. -/
theorem becomes_of_after (ha : s.after ρ now op = some s') : s.Becomes ρ now op s' := by
  cases op with
  | view =>
    obtain rfl := Option.some.inj ha
    exact .same not_false
  | read key =>
    obtain rfl := Option.some.inj ha
    exact .same not_false
  | log kind data =>
    obtain rfl := Option.some.inj ha
    rcases s.logChange_cases now kind data with ⟨e, he⟩ | ⟨hmode, hstorage, e, he⟩ | ⟨hopen, he⟩
    · rw [he]
      exact .same not_false
    · rw [he]
      exact .numbered hmode hstorage
    · rw [he]
      exact .logged hopen
  | beginValidation =>
    obtain rfl := Option.some.inj ha
    rcases s.beginValidation_cases now with ⟨e, he⟩ | ⟨hopen, he⟩
    · rw [he]
      refine .same fun hopen => ?_
      simp only [Signals] at hopen
      simp [beginValidation, hopen] at he
    · rw [he]
      exact .opened hopen
  | recordValidation changeId passed =>
    obtain rfl := Option.some.inj ha
    rcases s.recordValidation_cases changeId passed with ⟨e, he⟩ | ⟨hphase, he⟩
    · rw [he]
      refine .same fun hphase => ?_
      simp only [Signals] at hphase
      simp [recordValidation, hphase] at he
    · rw [he]
      exact .recorded hphase
  | testRollback =>
    obtain rfl := Option.some.inj ha
    rcases s.testRollback_cases now with ⟨r, hr⟩ | ⟨copy, hstorage, hr⟩
    · rw [hr]
      exact .same not_false
    · rw [hr]
      exact .probed hstorage
  | merge report =>
    rw [after] at ha
    split at ha
    · rename_i hadmitted
      obtain ⟨hsticky, rfl⟩ := eq_of_remainder ha
      exact .merged hsticky hadmitted
    · obtain rfl := Option.some.inj ha
      exact .same not_false
  | discard =>
    rw [after] at ha
    split at ha
    · rename_i hadmitted
      obtain ⟨hsticky, rfl⟩ := eq_of_remainder ha
      exact .discarded hsticky hadmitted
    · obtain rfl := Option.some.inj ha
      exact .same not_false
  | cleanup =>
    obtain ⟨hsticky, rfl⟩ := eq_of_remainder ha
    exact .released hsticky
  | cleanupInUse =>
    rw [after] at ha
    split at ha
    · obtain rfl := Option.some.inj ha
      exact .same not_false
    · cases ha
  | loseDirectory =>
    obtain rfl := Option.some.inj ha
    exact .lost

/-- An operation leaves the snapshot alone. -/
theorem Becomes.snapshot (hb : s.Becomes ρ now op s') :
    s'.snapshot = s.snapshot ∧ s'.snapshotDigest = s.snapshotDigest := by
  cases hb with
  | logged => exact ⟨s.snapshot_logged _ _, s.snapshotDigest_logged _ _⟩
  | _ => exact ⟨rfl, rfl⟩

/-- So it does the note on what the shadow rests on. -/
theorem Becomes.degraded (hb : s.Becomes ρ now op s') : s'.degraded = s.degraded := by
  cases hb with
  | logged => exact s.degraded_logged _ _
  | _ => rfl

/-- A shadow that is registered after a sweep was spared, or its registry never drops anything. -/
theorem eq_of_afterSweep (ha : s.afterSweep ρ now = some s') :
    s' = s ∨ ρ = .sticky ∧ s' = { s with phase := .discarded, storage := none } := by
  rw [afterSweep] at ha
  split at ha
  · exact .inr (eq_of_remainder ha)
  · exact .inl (Option.some.inj ha).symm

end Shadow

namespace Host

variable {σ : Type} {h : Host σ} {id : ShadowId} {s' : Shadow}

/-- What a creation leaves under its id: a shadow of its own, or what was there before. -/
theorem get?_create_self (h : Host σ) (id : ShadowId) (config : ShadowConfig) (now : Time) :
    (h.create id config now).2.registry.get? id = h.registry.get? id ∨
    ∃ snapshot note, settleSnapshot (h.backing.snapshot h.live).1 = .ok (snapshot, note) ∧
      (h.create id config now).2.registry.get? id =
        some (h.forkOf id config now snapshot note) := by
  cases hsettle : settleSnapshot (h.backing.snapshot h.live).1 with
  | error message =>
    left
    simp only [create, hsettle]
  | ok settled =>
    obtain ⟨snapshot, note⟩ := settled
    simp only [create, hsettle, Registry.get?_insert_self]
    split
    · exact .inl rfl
    · exact .inr ⟨snapshot, note, rfl, rfl⟩

/-- **What a call can make of what is registered under an id**, if a shadow is afterwards. -/
inductive Transition (h : Host σ) (id : ShadowId) (c : Timed Call) (s' : Shadow) : Prop where
  /-- the shadow is new -/
  | forked (config : ShadowConfig) (snapshot : Snapshot) (note : Option String)
    (hcall : c.call = .create id config)
    (hsettle : settleSnapshot (h.backing.snapshot h.live).1 = .ok (snapshot, note))
    (hnew : s' = h.forkOf id config c.now snapshot note)
  /-- an operation on the shadow -/
  | acted (s : Shadow) (op : Shadow.Op) (hcall : c.call = .on id op)
    (hs : h.registry.get? id = some s) (hbecomes : s.Becomes h.registry.retention c.now op s')
  /-- a sweep found the shadow due, and its registry never drops anything -/
  | swept (s : Shadow) (hcall : c.call = .sweep) (hs : h.registry.get? id = some s)
    (hsticky : h.registry.retention = .sticky)
    (hnew : s' = { s with phase := .discarded, storage := none })
  /-- the call was about something else -/
  | kept (hcall : ∀ op, c.call ≠ .on id op) (hs : h.registry.get? id = some s')

/-- **Every shadow that is registered after a call has come about by one of the transitions.** -/
theorem transition_of_get? (c : Timed Call)
    (hs' : (operations h c).2.registry.get? id = some s') : Transition h id c s' := by
  obtain ⟨call, now⟩ := c
  cases call with
  | create i config =>
    by_cases hi : id = i
    · subst hi
      rcases h.get?_create_self id config now with hold | ⟨snapshot, note, hsettle, hnew⟩
      · exact .kept (fun op => nofun) (hold.symm.trans hs')
      · exact .forked config snapshot note rfl hsettle (Option.some.inj (hs'.symm.trans hnew))
    · refine .kept (fun op => nofun) ?_
      rw [← (h.frame_create i config now).others id (by simpa using hi)]
      exact hs'
  | on i op =>
    by_cases hi : id = i
    · subst hi
      cases hs : h.registry.get? id with
      | none =>
        have hsame : (operations h ⟨.on id op, now⟩).2 = h := act_of_none hs now op
        rw [hsame, hs] at hs'
        cases hs'
      | some s =>
        have hafter : s.after h.registry.retention now op = some s' := by
          rw [← get?_act_self hs]
          exact hs'
        exact .acted s op rfl hs (Shadow.becomes_of_after hafter)
    · refine .kept (fun op' hop => hi ?_) ?_
      · injection hop with hid
        exact hid.symm
      · rw [← (h.frame_act i now op).others id (by simpa using hi)]
        exact hs'
  | sweep =>
    have hsweep := (h.get?_sweep now id).symm.trans hs'
    obtain ⟨s, hs, hafter⟩ := Option.bind_eq_some_iff.mp hsweep
    rcases Shadow.eq_of_afterSweep hafter with rfl | ⟨hsticky, hnew⟩
    · exact .kept (fun op => nofun) hs
    · exact .swept s rfl hs hsticky hnew
  | setRoot fault => exact .kept (fun op => nofun) hs'

/-- A shadow that is registered after a call was so before, or is created by it. -/
theorem registered_of_operations (c : Timed Call)
    (hs' : (operations h c).2.registry.get? id = some s') :
    (∃ config, c.call = .create id config) ∨ ∃ s, h.registry.get? id = some s := by
  cases transition_of_get? c hs' with
  | forked config snapshot note hcall => exact .inl ⟨config, hcall⟩
  | acted s op hcall hs => exact .inr ⟨s, hs⟩
  | swept s hcall hs => exact .inr ⟨s, hs⟩
  | kept hcall hs => exact .inr ⟨s', hs⟩

/-- A call keeps how live state is copied and changed, and how the registry retains. -/
theorem frame_operations (h : Host σ) (c : Timed Call) :
    ∃ ids, Frame ids h (operations h c).2 := by
  obtain ⟨call, now⟩ := c
  cases call with
  | create i config => exact ⟨_, h.frame_create i config now⟩
  | on i op => exact ⟨_, h.frame_act i now op⟩
  | sweep => exact ⟨_, h.frame_sweep now⟩
  | setRoot fault => exact ⟨[], rfl, rfl, rfl, fun _ _ => rfl⟩

end Host

end ShadowGate
