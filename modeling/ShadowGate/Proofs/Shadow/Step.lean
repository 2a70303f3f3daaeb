import ShadowGate.Proofs.Rollback

/-!
# What a step does to a shadow

Each step on a shadow either fails and leaves it as it was, or has one effect. The lemmas here say
which, so that no later proof opens a step.

* `ensureOpen_eq_ok_iff`, `admitMerge_eq_ok_iff` — when a guard lets a shadow pass.
* `logChange_cases`, `beginValidation_cases`, `recordValidation_cases`, `testRollback_cases` — the
  ends a step can come to.
-/

namespace ShadowGate.Shadow

variable {s : Shadow} {now : Time}

/-! ## Guards -/

/-- Two guards in a row let pass what both let pass. -/
theorem guards_eq_ok_iff {ε : Type} {first second : Except ε Unit} :
    (do first; second) = .ok () ↔ first = .ok () ∧ second = .ok () := by
  cases first with
  | error e => simp [bind, Except.bind]
  | ok u => simp [bind, Except.bind]

theorem isExpired_eq_false_iff :
    s.isExpired now = false ↔ now - s.createdAt ≤ s.config.maxDuration := by
  simp [isExpired]

theorem ensureMutable_eq_ok_iff :
    s.ensureMutable now = .ok () ↔ s.phase.isTerminal = false ∧ s.isExpired now = false := by
  rw [ensureMutable]
  cases s.phase.isTerminal <;> cases s.isExpired now <;> simp

theorem ensureIdle_eq_ok_iff : s.ensureIdle = .ok () ↔ s.phase ≠ .validating := by
  rw [ensureIdle]
  by_cases h : s.phase = .validating <;> simp [h]

/-- A shadow is open for work unless it is over, expired or under validation. -/
theorem ensureOpen_eq_ok_iff :
    s.ensureOpen now = .ok () ↔
      s.phase.isTerminal = false ∧ s.isExpired now = false ∧ s.phase ≠ .validating := by
  rw [ensureOpen, guards_eq_ok_iff, ensureMutable_eq_ok_iff, ensureIdle_eq_ok_iff, and_assoc]

theorem admitReport_eq_ok_iff {r : Report} :
    admitReport r = .ok () ↔ r.isApproved = true ∧ r.rollbackSatisfied = true := by
  rw [admitReport]
  cases r.isApproved <;> cases r.rollbackSatisfied <;> simp

/-- A shadow that must be validated shows a verdict of its own, on the report's proposal. -/
theorem admitVerdict_eq_ok_iff {r : Report} :
    s.admitVerdict r = .ok () ↔
      (s.config.validationRequired = true →
        s.phase = .passed ∧ s.status = .passed ∧ s.validatedChange = some r.changeId) := by
  rw [admitVerdict]
  cases s.config.validationRequired with
  | false => simp
  | true =>
    by_cases hp : s.phase = .passed <;> by_cases hs : s.status = .passed <;>
      by_cases hc : s.validatedChange = some r.changeId <;> simp [hp, hs, hc]

/-- **The guard of a merge**, clause by clause. -/
theorem admitMerge_eq_ok_iff {r : Report} :
    s.admitMerge now r = .ok () ↔
      s.ensureOpen now = .ok () ∧ admitReport r = .ok () ∧ s.admitVerdict r = .ok () ∧
        s.isTampered = false := by
  rw [admitMerge, guards_eq_ok_iff, guards_eq_ok_iff, guards_eq_ok_iff]
  cases s.isTampered <;> simp [pure, Except.pure]

theorem admitDiscard_eq_ok_iff :
    s.admitDiscard = .ok () ↔ s.phase.isTerminal = false ∧ s.phase ≠ .validating := by
  rw [admitDiscard]
  cases s.phase.isTerminal with
  | true => simp [bind, Except.bind]
  | false => simpa using ensureIdle_eq_ok_iff

/-! ## Logging -/

/-- The private copy after a change is logged: the change is tried out in experiment mode only. -/
def storageAfter (s : Shadow) (e : ChangeEntry) : Option PrivateCopy :=
  if s.config.experimentMode then s.storage.map fun copy => copy.apply e else s.storage

/-- The shadow after a change is logged. -/
def logged (s : Shadow) (kind : String) (data : Json) : Shadow :=
  let e := s.nextEntry kind data
  { s with nextChange := s.nextChange + 1, storage := s.storageAfter e }.push e

/-- A push touches the log and the verdict only. -/
theorem push_eq (s : Shadow) (e : ChangeEntry) :
    s.push e =
      { s with
        log := s.log ++ [e]
        phase := (s.push e).phase
        status := (s.push e).status
        validatedChange := (s.push e).validatedChange } := by
  rw [push]
  split <;> rfl

/-- A push brings a shadow that is open for work back to its first phase. -/
theorem phase_push {e : ChangeEntry} (hopen : s.ensureOpen now = .ok ()) :
    (s.push e).phase = .created := by
  obtain ⟨hterminal, -, hidle⟩ := ensureOpen_eq_ok_iff.mp hopen
  rw [push]
  cases hp : s.phase <;> simp_all [Phase.isTerminal]

@[simp] theorem log_logged (s : Shadow) (kind : String) (data : Json) :
    (s.logged kind data).log = s.log ++ [s.nextEntry kind data] := by
  rw [logged, push_eq]

@[simp] theorem config_logged (s : Shadow) (kind : String) (data : Json) :
    (s.logged kind data).config = s.config := by
  rw [logged, push_eq]

@[simp] theorem storage_logged (s : Shadow) (kind : String) (data : Json) :
    (s.logged kind data).storage = s.storageAfter (s.nextEntry kind data) := by
  rw [logged, push_eq]

@[simp] theorem snapshot_logged (s : Shadow) (kind : String) (data : Json) :
    (s.logged kind data).snapshot = s.snapshot := by
  rw [logged, push_eq]

@[simp] theorem snapshotDigest_logged (s : Shadow) (kind : String) (data : Json) :
    (s.logged kind data).snapshotDigest = s.snapshotDigest := by
  rw [logged, push_eq]

@[simp] theorem nextChange_logged (s : Shadow) (kind : String) (data : Json) :
    (s.logged kind data).nextChange = s.nextChange + 1 := by
  rw [logged, push_eq]

@[simp] theorem degraded_logged (s : Shadow) (kind : String) (data : Json) :
    (s.logged kind data).degraded = s.degraded := by
  rw [logged, push_eq]

theorem phase_logged (hopen : s.ensureOpen now = .ok ()) (kind : String) (data : Json) :
    (s.logged kind data).phase = .created :=
  phase_push (s := { s with nextChange := _, storage := _ }) hopen

/-- **The ends of logging**: refused, a number used up because the private copy is gone, or one
more change in the log. -/
theorem logChange_cases (s : Shadow) (now : Time) (kind : String) (data : Json) :
    (∃ e, s.logChange now kind data = (.error e, s)) ∨
    (s.config.experimentMode = true ∧ s.storage = none ∧
      ∃ e, s.logChange now kind data = (.error e, { s with nextChange := s.nextChange + 1 })) ∨
    (s.ensureOpen now = .ok () ∧
      s.logChange now kind data = (.ok (s.nextEntry kind data), s.logged kind data)) := by
  rw [logChange]
  cases hopen : s.ensureOpen now with
  | error e => exact .inl ⟨e, rfl⟩
  | ok u =>
    cases hmode : s.config.experimentMode with
    | false =>
      refine .inr (.inr ⟨rfl, ?_⟩)
      simp only [tryOut, logged, storageAfter, hmode]
      rfl
    | true =>
      cases hstorage : s.storage with
      | none =>
        refine .inr (.inl ⟨rfl, rfl, .invalidState (.released s.id), ?_⟩)
        simp only [tryOut, hmode, hstorage, if_true]
      | some copy =>
        refine .inr (.inr ⟨rfl, ?_⟩)
        simp only [tryOut, logged, storageAfter, hmode, hstorage, if_true, Option.map_some]

/-! ## Validation -/

/-- **The ends of opening a validation.** -/
theorem beginValidation_cases (s : Shadow) (now : Time) :
    (∃ e, s.beginValidation now = (.error e, s)) ∨
    (s.ensureOpen now = .ok () ∧
      s.beginValidation now = (.ok (), { s with phase := .validating })) := by
  rw [beginValidation]
  cases hopen : s.ensureOpen now with
  | error e => exact .inl ⟨e, rfl⟩
  | ok u => exact .inr ⟨rfl, rfl⟩

theorem beginValidation_eq_ok {u : Unit} (h : (s.beginValidation now).1 = .ok u) :
    s.ensureOpen now = .ok () ∧ (s.beginValidation now).2 = { s with phase := .validating } := by
  rcases s.beginValidation_cases now with ⟨e, heq⟩ | ⟨hopen, heq⟩
  · rw [heq] at h
    cases h
  · exact ⟨hopen, by rw [heq]⟩

/-- The shadow after a validation is closed with a verdict. -/
def recorded (s : Shadow) (changeId : String) (passed : Bool) : Shadow :=
  { s with
    status := if passed then .passed else .failed
    phase := if passed then .passed else .failed
    validatedChange := some changeId }

/-- **The ends of closing a validation**: only an open one can be closed. -/
theorem recordValidation_cases (s : Shadow) (changeId : String) (passed : Bool) :
    (∃ e, s.recordValidation changeId passed = (.error e, s)) ∨
    (s.phase = .validating ∧
      s.recordValidation changeId passed =
        (.ok (if passed then .passed else .failed), s.recorded changeId passed)) := by
  rw [recordValidation]
  by_cases h : s.phase = .validating
  · rw [if_pos h]
    exact .inr ⟨h, rfl⟩
  · rw [if_neg h]
    exact .inl ⟨_, rfl⟩

theorem recordValidation_eq_ok {changeId : String} {passed : Bool} {status : Status}
    (h : (s.recordValidation changeId passed).1 = .ok status) :
    (s.recordValidation changeId passed).2 = s.recorded changeId passed := by
  rcases s.recordValidation_cases changeId passed with ⟨e, heq⟩ | ⟨-, heq⟩
  · rw [heq] at h
    cases h
  · rw [heq]

/-- **The ends of exercising the undo path**: the shadow is left as it was, but for the scratch tree
of the probe. -/
theorem testRollback_cases (s : Shadow) (now : Time) :
    (∃ r, s.testRollback now = (r, s)) ∨
    (∃ copy, s.storage = some copy ∧
      s.testRollback now = (.ok true, { s with storage := some copy.dropProbe })) := by
  rw [testRollback]
  split
  · exact .inl ⟨_, rfl⟩
  · split
    · exact .inl ⟨_, rfl⟩
    · split
      · exact .inl ⟨_, rfl⟩
      · split
        · exact .inl ⟨_, rfl⟩
        · rename_i copy hcopy
          refine .inr ⟨copy, hcopy, ?_⟩
          rw [PrivateCopy.probe_eq]

/-- A test touches nothing but the private copy. -/
theorem exists_testRollback (s : Shadow) (now : Time) :
    ∃ storage, (s.testRollback now).2 = { s with storage } := by
  rcases s.testRollback_cases now with ⟨answer, heq⟩ | ⟨copy, -, heq⟩
  · exact ⟨s.storage, by rw [heq]⟩
  · exact ⟨some copy.dropProbe, by rw [heq]⟩

end ShadowGate.Shadow
