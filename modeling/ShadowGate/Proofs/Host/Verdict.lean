import ShadowGate.Proofs.Host.Transition
import ShadowGate.Proofs.Replay

/-!
# Fresh verdicts

A shadow that must be validated is merged on the strength of its own last verdict, and with the log
that was validated. The argument is about histories: a shadow that stands at *validating* has an
opening behind it, a shadow that stands at *passed* has an opening and then a closing behind it, and
since then neither has happened again and nothing was logged.

* `Host.Opens`, `Host.Closes`, `Host.Quiet` — what an event does to the validation of a shadow.
* `Host.UnderValidation`, `Host.Approved` — what a history says of a log.
* `Host.Traced` — **the invariant**: the phase of a shadow is backed by the history.
  `Host.traced_step` is one call, `Host.traced_run` a run.
* `Host.merge_is_of_validated_log` — the theorem.
-/

namespace ShadowGate.Host

variable {σ : Type} {h : Host σ} {id : ShadowId} {s s' : Shadow} {log : List ChangeEntry}
  {changeId : String} {past : List (Event (Host σ) (Timed Call) Answer)}
  {e : Event (Host σ) (Timed Call) Answer}

/-! ## Events -/

/-- The event opens a validation of a shadow. -/
def Opens (id : ShadowId) (e : Event (Host σ) (Timed Call) Answer) : Prop :=
  e.call.call = .on id .beginValidation ∧ e.answer = .opened (.ok ())

/-- The event closes a validation of a shadow with a verdict on a proposal. -/
def Closes (id : ShadowId) (changeId : String) (passed : Bool)
    (e : Event (Host σ) (Timed Call) Answer) : Prop :=
  e.call.call = .on id (.recordValidation changeId passed) ∧
    ∃ status, e.answer = .recorded (.ok status)

/-- The event neither opens nor closes a validation of a shadow. -/
def Quiet (id : ShadowId) (e : Event (Host σ) (Timed Call) Answer) : Prop :=
  ¬ Opens id e ∧ ∀ changeId passed, ¬ Closes id changeId passed e

/-- A call that is not an operation on the shadow is quiet. -/
theorem quiet_of_call_ne {c : Timed Call} (hcall : ∀ op, c.call ≠ .on id op) :
    Quiet id (operations.event h c) :=
  ⟨fun hopens => hcall _ hopens.1, fun _ _ hcloses => hcall _ hcloses.1⟩

/-- An operation that signals nothing is quiet. -/
theorem quiet_of_not_signals {c : Timed Call} {op : Shadow.Op} (hcall : c.call = .on id op)
    (hs : h.registry.get? id = some s) (hquiet : ¬ s.Signals c.now op) :
    Quiet id (operations.event h c) := by
  obtain ⟨call, now⟩ := c
  subst hcall
  constructor
  · rintro ⟨hop, hanswer⟩
    injection hop with _ hop
    subst hop
    have hok : (h.beginValidation id now).1 = .ok () := by injection hanswer
    rw [beginValidation, answer_onShadow hs] at hok
    rcases s.beginValidation_cases now with ⟨e, he⟩ | ⟨hopen, -⟩
    · rw [he] at hok
      cases hok
    · exact hquiet hopen
  · rintro changeId passed ⟨hop, status, hanswer⟩
    injection hop with _ hop
    subst hop
    have hok : (h.recordValidation id changeId passed).1 = .ok status := by injection hanswer
    rw [recordValidation, answer_onShadow hs] at hok
    rcases s.recordValidation_cases changeId passed with ⟨e, he⟩ | ⟨hphase, -⟩
    · rw [he] at hok
      cases hok
    · exact hquiet hphase

theorem opens_of_signals {c : Timed Call} (hcall : c.call = .on id .beginValidation)
    (hs : h.registry.get? id = some s) (hopen : s.ensureOpen c.now = .ok ()) :
    Opens id (operations.event h c) := by
  obtain ⟨call, now⟩ := c
  subst hcall
  have hok : (h.beginValidation id now).1 = .ok () := by
    rw [beginValidation, answer_onShadow hs, Shadow.beginValidation, hopen]
  exact ⟨rfl, congrArg Answer.opened hok⟩

theorem closes_of_signals {c : Timed Call} {passed : Bool}
    (hcall : c.call = .on id (.recordValidation changeId passed))
    (hs : h.registry.get? id = some s) (hphase : s.phase = .validating) :
    Closes id changeId passed (operations.event h c) := by
  obtain ⟨call, now⟩ := c
  subst hcall
  have hok : (h.recordValidation id changeId passed).1 =
      .ok (if passed then .passed else .failed) := by
    rw [recordValidation, answer_onShadow hs, Shadow.recordValidation, if_pos hphase]
  exact ⟨rfl, _, congrArg Answer.recorded hok⟩

/-! ## Histories -/

/-- The history opens a validation of a shadow with this log, and nothing has opened or closed one
since. -/
def UnderValidation (id : ShadowId) (log : List ChangeEntry)
    (past : List (Event (Host σ) (Timed Call) Answer)) : Prop :=
  ∃ before opening since, past = before ++ opening :: since ∧ Opens id opening ∧
    (∀ e ∈ since, Quiet id e) ∧ ∃ s, opening.before.registry.get? id = some s ∧ s.log = log

/-- The history closes a validation of this log with the approval of a proposal, and nothing has
opened or closed one since. -/
def Approved (id : ShadowId) (log : List ChangeEntry) (changeId : String)
    (past : List (Event (Host σ) (Timed Call) Answer)) : Prop :=
  ∃ before closing since, past = before ++ closing :: since ∧ Closes id changeId true closing ∧
    (∀ e ∈ since, Quiet id e) ∧ UnderValidation id log before

/-- Quiet events stay quiet when one more follows. -/
theorem quiet_concat {since : List (Event (Host σ) (Timed Call) Answer)}
    (hsince : ∀ e ∈ since, Quiet id e) (he : Quiet id e) : ∀ e' ∈ since ++ [e], Quiet id e' := by
  intro e' he'
  rcases List.mem_append.mp he' with hmem | hmem
  · exact hsince e' hmem
  · rw [List.mem_singleton.mp hmem]
    exact he

theorem UnderValidation.concat (hu : UnderValidation id log past) (he : Quiet id e) :
    UnderValidation id log (past ++ [e]) := by
  obtain ⟨before, opening, since, rfl, hopens, hsince, hlog⟩ := hu
  exact ⟨before, opening, since ++ [e], by simp, hopens, quiet_concat hsince he, hlog⟩

theorem Approved.concat (ha : Approved id log changeId past) (he : Quiet id e) :
    Approved id log changeId (past ++ [e]) := by
  obtain ⟨before, closing, since, rfl, hcloses, hsince, hlog⟩ := ha
  exact ⟨before, closing, since ++ [e], by simp, hcloses, quiet_concat hsince he, hlog⟩

/-! ## The invariant -/

/-- The phase of a shadow is backed by the history. -/
structure Traced (id : ShadowId) (past : List (Event (Host σ) (Timed Call) Answer)) (s : Shadow) :
    Prop where
  /-- a shadow under validation still has the log of the opening -/
  validating : s.phase = .validating → UnderValidation id s.log past
  /-- a shadow that passed still has the log of the opening, and the verdict of the closing -/
  passed : s.phase = .passed →
    ∃ changeId, s.validatedChange = some changeId ∧ Approved id s.log changeId past

/-- In every other phase there is nothing to back. -/
theorem Traced.of_phase (phase : Phase) (hphase : s.phase = phase) (hv : phase ≠ .validating)
    (hp : phase ≠ .passed) : Traced id past s :=
  ⟨fun h => absurd (hphase.symm.trans h) hv, fun h => absurd (hphase.symm.trans h) hp⟩

/-- A quiet event keeps what is backed, if phase, log and verdict stay. -/
theorem Traced.concat (ht : Traced id past s) (he : Quiet id e) (hphase : s'.phase = s.phase)
    (hlog : s'.log = s.log) (hverdict : s'.validatedChange = s.validatedChange) :
    Traced id (past ++ [e]) s' where
  validating h := by
    rw [hlog]
    exact (ht.validating (hphase ▸ h)).concat he
  passed h := by
    obtain ⟨changeId, hchange, happroved⟩ := ht.passed (hphase ▸ h)
    rw [hlog, hverdict]
    exact ⟨changeId, hchange, happroved.concat he⟩

/-- **One operation** keeps what is backed. -/
theorem traced_act {c : Timed Call} {op : Shadow.Op} (hcall : c.call = .on id op)
    (hs : h.registry.get? id = some s) (ht : Traced id past s)
    (hb : s.Becomes h.registry.retention c.now op s') :
    Traced id (past ++ [operations.event h c]) s' := by
  have hquiet := quiet_of_not_signals (h := h) hcall hs
  cases hb with
  | same hq => exact ht.concat (hquiet hq) rfl rfl rfl
  | logged hopen =>
    -- back to the first phase, where there is nothing to back
    exact Traced.of_phase .created (Shadow.phase_logged hopen _ _) (by decide) (by decide)
  | numbered => exact ht.concat (hquiet not_false) rfl rfl rfl
  | opened hopen =>
    refine ⟨fun _ => ?_, Phase.noConfusion⟩
    exact ⟨past, _, [], rfl, opens_of_signals hcall hs hopen, by simp, s, hs, rfl⟩
  | @recorded changeId passed hphase =>
    cases passed with
    | false => exact Traced.of_phase .failed rfl (by decide) (by decide)
    | true =>
      -- the closing follows the opening that backed the phase before
      refine ⟨Phase.noConfusion, fun _ => ⟨changeId, rfl, ?_⟩⟩
      exact ⟨past, _, [], rfl, closes_of_signals hcall hs hphase, by simp, ht.validating hphase⟩
  | probed => exact ht.concat (hquiet not_false) rfl rfl rfl
  | merged => exact Traced.of_phase .merged rfl (by decide) (by decide)
  | discarded => exact Traced.of_phase .discarded rfl (by decide) (by decide)
  | released => exact ht.concat (hquiet not_false) rfl rfl rfl
  | lost => exact ht.concat (hquiet not_false) rfl rfl rfl

/-- **One call** keeps what is backed, for every shadow. -/
theorem traced_step (past : List (Event (Host σ) (Timed Call) Answer)) (h : Host σ)
    (c : Timed Call) (ht : ∀ id s, h.registry.get? id = some s → Traced id past s) :
    ∀ id s, (operations h c).2.registry.get? id = some s →
      Traced id (past ++ [operations.event h c]) s := by
  intro id s' hs'
  cases transition_of_get? c hs' with
  | forked config snapshot note hcall hsettle hnew =>
    subst hnew
    exact Traced.of_phase .created rfl (by decide) (by decide)
  | acted s op hcall hs hb => exact traced_act hcall hs (ht id s hs) hb
  | swept s hcall hs hsticky hnew =>
    subst hnew
    exact Traced.of_phase .discarded rfl (by decide) (by decide)
  | kept hcall hs => exact (ht id s' hs).concat (quiet_of_call_ne hcall) rfl rfl rfl

/-- **A run** backs the phase of every shadow. -/
theorem traced_run (backing : Backing σ) (live : σ) (settings : Settings) (retention : Retention)
    (calls : List (Timed Call)) {id : ShadowId} {s : Shadow}
    (hs : (operations.run (start backing live settings retention) calls).registry.get? id =
      some s) :
    Traced id (operations.history (start backing live settings retention) calls) s := by
  have hstart : ∀ id s, (start backing live settings retention).registry.get? id = some s →
      Traced id ([] : List (Event (Host σ) (Timed Call) Answer)) s := by
    intro id s hnone
    cases hnone
  exact operations.history_invariant
    (P := fun past h => ∀ id s, h.registry.get? id = some s → Traced id past s)
    traced_step calls hstart id s hs

/-! ## Merges -/

/-- A merge that went well was admitted; its trail names the log's changes, and live state is what
the replay of the log left. -/
theorem merge_eq_ok {report : Report} {now : Time} {m : MergeResult}
    (hs : h.registry.get? id = some s) (hm : (h.merge id report now).1 = .ok m) :
    s.admitMerge now report = .ok () ∧
    m.auditTrail.map AuditEntry.outline = s.log.map ChangeEntry.outline ∧
    (h.merge id report now).2.live = (h.backing.replay s.log h.live).2 := by
  cases hadmitted : s.admitMerge now report with
  | error e =>
    rw [merge_of_refused hs hadmitted] at hm
    cases hm
  | ok u =>
    refine ⟨rfl, ?_, live_merge_of_admitted hs hadmitted⟩
    rw [merge_of_admitted hs hadmitted] at hm
    simp only at hm
    split at hm
    · cases hm
    · rename_i trail htrail
      obtain rfl := Except.ok.inj hm
      exact h.backing.outline_of_replay htrail

/-- **A merge is of the validated log.** In every run, a shadow that must be validated is merged
only if the last validation of it that was closed was closed with the approval of the report's proposal
and none was opened since; and what is merged is the log that the shadow had when that validation
was opened. -/
theorem merge_is_of_validated_log (backing : Backing σ) (live : σ) (settings : Settings)
    (retention : Retention) (calls : List (Timed Call)) {h : Host σ} {id : ShadowId} {s : Shadow}
    {report : Report} {now : Time} {m : MergeResult}
    (hrun : h = operations.run (start backing live settings retention) calls)
    (hs : h.registry.get? id = some s) (hrequired : s.config.validationRequired = true)
    (hmerge : (h.merge id report now).1 = .ok m) :
    ∃ before opening between closing since,
      operations.history (start backing live settings retention) calls =
        before ++ opening :: (between ++ closing :: since) ∧
      Opens id opening ∧ (∀ e ∈ between, Quiet id e) ∧
      Closes id report.changeId true closing ∧ (∀ e ∈ since, Quiet id e) ∧
      ∃ opened : Shadow, opening.before.registry.get? id = some opened ∧ s.log = opened.log ∧
        m.auditTrail.map AuditEntry.outline = opened.log.map ChangeEntry.outline ∧
        (h.merge id report now).2.live = (h.backing.replay opened.log h.live).2 := by
  subst hrun
  obtain ⟨hadmitted, htrail, hlive⟩ := merge_eq_ok hs hmerge
  obtain ⟨-, -, hverdict, -⟩ := Shadow.admitMerge_eq_ok_iff.mp hadmitted
  obtain ⟨hphase, -, hchange⟩ := Shadow.admitVerdict_eq_ok_iff.mp hverdict hrequired
  obtain ⟨changeId, hchange', happroved⟩ := (traced_run _ _ _ _ _ hs).passed hphase
  obtain rfl : report.changeId = changeId := Option.some.inj (hchange.symm.trans hchange')
  obtain ⟨validated, closing, since, hpast, hcloses, hsince, hunder⟩ := happroved
  obtain ⟨before, opening, between, rfl, hopens, hbetween, opened, hopened, hlog⟩ := hunder
  refine ⟨before, opening, between, closing, since, ?_, hopens, hbetween, hcloses, hsince, opened,
    hopened, hlog.symm, ?_, ?_⟩
  · rw [hpast, List.append_assoc, List.cons_append]
  · rw [htrail, hlog]
  · rw [hlive, hlog]

/-- The sample run ends with a shadow that must be validated and can be merged. -/
theorem merge_of_sample_is_of_validated_log :
    ∃ s m, (operations.run sampleHost sampleCalls).registry.get? sampleId = some s ∧
      s.config.validationRequired = true ∧
      ((operations.run sampleHost sampleCalls).merge sampleId sampleReport 4).1 = .ok m ∧
      ∃ before opening between closing since,
        operations.history sampleHost sampleCalls =
          before ++ opening :: (between ++ closing :: since) ∧
        Opens sampleId opening ∧ Closes sampleId "p" true closing ∧
        ∃ opened : Shadow, opening.before.registry.get? sampleId = some opened ∧
          m.auditTrail.map AuditEntry.outline = opened.log.map ChangeEntry.outline := by
  obtain ⟨s, hs, hrequired⟩ :
      ∃ s, (operations.run sampleHost sampleCalls).registry.get? sampleId = some s ∧
        s.config.validationRequired = true := ⟨_, rfl, rfl⟩
  obtain ⟨m, hm⟩ :
      ∃ m, ((operations.run sampleHost sampleCalls).merge sampleId sampleReport 4).1 = .ok m :=
    ⟨_, rfl⟩
  obtain ⟨before, opening, between, closing, since, hpast, hopens, -, hcloses, -, opened, hopened,
    -, htrail, -⟩ :=
    merge_is_of_validated_log Store.backing {} {} .exact sampleCalls rfl hs hrequired hm
  exact ⟨s, m, hs, hrequired, hm, before, opening, between, closing, since, hpast, hopens, hcloses,
    opened, hopened, htrail⟩

end ShadowGate.Host
