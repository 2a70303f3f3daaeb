import ShadowGate.Proofs.Gate.Lifecycle

/-!
# Refusals

An operation that is turned down has not begun: every guard stands before the first write. The one
place where it does not is a change that gets its number before it is tried out, which goes wrong if
the private copy is gone; but the private copy of a registered shadow never is. Only the death of a
task can leave something half done.

* `ShadowError.isRefusal`, `Host.Answer.failure` — the errors by which an operation is turned down,
  and where an answer carries one.
* `Host.atomic_act`, `Host.atomic_operations` — an operation and a call succeed, die, or change
  nothing (`Host.Atomic`).
* `Gate.refusal_changes_nothing` — the theorem.
-/

namespace ShadowGate

/-- Whether an error turns an operation down: there is no such shadow, its time is over, a
validation is open, it is in no state for the operation, or its merge is not backed by a verdict. -/
def ShadowError.isRefusal : ShadowError → Bool
  | notFound _ => true
  | expired _ => true
  | busy _ => true
  | invalidState _ => true
  | validationRejected _ => true
  | _ => false

/-! ## Steps -/

namespace Shadow

variable {s : Shadow}

/-- A change is logged, or nothing happens: the number of a change is used up in vain only if the
private copy is gone. -/
theorem Sound.atomic_logChange (hs : s.Sound) (now : Time) (kind : String) (data : Json) :
    (∃ entry, (s.logChange now kind data).1 = .ok entry) ∨ (s.logChange now kind data).2 = s := by
  rcases s.logChange_cases now kind data with ⟨e, heq⟩ | ⟨-, hgone, -⟩ | ⟨-, heq⟩
  · exact .inr (by rw [heq])
  · -- the one write that comes before a guard, out of reach while the copy is there
    obtain ⟨copy, hcopy⟩ := hs.stored
    rw [hgone] at hcopy
    cases hcopy
  · exact .inl ⟨_, by rw [heq]⟩

theorem atomic_beginValidation (s : Shadow) (now : Time) :
    (∃ u, (s.beginValidation now).1 = .ok u) ∨ (s.beginValidation now).2 = s := by
  rcases s.beginValidation_cases now with ⟨e, heq⟩ | ⟨-, heq⟩
  · exact .inr (by rw [heq])
  · exact .inl ⟨(), by rw [heq]⟩

theorem atomic_recordValidation (s : Shadow) (changeId : String) (passed : Bool) :
    (∃ status, (s.recordValidation changeId passed).1 = .ok status) ∨
      (s.recordValidation changeId passed).2 = s := by
  rcases s.recordValidation_cases changeId passed with ⟨e, heq⟩ | ⟨-, heq⟩
  · exact .inr (by rw [heq])
  · exact .inl ⟨_, by rw [heq]⟩

theorem atomic_testRollback (s : Shadow) (now : Time) :
    (∃ ready, (s.testRollback now).1 = .ok ready) ∨ (s.testRollback now).2 = s := by
  rcases s.testRollback_cases now with ⟨r, heq⟩ | ⟨copy, -, heq⟩
  · exact .inr (by rw [heq])
  · exact .inl ⟨true, by rw [heq]⟩

end Shadow

/-! ## Hosts -/

namespace Host

variable {σ α : Type} {h : Host σ} {id : ShadowId} {s : Shadow} {now : Time}

/-- The error that an answer carries. -/
def Answer.failure : Answer → Option ShadowError
  | .created (.error e) => some e
  | .logged (.error e) => some e
  | .opened (.error e) => some e
  | .recorded (.error e) => some e
  | .tested (.error e) => some e
  | .merged (.error e) => some e
  | .discarded (.error e) => some e
  | _ => none

/-- A call succeeded, its task died, or it changed nothing. -/
def Atomic (h : Host σ) (result : Answer × Host σ) : Prop :=
  result.1.failure = none ∨ (∃ message, result.1.failure = some (.crashed message)) ∨ result.2 = h

/-- A step on a registered shadow that succeeds or leaves the shadow as it was. -/
theorem atomic_onShadow (hs : h.registry.get? id = some s)
    (step : Shadow → Except ShadowError α × Shadow)
    (hstep : (∃ a, (step s).1 = .ok a) ∨ (step s).2 = s) (answer : Except ShadowError α → Answer)
    (hanswer : ∀ a, (answer (.ok a)).failure = none) :
    h.Atomic ((h.onShadow id step).map answer fun h => h) := by
  rcases hstep with ⟨a, hok⟩ | hkept
  · refine .inl ?_
    rw [Prod.map_fst, answer_onShadow hs, hok]
    exact hanswer a
  · exact .inr (.inr (onShadow_of_kept hs hkept))

/-- A merge dies only with its replay, and its guard stands before that. -/
theorem atomic_merge (hs : h.registry.get? id = some s) (report : Report) (now : Time) :
    h.Atomic ((h.merge id report now).map .merged fun h => h) := by
  cases hadmitted : s.admitMerge now report with
  | error e => exact .inr (.inr (congrArg Prod.snd (merge_of_refused hs hadmitted)))
  | ok u =>
    have hmerge := congrArg Prod.fst (merge_of_admitted hs hadmitted)
    cases hreplay : (h.backing.replay s.log h.live).1 with
    | error message =>
      refine .inr (.inl ⟨message, ?_⟩)
      rw [Prod.map_fst, hmerge]
      simp only [hreplay, Answer.failure]
    | ok trail =>
      refine .inl ?_
      rw [Prod.map_fst, hmerge]
      simp only [hreplay, Answer.failure]

theorem atomic_discard (hs : h.registry.get? id = some s) :
    h.Atomic ((h.discard id).map .discarded fun h => h) := by
  cases hadmitted : s.admitDiscard with
  | error e => exact .inr (.inr (congrArg Prod.snd (discard_of_refused hs hadmitted)))
  | ok u =>
    rw [discard_of_admitted hs hadmitted]
    exact .inl rfl

/-- **An operation on a sound shadow** succeeds, dies, or changes nothing. -/
theorem atomic_act (hs : h.registry.get? id = some s) (hsound : s.Sound) (now : Time)
    (op : Shadow.Op) : h.Atomic (h.act id now op) := by
  cases op with
  | view => exact .inl rfl
  | read key => exact .inl rfl
  | log kind data =>
    exact atomic_onShadow hs _ (hsound.atomic_logChange now kind data) _ fun _ => rfl
  | beginValidation =>
    exact atomic_onShadow hs _ (s.atomic_beginValidation now) _ fun _ => rfl
  | recordValidation changeId passed =>
    exact atomic_onShadow hs _ (s.atomic_recordValidation changeId passed) _ fun _ => rfl
  | testRollback => exact atomic_onShadow hs _ (s.atomic_testRollback now) _ fun _ => rfl
  | merge report => exact atomic_merge hs report now
  | discard => exact atomic_discard hs
  | cleanup => exact .inl rfl
  | cleanupInUse => exact .inl rfl
  | loseDirectory => exact .inl rfl

/-- **A call of a host with sound shadows** succeeds, dies, or changes nothing. -/
theorem atomic_operations (hsound : h.Sound) (c : Timed Call) : h.Atomic (operations h c) := by
  obtain ⟨call, now⟩ := c
  cases call with
  | create id config =>
    simp only [operations, create]
    cases settleSnapshot (h.backing.snapshot h.live).1 with
    | error message => exact .inr (.inl ⟨message, rfl⟩)
    | ok settled => exact .inl rfl
  | on id op =>
    cases hs : h.registry.get? id with
    | none => exact .inr (.inr (act_of_none hs now op))
    | some s => exact atomic_act hs (hsound id s hs) now op
  | sweep => exact .inl rfl
  | setRoot fault => exact .inl rfl

/-- **A refused call changes nothing.** -/
theorem Atomic.of_refusal {result : Answer × Host σ} (hr : h.Atomic result) {e : ShadowError}
    (he : result.1.failure = some e) (hrefusal : e.isRefusal = true) : result.2 = h := by
  rcases hr with hnone | ⟨message, hdied⟩ | hkept
  · rw [hnone] at he
    cases he
  · rw [hdied] at he
    obtain rfl := Option.some.inj he
    cases hrefusal
  · exact hkept

/-- A validation that cannot be opened changes nothing. -/
theorem beginValidation_of_error {e : ShadowError} (he : (h.beginValidation id now).1 = .error e) :
    h.beginValidation id now = (.error e, h) := by
  refine Prod.ext he ?_
  cases hs : h.registry.get? id with
  | none => simp only [beginValidation, onShadow, hs]
  | some s =>
    rcases s.atomic_beginValidation now with ⟨u, hok⟩ | hkept
    · rw [beginValidation, answer_onShadow hs, hok] at he
      cases he
    · exact onShadow_of_kept hs hkept

end Host

/-! ## Gates -/

namespace Gate

variable {σ ω : Type} {act : ω → σ → σ} {g : Gate σ}

/-- **A refusal changes nothing.** In every gate that a run can lead to, over a registry that drops
what is removed: a call of its host that is answered by a refusal leaves the host as it was, with
every shadow and live state; and validating a shadow whose validation cannot be opened leaves the
whole gate as it was, with its ledger. -/
theorem refusal_changes_nothing {backing : Backing σ} {retention : Retention}
    (hg : Reached act backing retention g) (hdrops : retention ≠ .sticky) :
    (∀ c e, (Host.operations g.host c).1.failure = some e → e.isRefusal = true →
      (Host.operations g.host c).2 = g.host) ∧
    ∀ id p criteria now e, (g.host.beginValidation id now).1 = .error e →
      g.validateShadow id p criteria now = (.error e, g) := by
  have hsound : g.host.Sound := (hg.sound hdrops).1
  constructor
  · intro c e he hrefusal
    exact (Host.atomic_operations hsound c).of_refusal he hrefusal
  · intro id p criteria now e he
    simp only [validateShadow, Host.beginValidation_of_error he]

/-- While a validation of the sample shadow is open, no change is logged into it and no other
validation is opened, and neither attempt changes anything. -/
theorem open_validation_refuses_and_keeps :
    ∃ g, Reached Store.write Store.backing .exact g ∧
      (g.host.log Host.sampleId 3 "tuning" .null).1 = .error (.busy Host.sampleId) ∧
      (g.host.log Host.sampleId 3 "tuning" .null).2 = g.host ∧
      ∀ p criteria, g.validateShadow Host.sampleId p criteria 3 =
        (.error (.busy Host.sampleId), g) := by
  have hg : Reached Store.write Store.backing .exact
      ((operations Store.write).run sampleGate (sampleCalls.take 3)) := ⟨_, _, _, _, _, rfl⟩
  obtain ⟨hcalls, hvalidate⟩ := refusal_changes_nothing hg (by decide)
  refine ⟨_, hg, rfl, ?_, fun p criteria => hvalidate _ p criteria 3 _ rfl⟩
  exact hcalls ⟨.on Host.sampleId (.log "tuning" .null), 3⟩ _ rfl rfl

end Gate

end ShadowGate
