import ShadowGate.Proofs.Host.Transition
import ShadowGate.Proofs.OwnKey

/-!
# The life of a shadow

Where a shadow stands, how its last validation ended and which proposal that was about are three
fields, written in different places. In a registry that drops what is removed they always fit
together: only a verdict sets status and proposal, only a new change voids them, and opening another
validation leaves them alone. The log and the numbers of its changes grow in step, because a number
is used up without a change only if the private copy is gone, and while a shadow is registered it
never is. A registry that ignores removals breaks all of this: it still lists shadows that are over.

* `Shadow.Sound` — **the invariant** of a registered shadow. `Shadow.Sound.becomes` is one
  operation, `Host.sound_operations` one call of a host.
* `Host.Removes` — the calls and answers that take a shadow off the registry, and
  `Host.removed_of_removes`.
* `Host.Gone` — nothing is registered under an id, and every operation says so.
-/

namespace ShadowGate

/-! ## The invariant -/

/-- **A sound shadow.** -/
structure Shadow.Sound (s : Shadow) : Prop where
  /-- it is neither merged nor discarded -/
  phase : s.phase = .created ∨ s.phase = .validating ∨ s.phase = .passed ∨ s.phase = .failed
  /-- at first there is no verdict -/
  created : s.phase = .created → s.status = .pending ∧ s.validatedChange = none
  /-- while a validation is open, the verdict before it is still there, if there was one -/
  validating : s.phase = .validating → (s.status = .pending ↔ s.validatedChange = none)
  /-- a shadow that passed has the verdict on a proposal -/
  passed : s.phase = .passed →
    s.status = .passed ∧ ∃ changeId, s.validatedChange = some changeId
  /-- so has a shadow that failed -/
  failed : s.phase = .failed →
    s.status = .failed ∧ ∃ changeId, s.validatedChange = some changeId
  /-- the changes of the log are numbered from one on -/
  numbered : Numbered s.log
  /-- the next change gets the next number -/
  next : s.nextChange = s.log.length + 1
  /-- the snapshot has the digest it was taken with -/
  intact : s.snapshot.digest = s.snapshotDigest
  /-- the private copy is there -/
  stored : ∃ copy, s.storage = some copy

namespace Shadow

variable {s s' : Shadow} {ρ : Retention} {now : Time} {op : Shadow.Op}

namespace Sound

theorem isTerminal_eq_false (hs : s.Sound) : s.phase.isTerminal = false := by
  rcases hs.phase with hp | hp | hp | hp <;> rw [hp] <;> rfl

/-- In every phase, a status is pending exactly if there is no verdict. -/
theorem pending_iff (hs : s.Sound) : s.status = .pending ↔ s.validatedChange = none := by
  rcases hs.phase with hp | hp | hp | hp
  · simp [hs.created hp]
  · exact hs.validating hp
  · obtain ⟨hstatus, changeId, hchange⟩ := hs.passed hp
    simp [hstatus, hchange]
  · obtain ⟨hstatus, changeId, hchange⟩ := hs.failed hp
    simp [hstatus, hchange]

theorem not_isTampered (hs : s.Sound) : s.isTampered = false := by
  simp [isTampered, snapshotIntact, hs.intact]

/-- **A logged change leaves no verdict**: it voids the last one, or there was none. -/
theorem verdict_logged (hs : s.Sound) (hopen : s.ensureOpen now = .ok ()) (kind : String)
    (data : Json) :
    (s.logged kind data).status = .pending ∧ (s.logged kind data).validatedChange = none := by
  obtain ⟨-, -, hidle⟩ := ensureOpen_eq_ok_iff.mp hopen
  rw [logged, push]
  split
  · exact ⟨rfl, rfl⟩
  · rename_i hnone
    obtain ⟨hpassed, hfailed⟩ := not_or.mp hnone
    rcases hs.phase with hp | hp | hp | hp
    · exact hs.created hp
    · exact absurd hp hidle
    · exact absurd hp hpassed
    · exact absurd hp hfailed

/-- In the first phase there is no verdict, and nothing to say of the other phases. -/
theorem of_created (hphase : s.phase = .created)
    (hverdict : s.status = .pending ∧ s.validatedChange = none) (hnumbered : Numbered s.log)
    (hnext : s.nextChange = s.log.length + 1) (hintact : s.snapshot.digest = s.snapshotDigest)
    (hstored : ∃ copy, s.storage = some copy) : s.Sound where
  phase := .inl hphase
  created _ := hverdict
  validating hp := by
    rw [hphase] at hp
    cases hp
  passed hp := by
    rw [hphase] at hp
    cases hp
  failed hp := by
    rw [hphase] at hp
    cases hp
  numbered := hnumbered
  next := hnext
  intact := hintact
  stored := hstored

/-- **A logged change** gets the next number. -/
theorem logged (hs : s.Sound) (hopen : s.ensureOpen now = .ok ()) (kind : String) (data : Json) :
    (s.logged kind data).Sound := by
  refine of_created (phase_logged hopen kind data) (hs.verdict_logged hopen kind data) ?_ ?_ ?_ ?_
  · rw [log_logged]
    exact hs.numbered.concat hs.next
  · simp [hs.next]
  · simpa using hs.intact
  · obtain ⟨copy, hcopy⟩ := hs.stored
    rw [storage_logged, storageAfter, hcopy]
    split
    · exact ⟨_, rfl⟩
    · exact ⟨copy, rfl⟩

/-- **An opened validation** leaves the verdict before it alone. -/
theorem opened (hs : s.Sound) : Sound { s with phase := .validating } :=
  { hs with
    phase := .inr (.inl rfl)
    created := nofun
    validating := fun _ => hs.pending_iff
    passed := nofun
    failed := nofun }

/-- **A closed validation** leaves a verdict. -/
theorem recorded (hs : s.Sound) (changeId : String) (passed : Bool) :
    (s.recorded changeId passed).Sound := by
  cases passed with
  | true =>
    exact { hs with
      phase := .inr (.inr (.inl rfl))
      created := nofun
      validating := nofun
      passed := fun _ => ⟨rfl, changeId, rfl⟩
      failed := nofun }
  | false =>
    exact { hs with
      phase := .inr (.inr (.inr rfl))
      created := nofun
      validating := nofun
      passed := nofun
      failed := fun _ => ⟨rfl, changeId, rfl⟩ }

/-- **One operation** keeps a shadow sound, if its registry drops what is removed. -/
theorem becomes (hs : s.Sound) (hdrops : ρ ≠ .sticky) (hb : s.Becomes ρ now op s') : s'.Sound := by
  obtain ⟨copy, hcopy⟩ := hs.stored
  cases hb with
  | same => exact hs
  | logged hopen => exact hs.logged hopen _ _
  | numbered hmode hstorage =>
    -- a number without a change: only if the copy is gone, and it is there
    rw [hcopy] at hstorage
    cases hstorage
  | opened => exact hs.opened
  | recorded => exact hs.recorded _ _
  | probed => exact { hs with stored := ⟨_, rfl⟩ }
  | merged hsticky => exact absurd hsticky hdrops
  | discarded hsticky => exact absurd hsticky hdrops
  | released hsticky => exact absurd hsticky hdrops
  | lost => exact { hs with stored := ⟨_, congrArg (Option.map _) hcopy⟩ }

end Sound

end Shadow

/-! ## Hosts -/

namespace Host

variable {σ : Type} {h : Host σ} {id : ShadowId} {s : Shadow} {now : Time}

/-- Every registered shadow is sound. -/
def Sound (h : Host σ) : Prop := ∀ id s, h.registry.get? id = some s → s.Sound

theorem sound_forkOf (h : Host σ) (id : ShadowId) (config : ShadowConfig) (now : Time)
    (snapshot : Snapshot) (note : Option String) :
    (h.forkOf id config now snapshot note).Sound :=
  .of_created rfl ⟨rfl, rfl⟩ numbered_nil rfl rfl ⟨_, rfl⟩

/-- **One call** keeps every shadow sound, if the registry drops what is removed. -/
theorem sound_operations (hdrops : h.registry.retention ≠ .sticky) (c : Timed Call)
    (hh : h.Sound) : (operations h c).2.Sound := by
  intro id s' hs'
  cases transition_of_get? c hs' with
  | forked config snapshot note hcall hsettle hnew =>
    subst hnew
    exact h.sound_forkOf ..
  | acted s op hcall hs hbecomes => exact (hh id s hs).becomes hdrops hbecomes
  | swept s hcall hs hsticky => exact absurd hsticky hdrops
  | kept hcall hs => exact hh id s' hs

/-! ## The end of a shadow -/

/-- **The calls and answers that take a shadow off the registry.** -/
inductive Removes (id : ShadowId) : Call → Answer → Prop where
  /-- it was merged -/
  | merged (report : Report) (m : MergeResult) :
    Removes id (.on id (.merge report)) (.merged (.ok m))
  /-- it was discarded -/
  | discarded (insights : List Insight) : Removes id (.on id .discard) (.discarded (.ok insights))
  /-- it was cleaned up, and had not been before -/
  | cleaned (report : CleanupReport) (hfirst : report.alreadyCleaned = false) :
    Removes id (.on id .cleanup) (.cleaned report)
  /-- the same, while another operation did not end in time -/
  | cleanedInUse (report : CleanupReport) (hfirst : report.alreadyCleaned = false) :
    Removes id (.on id .cleanupInUse) (.cleaned report)
  /-- a sweep discarded it -/
  | swept (lines : List (ShadowId × List Insight)) (insights : List Insight)
    (hline : (id, insights) ∈ lines) : Removes id .sweep (.swept lines)

theorem remainder_of_drops (hdrops : h.registry.retention ≠ .sticky) (s : Shadow) :
    h.registry.retention.remainder s = none := by
  rw [Retention.remainder, if_neg hdrops]

/-- A merge that went well was of a registered shadow, which is registered no longer. -/
theorem removed_of_merge (hdrops : h.registry.retention ≠ .sticky) {report : Report}
    {m : MergeResult} (hm : (h.merge id report now).1 = .ok m) :
    (∃ s, h.registry.get? id = some s) ∧ (h.merge id report now).2.registry.get? id = none := by
  cases hs : h.registry.get? id with
  | none =>
    simp only [merge, hs] at hm
    cases hm
  | some s =>
    refine ⟨⟨s, rfl⟩, ?_⟩
    cases hadmitted : s.admitMerge now report with
    | error e =>
      rw [merge_of_refused hs hadmitted] at hm
      cases hm
    | ok u =>
      rw [get?_merge_self hs, Shadow.after, hadmitted]
      exact remainder_of_drops hdrops _

/-- The same of a discard. -/
theorem removed_of_discard (hdrops : h.registry.retention ≠ .sticky) {insights : List Insight}
    (hd : (h.discard id).1 = .ok insights) :
    (∃ s, h.registry.get? id = some s) ∧ (h.discard id).2.registry.get? id = none := by
  cases hs : h.registry.get? id with
  | none =>
    simp only [discard, hs] at hd
    cases hd
  | some s =>
    refine ⟨⟨s, rfl⟩, ?_⟩
    cases hadmitted : s.admitDiscard with
    | error e =>
      rw [discard_of_refused hs hadmitted] at hd
      cases hd
    | ok u =>
      rw [get?_discard_self hs 0, Shadow.after, hadmitted]
      exact remainder_of_drops hdrops _

/-- The same of a shadow that a sweep names. -/
theorem removed_of_sweep (hdrops : h.registry.retention ≠ .sticky) {insights : List Insight}
    (hline : (id, insights) ∈ (h.sweep now).1) :
    (∃ s, h.registry.get? id = some s) ∧ (h.sweep now).2.registry.get? id = none := by
  have hown : (id, insights) ∈ h.sweepLine now id := by
    rw [← sweep_answer_at]
    exact List.mem_filter.mpr ⟨hline, by simp⟩
  rw [sweepLine] at hown
  cases hs : h.registry.get? id with
  | none =>
    rw [hs] at hown
    cases hown
  | some s =>
    refine ⟨⟨s, rfl⟩, ?_⟩
    rw [hs] at hown
    cases hswept : s.isSwept now with
    | false => simp [hswept] at hown
    | true =>
      rw [get?_sweep, hs, Option.bind_some, Shadow.afterSweep, if_pos hswept]
      exact remainder_of_drops hdrops _

/-- **What removes a shadow finds it registered and leaves it off the registry.** -/
theorem removed_of_removes (hdrops : h.registry.retention ≠ .sticky) {c : Timed Call}
    (hr : Removes id c.call (operations h c).1) :
    (∃ s, h.registry.get? id = some s) ∧ (operations h c).2.registry.get? id = none := by
  obtain ⟨call, now⟩ := c
  generalize hanswer : (operations h ⟨call, now⟩).1 = answer at hr
  cases hr with
  | merged report m => exact removed_of_merge hdrops (Answer.merged.inj hanswer)
  | discarded insights => exact removed_of_discard hdrops (Answer.discarded.inj hanswer)
  | cleaned report hfirst =>
    have hreport : (h.cleanup id).1 = report := Answer.cleaned.inj hanswer
    cases hs : h.registry.get? id with
    | none =>
      simp only [cleanup, hs] at hreport
      rw [← hreport] at hfirst
      cases hfirst
    | some s => exact ⟨⟨s, rfl⟩, (get?_cleanup_self hs).trans (remainder_of_drops hdrops s)⟩
  | cleanedInUse report hfirst =>
    have hreport : (h.cleanupInUse id).1 = report := Answer.cleaned.inj hanswer
    cases hs : h.registry.get? id with
    | none =>
      simp only [cleanupInUse, hs] at hreport
      rw [← hreport] at hfirst
      cases hfirst
    | some s => exact ⟨⟨s, rfl⟩, (get?_cleanupInUse_self hs).trans (if_neg hdrops)⟩
  | swept lines insights hline =>
    obtain rfl : (h.sweep now).1 = lines := Answer.swept.inj hanswer
    exact removed_of_sweep hdrops hline

/-! ## Afterwards -/

/-- How a host answers for a shadow that is not registered. -/
def absent (id : ShadowId) : Shadow.Op → Answer
  | .view => .viewed none
  | .read _ => .read none
  | .log _ _ => .logged (.error (.notFound id))
  | .beginValidation => .opened (.error (.notFound id))
  | .recordValidation _ _ => .recorded (.error (.notFound id))
  | .testRollback => .tested (.error (.notFound id))
  | .merge _ => .merged (.error (.notFound id))
  | .discard => .discarded (.error (.notFound id))
  | .cleanup => .cleaned { shadowId := some id, alreadyCleaned := true }
  | .cleanupInUse => .cleaned { shadowId := some id, alreadyCleaned := true }
  | .loseDirectory => .done

/-- **Nothing is registered under the id**, and every operation says so and changes nothing. -/
structure Gone (id : ShadowId) (h : Host σ) : Prop where
  /-- nothing is registered -/
  unregistered : h.registry.get? id = none
  /-- the id is not listed -/
  inactive : id ∉ h.active
  /-- there is no handle -/
  handle : h.handle? id = none
  /-- an operation answers that there is nothing, and changes nothing -/
  answers : ∀ now op, h.act id now op = (absent id op, h)

theorem gone_of_get?_eq_none (hn : h.registry.get? id = none) : Gone id h where
  unregistered := hn
  inactive hid := by
    obtain ⟨s, hs⟩ := Registry.mem_ids_iff.mp hid
    rw [hn] at hs
    cases hs
  handle := by rw [handle?, hn, Option.map_none]
  answers now op := by
    refine Prod.ext ?_ (act_of_none hn now op)
    cases op <;>
      simp only [act, Prod.map_fst, handle?, log, beginValidation, recordValidation, testRollback,
        onShadow, merge, discard, cleanup, cleanupInUse, nothingToClean, hn, absent,
        Option.map_none]

end Host

end ShadowGate
