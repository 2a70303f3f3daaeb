import ShadowGate.Proofs.Gate.Coherence
import ShadowGate.Proofs.Gate.Isolation
import ShadowGate.Proofs.Host.Merge

/-!
# Validation and merge agree

A validation decides by its criteria and policies and leaves a verdict on the shadow; a merge looks
at the report and at the shadow, and knows neither criteria nor policies. All the same it comes out
as the validation did: what was approved is merged, and what was not is turned down. The rollback
that the merge asks for is one that the decision asked for already, the verdict that it looks for
was recorded under the report's own proposal, and the snapshot cannot have changed since.

* `Shadow.Judged` — how a validation leaves a shadow.
* `Gate.get?_run_of_unnamed` — a shadow stays as it is while no call names it and it does not
  expire.
* `Host.Intact` — every snapshot has the digest it was taken with, in any registry.
* `Host.Honours` — a merge comes out as the report says.
* `Gate.merge_honours_validation` — the theorem.
-/

namespace ShadowGate

variable {σ ω : Type}

/-! ## Intact snapshots -/

namespace Host

/-- Every registered shadow has the snapshot that it was forked from. -/
def Intact (h : Host σ) : Prop :=
  ∀ id s, h.registry.get? id = some s → s.snapshot.digest = s.snapshotDigest

/-- **One call** keeps the snapshots intact. -/
theorem intact_operations (h : Host σ) (c : Timed Call) (hi : h.Intact) :
    (operations h c).2.Intact := by
  intro id s' hs'
  cases transition_of_get? c hs' with
  | forked config snapshot note hcall hsettle hnew =>
    subst hnew
    rfl
  | acted s op hcall hs hbecomes =>
    obtain ⟨hsnapshot, hdigest⟩ := hbecomes.snapshot
    rw [hsnapshot, hdigest]
    exact hi id s hs
  | swept s hcall hs hsticky hnew =>
    subst hnew
    exact hi id s hs
  | kept hcall hs => exact hi id s' hs

end Host

namespace Gate

variable {act : ω → σ → σ} {g : Gate σ}

/-- **A run** keeps the snapshots intact, and the way live state is changed. -/
theorem intact_run (act : ω → σ → σ) (hi : g.host.Intact) (calls : List (Timed (Call ω))) :
    ((operations act).run g calls).host.Intact ∧
      ((operations act).run g calls).host.backing = g.host.backing := by
  refine host_invariant_run (I := fun h => h.Intact ∧ h.backing = g.host.backing) ?_
    (fun _ _ hh => hh) ⟨hi, rfl⟩ calls
  rintro h c ⟨hi, hbacking⟩
  obtain ⟨ids, hframe⟩ := h.frame_operations c
  exact ⟨h.intact_operations c hi, hframe.backing.trans hbacking⟩

theorem Reached.intact {backing : Backing σ} {retention : Retention}
    (hg : Reached act backing retention g) : g.host.Intact := by
  refine hg.invariant Host.intact_operations (fun _ _ hh => hh) fun live settings id s hs => ?_
  cases hs

/-! ## Shadows that are left alone -/

variable {id : ShadowId} {s : Shadow}

/-- Of the calls that concern a shadow without naming it there is one. -/
theorem Call.eq_sweep_of_concerns {c : Call ω} (hconcerns : c.concerns id = true)
    (hid : id ∉ c.ids) : c = .host .sweep := by
  rw [Call.concerns.eq_def] at hconcerns
  split at hconcerns
  · rfl
  · exact absurd (of_decide_eq_true hconcerns) hid

/-- **One call** that does not name a shadow leaves it as it is, unless it sweeps and the shadow has
expired. -/
theorem get?_operations_of_unnamed (act : ω → σ → σ) (c : Timed (Call ω))
    (hs : g.host.registry.get? id = some s) (hid : id ∉ c.call.ids)
    (hfresh : s.isExpired c.now = false) :
    (operations act g c).2.host.registry.get? id = some s := by
  cases hconcerns : c.call.concerns id with
  | false => exact (alike_of_unconcerned act g c hconcerns).host.shadow.trans hs
  | true =>
    obtain ⟨call, now⟩ := c
    obtain rfl := Call.eq_sweep_of_concerns hconcerns hid
    have hspared : s.isSwept now = false := by simp [Shadow.isSwept, Shadow.isDue, hfresh]
    have hafter := g.host.get?_sweep now id
    rw [hs, Option.bind_some, Shadow.afterSweep, hspared, if_neg Bool.false_ne_true] at hafter
    exact hafter

/-- **A run of such calls** leaves the shadow as it is. -/
theorem get?_run_of_unnamed (act : ω → σ → σ) (calls : List (Timed (Call ω))) {g : Gate σ}
    (hs : g.host.registry.get? id = some s)
    (hcalls : ∀ c ∈ calls, id ∉ c.call.ids ∧ s.isExpired c.now = false) :
    ((operations act).run g calls).host.registry.get? id = some s := by
  refine (operations act).run_invariant (I := fun g => g.host.registry.get? id = some s) ?_ hs
  intro g c hc hg
  exact get?_operations_of_unnamed act c hg (hcalls c hc).1 (hcalls c hc).2

end Gate

/-- What has not expired had not done so before. -/
theorem Shadow.isExpired_of_le {s : Shadow} {now later : Time} (hle : now ≤ later)
    (h : s.isExpired later = false) : s.isExpired now = false := by
  rw [isExpired_eq_false_iff] at h ⊢
  exact (Int.sub_le_sub_right hle _).trans h

/-! ## The verdict -/

/-- **How a validation leaves a shadow**: passed or failed with the proposal, its log untouched. -/
structure Shadow.Judged (s s' : Shadow) (p : Proposal) (report : Report) : Prop where
  /-- it passed if the report approves, and failed otherwise -/
  phase : s'.phase = if report.verdict = .approved then .passed else .failed
  /-- so does its status say -/
  status : s'.status = if report.verdict = .approved then .passed else .failed
  /-- the verdict is on the proposal -/
  validatedChange : s'.validatedChange = some p.id
  /-- the log is what it was -/
  log : s'.log = s.log

theorem Shadow.judged_recorded (s : Shadow) (p : Proposal) (report : Report)
    (storage : Option PrivateCopy) :
    s.Judged { s.recorded p.id report.isApproved with storage } p report := by
  by_cases happroved : report.verdict = .approved <;>
    constructor <;> simp [recorded, Report.isApproved, happroved]

/-- A merge of the shadow under an id, with a log, **comes out as a report says**. -/
structure Host.Honours (h : Host σ) (id : ShadowId) (log : List ChangeEntry) (report : Report)
    (now : Time) : Prop where
  /-- an approval is not refused: nothing but a change whose task dies stops the merge, and what
  stands before that change has been tried -/
  unrefused : report.verdict = .approved → ∀ e, (h.merge id report now).1 = .error e →
    ∃ message before change after, e = .crashed message ∧ log = before ++ change :: after ∧
      (h.backing.apply (h.backing.tryAll h.live before) change).1 = .error (.crashed message) ∧
      (h.merge id report now).2.live = h.backing.tryAll h.live (before ++ [change])
  /-- a merge with a record has tried the whole log on live state, and its trail is the log -/
  replayed : report.verdict = .approved → ∀ m, (h.merge id report now).1 = .ok m →
    m.changeId = report.changeId ∧
      m.auditTrail.map AuditEntry.outline = log.map ChangeEntry.outline ∧
      (h.merge id report now).2.live = h.backing.tryAll h.live log
  /-- if every change comes to an end, there is such a record -/
  merged : report.verdict = .approved → h.backing.Returns →
    ∃ m, (h.merge id report now).1 = .ok m ∧ m.changeId = report.changeId ∧
      m.auditTrail.map AuditEntry.outline = log.map ChangeEntry.outline ∧
      (h.merge id report now).2.live = h.backing.tryAll h.live log
  /-- anything but an approval is turned down, and nothing changes -/
  turnedDown : report.verdict ≠ .approved →
    ∃ why, h.merge id report now = (.error (.validationRejected why), h)

namespace Host

variable {h : Host σ} {id : ShadowId} {s : Shadow} {report : Report} {now : Time}

/-- What the guard admits is merged as an approval is. -/
theorem honours_of_admitted (hs : h.registry.get? id = some s)
    (hadmitted : s.admitMerge now report = .ok ()) (happroved : report.verdict = .approved) :
    h.Honours id s.log report now := by
  cases hreplay : (h.backing.replay s.log h.live).1 with
  | error message =>
    obtain ⟨before, change, after, hlog, hcut, hstate⟩ := h.backing.cut_of_replay hreplay
    have hcrashed : (h.merge id report now).1 = .error (.crashed message) := by
      rw [merge_of_admitted hs hadmitted]
      simp only [hreplay]
    refine ⟨fun _ e he => ?_, fun _ m hm => ?_, fun _ hreturns => ?_,
      fun hnot => absurd happroved hnot⟩
    · obtain rfl : .crashed message = e := Except.error.inj (hcrashed.symm.trans he)
      exact ⟨message, before, change, after, rfl, hlog, hcut,
        (live_merge_of_admitted hs hadmitted).trans hstate⟩
    · rw [hcrashed] at hm
      cases hm
    · exact absurd hcut (hreturns _ _ _)
  | ok trail =>
    obtain ⟨⟨m, hm, -, hchange, rfl, -⟩, hlive⟩ := merge_of_replay hs hadmitted hreplay
    have houtline := h.backing.outline_of_replay hreplay
    refine ⟨fun _ e he => ?_, fun _ m' hm' => ?_,
      fun _ _ => ⟨m, hm, hchange, houtline, hlive⟩, fun hnot => absurd happroved hnot⟩
    · rw [hm] at he
      cases he
    · obtain rfl := Except.ok.inj (hm.symm.trans hm')
      exact ⟨hchange, houtline, hlive⟩

/-- What does not approve is turned down by any shadow that is open. -/
theorem honours_of_unapproved (hs : h.registry.get? id = some s)
    (hopen : s.ensureOpen now = .ok ()) (hnot : report.verdict ≠ .approved) :
    h.Honours id s.log report now := by
  have hunapproved : report.isApproved = false := by simpa [Report.isApproved] using hnot
  have hrefused : s.admitMerge now report =
      .error (.validationRejected (.notApproved report.changeId report.verdict)) := by
    simp [Shadow.admitMerge, hopen, Shadow.admitReport, hunapproved, bind, Except.bind]
  exact ⟨fun h => absurd h hnot, fun h => absurd h hnot, fun h => absurd h hnot,
    fun _ => ⟨_, merge_of_refused hs hrefused⟩⟩

/-- **A merge honours the verdict on a shadow**: with a coherent report on the proposal that the
shadow was judged by, while its snapshot is intact and it has not expired. -/
theorem honours_of_judged {s₀ : Shadow} {p : Proposal} (hs : h.registry.get? id = some s)
    (hjudged : s₀.Judged s p report) (hchange : report.changeId = p.id)
    (hcoherent : report.Coherent)
    (hintact : s.snapshot.digest = s.snapshotDigest) (hfresh : s.isExpired now = false) :
    h.Honours id s.log report now := by
  have hopen : s.ensureOpen now = .ok () := by
    rw [Shadow.ensureOpen_eq_ok_iff, hjudged.phase]
    by_cases happroved : report.verdict = .approved <;>
      simp [happroved, hfresh, Phase.isTerminal]
  by_cases happroved : report.verdict = .approved
  · refine honours_of_admitted hs (Shadow.admitMerge_eq_ok_iff.mpr ⟨hopen, ?_, ?_, ?_⟩) happroved
    · exact Shadow.admitReport_eq_ok_iff.mpr
        ⟨beq_iff_eq.mpr happroved, hcoherent.undoable happroved⟩
    · refine Shadow.admitVerdict_eq_ok_iff.mpr fun _ => ⟨?_, ?_, ?_⟩
      · rw [hjudged.phase, if_pos happroved]
      · rw [hjudged.status, if_pos happroved]
      · rw [hjudged.validatedChange, hchange]
    · simp [Shadow.isTampered, Shadow.snapshotIntact, hintact]
  · exact honours_of_unapproved hs hopen happroved

end Host

/-! ## Gates -/

namespace Gate

/-- **A merge honours the validation before it.** In every gate that a run can lead to, over any
backing store and registry, whatever the checks and policies: when a shadow has been validated with
a proposal, it has passed if the report approves and failed otherwise, with the verdict on that
proposal and its log untouched. And as long as no call names the shadow and it does not expire, a
merge with the report comes out as the report says: an approval is never refused, and live state is
left as the changes of the whole log leave it, each tried in its turn; anything else is turned down,
and nothing changes. -/
theorem merge_honours_validation {act : ω → σ → σ} {g : Gate σ} {backing : Backing σ}
    {retention : Retention} (hg : Reached act backing retention g) (checks : CheckSet)
    (policies : PolicyTable) (id : ShadowId) (p : Proposal) (c : Criteria) (now : Time)
    {report : Report}
    (hreport : ({ g with checks, policies }.validateShadow id p c now).1 = .ok report) :
    let validated := ({ g with checks, policies }.validateShadow id p c now).2
    ∃ s s', g.host.registry.get? id = some s ∧ validated.host.registry.get? id = some s' ∧
      s.Judged s' p report ∧
      ∀ (meanwhile : List (Timed (Call ω))) (later : Time),
        (∀ call ∈ meanwhile, id ∉ call.call.ids ∧ call.now ≤ later) → s'.isExpired later = false →
          let host := ((operations act).run validated meanwhile).host
          host.backing = backing ∧ host.Honours id s.log report later := by
  intro validated
  obtain ⟨s, ready, storage, hs, -, hassess, hs'⟩ := validateShadow_eq_ok hreport
  have hjudged := s.judged_recorded p report storage
  have hcoherent : report.Coherent := (Issues.onShadow id p c now hreport).coherent
  have hchange : report.changeId = p.id := by rw [hassess]; rfl
  refine ⟨s, _, hs, hs', hjudged, fun meanwhile later hcalls hfresh => ?_⟩
  have hkept := get?_run_of_unnamed act meanwhile hs' fun call hcall =>
    ⟨(hcalls call hcall).1, Shadow.isExpired_of_le (hcalls call hcall).2 hfresh⟩
  obtain ⟨hintact, hbacking⟩ := intact_run act (g := { g with checks, policies }) hg.intact
    (⟨.validateShadow id p c, now⟩ :: meanwhile)
  refine ⟨hbacking.trans hg.frame.1, ?_⟩
  rw [← hjudged.log]
  exact Host.honours_of_judged hkept hjudged hchange hcoherent (hintact id _ hkept) hfresh

/-- The sample gate with a shadow that has one change in its log, and has passed with it. -/
def samplePassed : Gate Store := (operations Store.write).run sampleGate (sampleCalls.take 4)

set_option maxRecDepth 100000 in
theorem verdict_samplePassed :
    (samplePassed.validateShadow Host.sampleId sampleProposal {} 4).1.toOption.map Report.verdict =
      some .approved := by
  decide +kernel

/-- The sample shadow is validated again, and approved; live state is written to and a sweep goes
by; then the shadow is merged: the trail has its only change, and the record has the value of that
change in place of the one written last. -/
theorem sample_is_merged_after_validation :
    ∃ report m, (samplePassed.validateShadow Host.sampleId sampleProposal {} 4).1 = .ok report ∧
      let host := ((operations Store.write).run
        (samplePassed.validateShadow Host.sampleId sampleProposal {} 4).2
        [⟨.write (.put "rate" (.bool false)), 5⟩, ⟨.host .sweep, 6⟩]).host
      (host.merge Host.sampleId report 7).1 = .ok m ∧
      m.auditTrail.map AuditEntry.outline = [(1, "tuning", "set 'rate' to true")] ∧
      host.live.state.bytesAt "rate" = some (Json.bool false).bytes ∧
      (host.merge Host.sampleId report 7).2.live.state.bytesAt "rate" =
        some (Json.bool true).bytes := by
  have hg : Reached Store.write Store.backing .exact samplePassed := ⟨_, _, _, _, _, rfl⟩
  obtain ⟨report, hreport, hverdict⟩ := Option.map_eq_some_iff.mp verdict_samplePassed
  have hok : (samplePassed.validateShadow Host.sampleId sampleProposal {} 4).1 = .ok report := by
    cases hanswer : (samplePassed.validateShadow Host.sampleId sampleProposal {} 4).1 with
    | error e => simp [hanswer, Except.toOption] at hreport
    | ok r => simpa [hanswer, Except.toOption] using hreport
  obtain ⟨s, s', hs, hs', -, hhonours⟩ := merge_honours_validation hg samplePassed.checks
    samplePassed.policies Host.sampleId sampleProposal {} 4 hok
  have hlog : (samplePassed.host.registry.get? Host.sampleId).map Shadow.log =
      some [⟨1, "tuning", .obj [("key", .str "rate"), ("value", .bool true)]⟩] := by
    rfl
  have hfresh : ((samplePassed.validateShadow Host.sampleId sampleProposal {}
      4).2.host.registry.get? Host.sampleId).map (fun s => s.isExpired 7) = some false := by
    decide +kernel
  rw [hs, Option.map_some, Option.some.injEq] at hlog
  rw [hs', Option.map_some, Option.some.injEq] at hfresh
  have hreturns : Store.backing.Returns := fun live e message => nofun
  have hcalls : ∀ call ∈ ([⟨.write (.put "rate" (.bool false)), 5⟩, ⟨.host .sweep, 6⟩] :
      List (Timed (Call Store.Write))), Host.sampleId ∉ call.call.ids ∧ call.now ≤ 7 := by
    simp [Call.ids, Call.newIds]
  obtain ⟨hbacking, hhonours⟩ := hhonours _ 7 hcalls hfresh
  obtain ⟨m, hm, -, htrail, hlive⟩ := hhonours.merged hverdict (hbacking ▸ hreturns)
  rw [hlog] at htrail hlive
  rw [hbacking] at hlive
  refine ⟨report, m, hok, hm, htrail, ?_, ?_⟩
  · decide +kernel
  · -- whatever live state holds then, the only change of the log has the last word on the record
    rw [hlive, Store.tryAll_backing, Store.state_foldl_apply, Tree.bytesAt_applyAll]
    rfl

end Gate

end ShadowGate
