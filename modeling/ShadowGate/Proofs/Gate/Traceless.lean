import ShadowGate.Proofs.Gate.Independence
import ShadowGate.Proofs.Gate.Lifecycle

/-!
# Validations leave no trace

A proposal is validated with the help of a shadow that stands in the same registry as all others. It
is made under an id that nobody else has, and cleaned up whatever became of it, so that afterwards
the registry is what it was. Live state is copied once for each proposal, and that is all that
happens to it.

* `Host.registry_cleanup_of_frame` — **a cleanup brings the registry back**, on every path that
  leads to it.
* `Host.Traceless` — a host on which nothing happened but copies of live state; `Host.host_probe`
  and `Gate.host_evaluateAll` are one probe and a row of them.
* `Gate.validation_leaves_no_trace` — the theorem.
-/

namespace ShadowGate

attribute [ext] Host

/-- Look-ups and retention determine a registry. -/
theorem Registry.ext_get? {r r' : Registry} (hretention : r.retention = r'.retention)
    (hget : ∀ id, r.get? id = r'.get? id) : r = r' := by
  obtain ⟨retention, shadows⟩ := r
  obtain ⟨retention', shadows'⟩ := r'
  obtain rfl : retention = retention' := hretention
  obtain rfl : shadows = shadows' := SortedMap.ext_get? hget
  rfl

namespace Backing

variable {σ β : Type} {b : Backing σ}

/-- What one copy of live state leaves alone, any number of copies leave alone. -/
theorem content_copied {content : σ → β}
    (hkeeps : ∀ live, content (b.snapshot live).2 = content live) (n : Nat) (live : σ) :
    content (b.copied n live) = content live := by
  induction n generalizing live with
  | zero => rfl
  | succ n ih => exact (ih _).trans (hkeeps live)

end Backing

/-! ## The shadow of a probe -/

namespace Host

variable {σ : Type} {h k : Host σ} {id : ShadowId} {now : Time}

/-- **A cleanup brings the registry back** to what it was before the shadow, whatever became of the
shadow in the meantime. -/
theorem registry_cleanup_of_frame (hdrops : h.registry.retention ≠ .sticky)
    (hfresh : h.registry.get? id = none) (hframe : Frame [id] h k) :
    (k.cleanup id).2.registry = h.registry := by
  have hcleaned : Frame [id] h (k.cleanup id).2 := hframe.trans (k.frame_cleanup id)
  refine Registry.ext_get? hcleaned.retention fun other => ?_
  by_cases hother : other = id
  · subst hother
    rw [hfresh]
    cases hs : k.registry.get? other with
    | none =>
      simp only [cleanup, hs]
    | some s =>
      rw [get?_cleanup_self hs, Retention.remainder, if_neg]
      rw [hframe.retention]
      exact hdrops
  · exact hcleaned.others other (by simpa using hother)

/-- A creation that fails registers nothing. -/
theorem registry_create_of_error {config : ShadowConfig} {e : ShadowError}
    (heq : h.create id config now = (.error e, k)) : k.registry = h.registry := by
  simp only [create] at heq
  split at heq
  · obtain ⟨-, rfl⟩ := Prod.mk.inj heq
    rfl
  · cases heq

theorem rootFault_create (h : Host σ) (id : ShadowId) (config : ShadowConfig) (now : Time) :
    (h.create id config now).2.rootFault = h.rootFault := by
  simp only [create]
  split <;> rfl

/-- An operation on a shadow does not change what the shadow root allows. -/
theorem rootFault_act (h : Host σ) (id : ShadowId) (now : Time) (op : Shadow.Op) :
    (h.act id now op).2.rootFault = h.rootFault := by
  have hstep : ∀ {α : Type} (step : Shadow → Except ShadowError α × Shadow),
      (h.onShadow id step).2.rootFault = h.rootFault := by
    intro α step
    rw [onShadow]
    split <;> rfl
  have hcleanup : ∀ k : Host σ, (k.cleanup id).2.rootFault = k.rootFault := by
    intro k
    rw [cleanup]
    split <;> rfl
  cases op with
  | view => rfl
  | read key => rfl
  | log kind data => exact hstep _
  | beginValidation => exact hstep _
  | recordValidation changeId passed => exact hstep _
  | testRollback => exact hstep _
  | merge report =>
    simp only [act, Prod.map_snd, merge]
    split
    · rfl
    · split
      · rfl
      · split <;> exact hcleanup _
  | discard =>
    simp only [act, Prod.map_snd, discard]
    split
    · rfl
    · split
      · rfl
      · exact hcleanup _
  | cleanup => exact hcleanup h
  | cleanupInUse =>
    simp only [act, Prod.map_snd, cleanupInUse]
    split <;> rfl
  | loseDirectory =>
    simp only [act, loseDirectory]
    split <;> rfl

/-- Exercising an undo path concerns the one shadow. -/
theorem frame_exercise (h : Host σ) (id : ShadowId) (p : Proposal) (now : Time) :
    Frame [id] h (h.exercise id p now).2 := by
  refine (h.reach_exercise p now (List.mem_singleton_self id)).invariant
    (P := Call.Serves [id] []) (I := Frame [id] h) ?_ (Frame.refl _ _)
  rintro k ⟨call, now'⟩ hserves hframe
  cases call with
  | create i config => cases hserves
  | on i op =>
    obtain rfl := List.mem_singleton.mp hserves.1
    exact hframe.trans (k.frame_act i now' op)
  | sweep => cases hserves
  | setRoot fault => cases hserves

/-- **A probe leaves the registry as it was**, on every path. -/
theorem registry_probe (hdrops : h.registry.retention ≠ .sticky)
    (hfresh : h.registry.get? id = none) (p : Proposal) (now : Time) :
    (h.probe id p now).2.registry = h.registry := by
  have hcreate := h.frame_create id probeConfig now
  rw [probe]
  split
  · rename_i e k heq
    exact registry_create_of_error heq
  · rename_i k heq
    rw [heq] at hcreate
    exact registry_cleanup_of_frame hdrops hfresh (hcreate.trans (k.frame_exercise id p now))

/-- **A probe leaves the host as it was**, but for what the copy does to live state. -/
theorem host_probe (hdrops : h.registry.retention ≠ .sticky) (hfresh : h.registry.get? id = none)
    (p : Proposal) (now : Time) :
    (h.probe id p now).2 = { h with live := (h.backing.snapshot h.live).2 } := by
  have hid : id ∈ [id] := List.mem_singleton_self id
  have hrest : (h.probe id p now).2.backing = h.backing ∧
      (h.probe id p now).2.settings = h.settings ∧
      (h.probe id p now).2.rootFault = h.rootFault := by
    refine (h.reach_probe p now hid hid).invariant (I := fun k =>
      k.backing = h.backing ∧ k.settings = h.settings ∧ k.rootFault = h.rootFault) ?_
      ⟨rfl, rfl, rfl⟩
    rintro k ⟨call, now'⟩ hserves ⟨hbacking, hsettings, hroot⟩
    obtain ⟨ids, hframe⟩ := k.frame_operations ⟨call, now'⟩
    refine ⟨hframe.backing.trans hbacking, hframe.settings.trans hsettings, ?_⟩
    cases call with
    | create i config => exact (k.rootFault_create i config now').trans hroot
    | on i op => exact (k.rootFault_act i now' op).trans hroot
    | sweep => cases hserves
    | setRoot fault => cases hserves
  obtain ⟨hbacking, hsettings, hroot⟩ := hrest
  exact Host.ext hbacking (h.live_probe id p now) hsettings (registry_probe hdrops hfresh p now)
    hroot

/-! ## Hosts without a trace -/

/-- **Nothing happened to a host** but a number of copies of live state. -/
structure Traceless (h : Host σ) (copies : Nat) (h' : Host σ) : Prop where
  /-- the same shadows are registered, each as it was -/
  registry : h'.registry = h.registry
  /-- live state is as its copies left it, and the rest of the host as it was -/
  host : h' = { h with live := h.backing.copied copies h.live }
  /-- what a copy of live state leaves alone is as it was -/
  content : ∀ {β : Type} (content : σ → β),
    (∀ live, content (h.backing.snapshot live).2 = content live) → content h'.live = content h.live

theorem Traceless.of_host {copies : Nat}
    (hhost : k = { h with live := h.backing.copied copies h.live }) : h.Traceless copies k := by
  subst hhost
  exact ⟨rfl, rfl, fun _ hkeeps => Backing.content_copied hkeeps copies h.live⟩

/-- **An undo path is shown** exactly if the registry keeps the shadow and live state was copied. -/
theorem ready_probeOf {ρ : Retention} {outcome : Except Fault Snapshot} :
    (probeOf ρ id outcome).ready = true ↔ ρ ≠ .forgetful ∧ ∃ s, outcome = .ok s := by
  by_cases hforgets : ρ = .forgetful <;> rcases outcome with (e | message) | s <;>
    simp [probeOf, probeOutcome, hforgets]

end Host

/-! ## Revisions -/

namespace Batch

variable {reports : List Report} {now : Time}

theorem findings_settle (r : Placed) : (settle reports now r).findings = r.1.findings := by
  rw [settle_eq]
  rfl

/-- **No revision touches what was found.** -/
theorem findings_revised (limit i : Nat) :
    (resolveConflicts (flagExcess limit reports) now)[i]?.map Report.findings =
      reports[i]?.map Report.findings := by
  rw [getElem?_resolveConflicts, getElem?_flagExcess, Option.map_map, Option.map_map]
  refine congrArg (fun f => Option.map f reports[i]?) (funext fun r => ?_)
  simp only [Function.comp_apply, findings_settle]
  split <;> rfl

end Batch

/-! ## Gates -/

namespace Gate

variable {σ ω : Type} {act : ω → σ → σ} {g : Gate σ}

/-- **A row of probes** leaves the host as it was, but for one copy of live state each. -/
theorem host_evaluateAll (c : Criteria) (now : Time) (proposals : List Proposal) {g : Gate σ}
    (fresh : Nat → ShadowId) (hdrops : g.host.registry.retention ≠ .sticky)
    (hfresh : ∀ n < proposals.length, g.host.registry.get? (fresh n) = none) :
    (g.evaluateAll fresh c now proposals).2.host =
      { g.host with live := g.host.backing.copied proposals.length g.host.live } := by
  induction proposals generalizing g fresh with
  | nil => rfl
  | cons p rest ih =>
    have hprobe := Host.host_probe hdrops (hfresh 0 (Nat.succ_pos _)) p now
    -- the registry is the same after the first probe, so the other ids are still free
    have hrest : ∀ n < rest.length, g.host.registry.get? (fresh (n + 1)) = none := by
      intro n hn
      exact hfresh (n + 1) (by simpa using hn)
    have ih' := ih (g := { g with host := (g.host.probe (fresh 0) p now).2 })
      (fun n => fresh (n + 1)) (by rw [hprobe]; exact hdrops) (by rw [hprobe]; exact hrest)
    simp only [hprobe] at ih'
    simp only [evaluateAll, evaluate, hprobe, ih', List.length_cons, Backing.copied]

/-- **Validations leave no trace.** In every gate that a run can lead to, over any backing store and
a registry that drops what is removed, and with ids for the shadows of the probes that nobody else
has: validating a proposal answers with a report on it, and a batch with one for each proposal.
Afterwards the same shadows are registered, each as it was, and nothing happened to live state but
one copy for each proposal. The reason is that the shadow of a probe is cleaned up: that brings the
registry back, whatever became of the shadow since it was made. Where the registry keeps shadows, a
report shows an undo path exactly if the copy that was made for it succeeded, whatever the proposal
modifies. -/
theorem validation_leaves_no_trace {backing : Backing σ} {retention : Retention}
    (hg : Reached act backing retention g) (hdrops : retention ≠ .sticky) :
    (∀ id p c now, g.host.registry.get? id = none →
      let validated := g.validate id p c now
      g.host.Traceless 1 validated.2.host ∧ validated.1.changeId = p.id ∧
      (retention ≠ .forgetful → (validated.1.rollbackReady = true ↔
        ∃ s, (backing.snapshot g.host.live).1 = .ok s))) ∧
    (∀ fresh proposals c now, (∀ n < proposals.length, g.host.registry.get? (fresh n) = none) →
      let validated := g.validateBatch fresh proposals c now
      g.host.Traceless proposals.length validated.2.host ∧
      validated.1.length = proposals.length ∧
      ∀ i p, proposals[i]? = some p → ∃ r, validated.1[i]? = some r ∧ r.changeId = p.id ∧
        (retention ≠ .forgetful → (r.rollbackReady = true ↔
          ∃ s, (backing.snapshot (backing.copied i g.host.live)).1 = .ok s))) ∧
    ∀ id now k, g.host.registry.get? id = none →
      Host.Frame [id] (g.host.create id Host.probeConfig now).2 k →
      (k.cleanup id).2.registry = g.host.registry := by
  have hblank := hg.blank
  obtain ⟨rfl, rfl⟩ := hg.frame
  refine ⟨?_, ?_, ?_⟩
  · intro id p c now hfresh validated
    have hreport : validated.1 = g.assess p c (g.probeAt id) now := evaluate_eq hblank id p c now
    refine ⟨.of_host (Host.host_probe hdrops hfresh p now), by rw [hreport]; rfl, ?_⟩
    intro hkeeps
    have hready : validated.1.rollbackReady = (g.probeAt id).ready := by rw [hreport]; rfl
    rw [hready, probeAt, Host.ready_probeOf]
    exact and_iff_right hkeeps
  · intro fresh proposals c now hfresh validated
    have hreports : ∀ i, validated.1[i]?.map Report.findings = proposals[i]?.map fun p =>
        (g.assess p c (Host.probeOf g.host.registry.retention (fresh i)
          (g.host.backing.snapshot (g.host.backing.copied i g.host.live)).1) now).findings := by
      intro i
      refine (Batch.findings_revised _ i).trans ?_
      rw [getElem?_evaluateAll c now proposals hblank fresh i, Option.map_map]
      rfl
    refine ⟨.of_host (host_evaluateAll c now proposals fresh hdrops hfresh), ?_, ?_⟩
    · simpa [validated, validateBatch, Batch.resolveConflicts, Batch.flagExcess] using
        g.length_evaluateAll fresh c now proposals
    · intro i p hp
      have hi := hreports i
      rw [hp, Option.map_some] at hi
      obtain ⟨r, hr, hfindings⟩ := Option.map_eq_some_iff.mp hi
      have hagrees := Report.Agrees.of_findings hfindings
      refine ⟨r, hr, hagrees.changeId, fun hkeeps => ?_⟩
      rw [hagrees.rollbackReady]
      exact Host.ready_probeOf.trans (and_iff_right hkeeps)
  · intro id now k hfresh hframe
    exact Host.registry_cleanup_of_frame hdrops hfresh
      ((g.host.frame_create id Host.probeConfig now).trans hframe)

/-- A live store that refuses every second copy. -/
def flakyBacking : Backing (Store × Bool) where
  snapshot live :=
    (if live.2 then .ok live.1.snapshot else .error (.refused (.unavailable "busy")),
      (live.1, !live.2))
  apply live e := (.ok (), (live.1.apply e, live.2))

/-- A gate over such a store, with a shadow under validation. -/
def flakyGate : Gate (Store × Bool) :=
  (operations fun (w : Store.Write) live => (Store.write w live.1, live.2)).run
    (startOn flakyBacking ({}, true) {} .exact .builtin {})
    [⟨.write (.put "rate" (.bool true)), 0⟩,
     ⟨.host (.create Host.sampleId .memoryOnly), 1⟩,
     ⟨.host (.on Host.sampleId .beginValidation), 2⟩]

/-- Three proposals, each with two modifications. -/
def modifyingBatch : List Proposal :=
  sampleBatch.map fun p =>
    { p with modifications := SortedMap.ofList [("rate", .null), ("depth", .bool true)] }

/-- Over a store that refuses every second copy, the second of three proposals has an undo path and
the other two have none; the shadow that is registered and the records are as they were. -/
theorem flaky_batch_leaves_no_trace :
    let validated := flakyGate.validateBatch (fun n => sampleIds (n + 2)) modifyingBatch {} 3
    flakyGate.host.active = [Host.sampleId] ∧
    (∃ r, validated.1[0]? = some r ∧ r.rollbackReady = false) ∧
    (∃ r, validated.1[1]? = some r ∧ r.rollbackReady = true) ∧
    (∃ r, validated.1[2]? = some r ∧ r.rollbackReady = false) ∧
    validated.2.host.registry = flakyGate.host.registry ∧
    validated.2.host.live.1 = flakyGate.host.live.1 := by
  intro validated
  have hg : Reached (fun (w : Store.Write) live => (Store.write w live.1, live.2)) flakyBacking
      .exact flakyGate := ⟨_, _, _, _, _, rfl⟩
  obtain ⟨-, hbatch, -⟩ := validation_leaves_no_trace hg (by decide)
  obtain ⟨htrace, -, hreports⟩ :=
    hbatch (fun n => sampleIds (n + 2)) modifyingBatch {} 3 (by decide +kernel)
  have hfails : ∀ live : Store × Bool, live.2 = false →
      ∀ s, (flakyBacking.snapshot live).1 ≠ .ok s := by
    intro live hdown s
    simp [flakyBacking, hdown]
  have hrefused : ∀ i p, modifyingBatch[i]? = some p →
      (flakyBacking.copied i flakyGate.host.live).2 = false →
      ∃ r, validated.1[i]? = some r ∧ r.rollbackReady = false := by
    intro i p hp hdown
    obtain ⟨r, hr, -, hready⟩ := hreports i p hp
    refine ⟨r, hr, Bool.eq_false_iff.mpr fun hshown => ?_⟩
    obtain ⟨s, hs⟩ := (hready (by decide)).mp hshown
    exact hfails _ hdown s hs
  refine ⟨by decide +kernel, hrefused 0 _ rfl (by decide +kernel), ?_,
    hrefused 2 _ rfl (by decide +kernel), htrace.registry, htrace.content Prod.fst fun _ => rfl⟩
  obtain ⟨r, hr, -, hready⟩ := hreports 1 _ rfl
  exact ⟨r, hr, (hready (by decide)).mpr ⟨_, rfl⟩⟩

end Gate

end ShadowGate
