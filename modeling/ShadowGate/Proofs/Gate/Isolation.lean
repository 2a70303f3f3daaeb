import ShadowGate.Proofs.Gate.Live
import ShadowGate.Proofs.Host.Alike

/-!
# Isolation of shadows

What can be seen of a shadow does not depend on what else goes on: calls that neither name the
shadow nor sweep can be left out of a run. The argument is one of two runs side by side: their gates
look alike from the shadow, and go on doing so.

* `Gate.Call.concerns` — whether a call concerns a shadow; `Gate.Omits` — a run without some of the
  calls that do not.
* `Gate.Sighting`, `Gate.sightings` — what can be seen of a shadow along a run: the answers to the
  calls that concern it, the shadow after each of them, and the handles of it that are still held.
* `Gate.Alike` — **the relation between the two runs**: `Gate.alike_of_unconcerned` is a call that
  only one of them makes, `Gate.operations_congr` a call that both make.
* `Gate.sightings_of_omits` — the theorem.
-/

namespace ShadowGate

/-! ## Handles that are held -/

/-- A handle, when a call has left its shadow so. -/
def Handle.attend (handle : Handle) : Option Shadow → Handle
  | none => handle
  | some s => handle.follow s

theorem Handle.follow_follow (handle : Handle) (s : Shadow) :
    (handle.follow s).follow s = handle.follow s := by
  cases hcopy : handle.copy <;> cases hstorage : s.storage <;> simp [follow, hcopy, hstorage]

theorem Shadow.follow_handle (s : Shadow) : s.handle.follow s = s.handle := by
  cases hstorage : s.storage <;> simp [Handle.follow, Shadow.handle, hstorage]

/-- A handle that has been attended to is up to date. -/
theorem Handle.attend_attend (handle : Handle) (slot : Option Shadow) :
    (handle.attend slot).attend slot = handle.attend slot := by
  cases slot with
  | none => rfl
  | some s => exact handle.follow_follow s

namespace Gate

/-! ## Runs with calls left out -/

section Runs

variable {ω : Type}

/-- Whether a call concerns a shadow: it names the shadow, or sweeps. -/
def Call.concerns (a : ShadowId) : Call ω → Bool
  | .host .sweep => true
  | c => decide (a ∈ c.ids)

/-- The second list is the first without some calls that do not concern the shadow. -/
inductive Omits (a : ShadowId) : List (Timed (Call ω)) → List (Timed (Call ω)) → Prop where
  | nil : Omits a [] []
  | keep {calls kept : List (Timed (Call ω))} (c : Timed (Call ω)) (ho : Omits a calls kept) :
    Omits a (c :: calls) (c :: kept)
  | drop {calls kept : List (Timed (Call ω))} (c : Timed (Call ω)) (hc : c.call.concerns a = false)
    (ho : Omits a calls kept) : Omits a (c :: calls) kept

/-- The part of an answer that is about a shadow: of a sweep, the shadow's line. -/
def Answer.about (a : ShadowId) : Answer → Answer
  | .host (.swept lines) => .host (.swept (lines.filter fun line => line.1 = a))
  | answer => answer

/-- What can be seen of a shadow at a call that concerns it. -/
structure Sighting where
  /-- the call -/
  call : Timed (Call Store.Write)
  /-- the answer, as far as it is about the shadow -/
  answer : Answer
  /-- the shadow afterwards, if it is still registered -/
  shadow : Option Shadow
  /-- the handles of the shadow that were taken so far, as they stand -/
  held : List Handle

/-- **What can be seen of a shadow along a run.** At every call that concerns the shadow one more
handle of it is taken, and kept from then on. -/
def sightings (a : ShadowId) (g : Gate Store) (held : List Handle) :
    List (Timed (Call Store.Write)) → List Sighting
  | [] => []
  | c :: rest =>
    let (answer, after) := operations Store.write g c
    let shadow := after.host.registry.get? a
    let followed := held.map fun handle => handle.attend shadow
    if c.call.concerns a then
      let taken := followed ++ (shadow.map Shadow.handle).toList
      ⟨c, answer.about a, shadow, taken⟩ :: sightings a after taken rest
    else sightings a after followed rest

end Runs

/-! ## Gates that look alike from a shadow -/

/-- Two gates look alike from the shadow under an id: their hosts do, and their rules are the
same. -/
structure Alike {σ : Type} (a : ShadowId) (g g' : Gate σ) : Prop where
  /-- the hosts look alike -/
  host : Host.Alike a g.host g'.host
  /-- the checks are the same -/
  checks : g'.checks = g.checks
  /-- the policies are the same -/
  policies : g'.policies = g.policies

section Alike

variable {σ ω : Type} {a : ShadowId} {g g' g'' : Gate σ}

theorem Alike.refl (a : ShadowId) (g : Gate σ) : Alike a g g := ⟨Host.Alike.refl a _, rfl, rfl⟩

theorem Alike.symm (r : Alike a g g') : Alike a g' g :=
  ⟨r.host.symm, r.checks.symm, r.policies.symm⟩

theorem Alike.trans (r : Alike a g g') (r' : Alike a g' g'') : Alike a g g'' :=
  ⟨r.host.trans r'.host, r'.checks.trans r.checks, r'.policies.trans r.policies⟩

/-- A gate answers a call that does not concern a shadow by calls that avoid it. -/
theorem avoids_of_allows {c : Call ω} {call : Host.Call} (hc : c.concerns a = false)
    (hallows : c.Allows call) : call.Avoids a := by
  -- validation works on shadows under the ids of its call, and creates them under these only
  have hserves : ∀ {ids new : List ShadowId}, a ∉ ids → a ∉ new → call.Serves ids new →
      call.Avoids a := by
    intro ids new hids hnew hserves
    cases call with
    | create id config => exact fun heq => hnew (heq ▸ hserves)
    | on id op => exact fun heq => hids (heq ▸ hserves.1)
    | sweep => cases hserves
    | setRoot fault => trivial
  cases c with
  | host own =>
    obtain rfl : call = own := hallows
    cases call with
    | create id config =>
      have hid : a ∉ [id] := of_decide_eq_false hc
      exact fun heq => hid (List.mem_singleton.mpr heq)
    | on id op =>
      have hid : a ∉ [id] := of_decide_eq_false hc
      exact fun heq => hid (List.mem_singleton.mpr heq)
    | sweep => cases hc
    | setRoot fault => trivial
  | validate id p criteria =>
    have hid : a ∉ (Call.validate id p criteria : Call ω).ids := of_decide_eq_false hc
    exact hserves hid hid hallows
  | validateShadow id p criteria =>
    have hid : a ∉ (Call.validateShadow id p criteria : Call ω).ids := of_decide_eq_false hc
    exact hserves hid List.not_mem_nil hallows
  | validateBatch fresh proposals criteria =>
    have hid : a ∉ (Call.validateBatch fresh proposals criteria : Call ω).ids :=
      of_decide_eq_false hc
    exact hserves hid hid hallows
  | write w => cases hallows

/-- **A call that does not concern the shadow makes no difference to it.** -/
theorem alike_of_unconcerned (act : ω → σ → σ) (g : Gate σ) (c : Timed (Call ω))
    (hc : c.call.concerns a = false) : Alike a g (operations act g c).2 := by
  obtain ⟨hchecks, hpolicies⟩ := rules_operations act g c
  refine ⟨?_, hchecks, hpolicies⟩
  refine host_invariant (I := Host.Alike a g.host) g c ?_ ?_ (Host.Alike.refl a _)
  · intro h call hallows r
    exact r.trans (Host.alike_of_avoids h call (avoids_of_allows hc hallows))
  · intro h w r
    exact ⟨r.backing, r.retention, r.shadow⟩

end Alike

/-! ## Calls that both runs make -/

section Congr

variable {a : ShadowId} {g g' : Gate Store} {now : Time}

/-- A step on the shadow, taken in two hosts that look alike. -/
theorem onShadow_congr {σ α : Type} {h h' : Host σ} (r : Host.Alike a h h')
    (step : Shadow → Except ShadowError α × Shadow) :
    ∃ result k k', h.onShadow a step = (result, k) ∧ h'.onShadow a step = (result, k') ∧
      Host.Alike a k k' := by
  refine ⟨(h.onShadow a step).1, (h.onShadow a step).2, (h'.onShadow a step).2, rfl, ?_, ?_⟩
  · rw [← Host.answer_onShadow_congr r step]
  · exact Host.alike_onShadow r step

/-- **Validating the shadow** comes to the same end. -/
theorem validateShadow_congr (r : Alike a g g') (p : Proposal) (c : Criteria) (now : Time) :
    (g'.validateShadow a p c now).1 = (g.validateShadow a p c now).1 ∧
    Host.Alike a (g.validateShadow a p c now).2.host (g'.validateShadow a p c now).2.host := by
  have hassess : ∀ probe, g'.assess p c probe now = g.assess p c probe now := by
    intro probe
    rw [assess, assess, r.checks, r.policies]
  obtain ⟨opened, k₁, k₁', hopen, hopen', r₁⟩ :=
    onShadow_congr r.host fun s => s.beginValidation now
  simp only [validateShadow, Host.beginValidation, hopen, hopen']
  cases opened with
  | error e => exact ⟨rfl, r₁⟩
  | ok u =>
    obtain ⟨tested, k₂, k₂', htest, htest', r₂⟩ := onShadow_congr r₁ fun s => s.testRollback now
    simp only [Host.testRollback, htest, htest']
    cases tested with
    | error e => exact ⟨rfl, Host.alike_onShadow r₂ _⟩
    | ok ready =>
      obtain ⟨recorded, k₃, k₃', hrecord, hrecord', r₃⟩ := onShadow_congr r₂ fun s =>
        s.recordValidation (g.assess p c { ready } now).changeId
          (g.assess p c { ready } now).isApproved
      simp only [conclude, Host.recordValidation, hassess, hrecord, hrecord']
      cases recorded with
      | error e => exact ⟨rfl, r₃⟩
      | ok status => exact ⟨rfl, r₃⟩

/-- The calls that concern a shadow and do not create it. -/
theorem cases_of_concerns {call : Call Store.Write} (hc : call.concerns a = true)
    (hnew : a ∉ call.newIds) :
    (∃ op, call = .host (.on a op)) ∨ call = .host .sweep ∨
      ∃ p criteria, call = .validateShadow a p criteria := by
  cases call with
  | host own =>
    cases own with
    | create id config => exact absurd (of_decide_eq_true hc) hnew
    | on id op =>
      have hid : a ∈ [id] := of_decide_eq_true hc
      rw [List.mem_singleton.mp hid]
      exact .inl ⟨op, rfl⟩
    | sweep => exact .inr (.inl rfl)
    | setRoot fault => cases hc
  | validate id p criteria => exact absurd (of_decide_eq_true hc) hnew
  | validateShadow id p criteria =>
    have hid : a ∈ [id] := of_decide_eq_true hc
    rw [List.mem_singleton.mp hid]
    exact .inr (.inr ⟨p, criteria, rfl⟩)
  | validateBatch fresh proposals criteria => exact absurd (of_decide_eq_true hc) hnew
  | write w => cases hc

/-- **A call that concerns the shadow is answered alike**, and leaves gates that look alike. -/
theorem operations_congr (hb : g.host.backing = Store.backing) (r : Alike a g g')
    {c : Timed (Call Store.Write)} (hc : c.call.concerns a = true) (hnew : a ∉ c.call.newIds) :
    (operations Store.write g' c).1.about a = (operations Store.write g c).1.about a ∧
    Alike a (operations Store.write g c).2 (operations Store.write g' c).2 := by
  obtain ⟨hchecks, hpolicies⟩ := rules_operations Store.write g c
  obtain ⟨hchecks', hpolicies'⟩ := rules_operations Store.write g' c
  have hrules :
      Host.Alike a (operations Store.write g c).2.host (operations Store.write g' c).2.host →
      Alike a (operations Store.write g c).2 (operations Store.write g' c).2 := by
    intro hhost
    exact ⟨hhost, by rw [hchecks, hchecks', r.checks], by rw [hpolicies, hpolicies', r.policies]⟩
  obtain ⟨call, now⟩ := c
  rcases cases_of_concerns hc hnew with ⟨op, rfl⟩ | rfl | ⟨p, criteria, rfl⟩
  · refine ⟨?_, hrules (Host.alike_act r.host now op)⟩
    exact congrArg (fun answer => Answer.about a (.host answer))
      (Host.answer_act_congr hb r.host now op)
  · refine ⟨?_, hrules (Host.alike_sweep r.host now)⟩
    exact congrArg (fun lines => Answer.host (.swept lines)) (Host.answer_sweep_congr r.host now)
  · obtain ⟨hresult, hhost⟩ := validateShadow_congr r p criteria now
    exact ⟨congrArg (fun result => Answer.about a (.shadowReport result)) hresult, hrules hhost⟩

end Congr

/-! ## The theorem -/

section Sightings

variable {a : ShadowId} {g g' : Gate Store} {calls kept : List (Timed (Call Store.Write))}
  {held : List Handle}

/-- Handles that were attended to, and one more, are up to date. -/
theorem current_of_attended (held : List Handle) (slot : Option Shadow) :
    ∀ handle ∈ (held.map fun handle => handle.attend slot) ++ (slot.map Shadow.handle).toList,
      handle.attend slot = handle := by
  intro handle hmem
  rcases List.mem_append.mp hmem with hold | hnew
  · obtain ⟨old, -, rfl⟩ := List.mem_map.mp hold
    exact old.attend_attend slot
  · obtain ⟨s, rfl, rfl⟩ : ∃ s, slot = some s ∧ s.handle = handle := by
      simpa [Option.mem_toList] using hnew
    exact s.follow_handle

/-- **Two runs side by side**: gates that look alike give the same sightings, though one makes calls
that the other leaves out. -/
theorem sightings_congr (ho : Omits a calls kept) (r : Alike a g g')
    (hb : g.host.backing = Store.backing) (hnew : ∀ c ∈ calls, a ∉ c.call.newIds)
    (hcurrent : ∀ handle ∈ held, handle.attend (g.host.registry.get? a) = handle) :
    sightings a g held calls = sightings a g' held kept := by
  induction ho generalizing g g' held with
  | nil => rfl
  | @keep calls kept c ho ih =>
    have hrest : ∀ d ∈ calls, a ∉ d.call.newIds := fun d hd => hnew d (List.mem_cons_of_mem _ hd)
    cases hc : c.call.concerns a with
    | false =>
      -- each run goes its own step, and both still look as they did
      have r' : Alike a (operations Store.write g c).2 (operations Store.write g' c).2 :=
        (alike_of_unconcerned _ g c hc).symm.trans (r.trans (alike_of_unconcerned _ g' c hc))
      simp only [sightings, hc, Bool.false_eq_true, if_false, r'.host.shadow]
      refine ih r' (backing_operations hb c) hrest fun handle hmem => ?_
      exact current_of_attended held _ handle (List.mem_append_left _ hmem)
    | true =>
      obtain ⟨hanswer, r'⟩ := operations_congr hb r hc (hnew c (List.mem_cons_self ..))
      simp only [sightings, hc, if_true, hanswer, r'.host.shadow]
      rw [ih r' (backing_operations hb c) hrest (current_of_attended held _)]
  | @drop calls kept c hc ho ih =>
    have hrest : ∀ d ∈ calls, a ∉ d.call.newIds := fun d hd => hnew d (List.mem_cons_of_mem _ hd)
    have r₀ : Alike a g (operations Store.write g c).2 := alike_of_unconcerned _ g c hc
    -- the handles were up to date, and the shadow has not changed
    have hheld : (held.map fun handle => handle.attend (g.host.registry.get? a)) = held := by
      rw [List.map_congr_left hcurrent, List.map_id']
    simp only [sightings, hc, Bool.false_eq_true, if_false, r₀.host.shadow, hheld]
    refine ih (r₀.symm.trans r) (backing_operations hb c) hrest ?_
    rw [r₀.host.shadow]
    exact hcurrent

/-- **What can be seen of a shadow does not depend on anything else.** Take a run of a gate over a
live store and a shadow of it, and leave out calls that neither name the shadow nor sweep, any of
them and as many as one likes. Then every call that does concern the shadow is answered the same, as
far as the answer is about the shadow, and leaves the same shadow and the same behind every handle
of it. -/
theorem sightings_of_omits (live : Store) (settings : Settings) (retention : Retention)
    (checks : CheckSet) (policies : PolicyTable) (before : List (Timed (Call Store.Write)))
    {g : Gate Store}
    (hrun : g = (operations Store.write).run (start live settings retention checks policies) before)
    (homits : Omits a calls kept) (hnew : ∀ c ∈ calls, a ∉ c.call.newIds) :
    sightings a g (g.host.handle? a).toList calls =
      sightings a g (g.host.handle? a).toList kept := by
  have hb : g.host.backing = Store.backing := by
    rw [hrun]
    exact backing_run rfl before
  refine sightings_congr homits (Alike.refl a g) hb hnew fun handle hmem => ?_
  exact current_of_attended [] (g.host.registry.get? a) handle hmem

/-- Another id. -/
def otherId : ShadowId := ⟨2⟩

/-- A change of the sample shadow, a sweep, and a look at the shadow. -/
def quietCalls : List (Timed (Call Store.Write)) :=
  [⟨.host (.on Host.sampleId (.log "tuning" (.obj [("key", .str "rate")]))), 2⟩,
   ⟨.host .sweep, 5⟩,
   ⟨.host (.on Host.sampleId (.read "rate")), 6⟩]

/-- The same between a write to the same record and the life of another shadow. -/
def crowdedCalls : List (Timed (Call Store.Write)) :=
  [⟨.host (.create otherId .memoryOnly), 1⟩,
   ⟨.host (.on Host.sampleId (.log "tuning" (.obj [("key", .str "rate")]))), 2⟩,
   ⟨.write (.put "rate" (.bool false)), 3⟩,
   ⟨.host (.on otherId .discard), 4⟩,
   ⟨.host .sweep, 5⟩,
   ⟨.host (.on Host.sampleId (.read "rate")), 6⟩]

/-- The sample shadow looks the same with and without the crowd. -/
theorem sightings_of_sample_omits :
    Omits Host.sampleId crowdedCalls quietCalls ∧
    (∀ c ∈ crowdedCalls, Host.sampleId ∉ c.call.newIds) ∧
    ∃ g, g = (operations Store.write).run sampleGate
        [⟨.host (.create Host.sampleId .memoryOnly), 0⟩] ∧
      (sightings Host.sampleId g (g.host.handle? Host.sampleId).toList crowdedCalls).length = 3 ∧
      sightings Host.sampleId g (g.host.handle? Host.sampleId).toList crowdedCalls =
        sightings Host.sampleId g (g.host.handle? Host.sampleId).toList quietCalls := by
  have homits : Omits Host.sampleId crowdedCalls quietCalls :=
    .drop _ rfl (.keep _ (.drop _ rfl (.drop _ rfl (.keep _ (.keep _ .nil)))))
  have hnew : ∀ c ∈ crowdedCalls, Host.sampleId ∉ c.call.newIds := by decide
  exact ⟨homits, hnew, _, rfl, rfl,
    sightings_of_omits {} {} .exact .builtin {} _ rfl homits hnew⟩

end Sightings

end Gate

end ShadowGate
