import ShadowGate.Gate
import ShadowGate.Proofs.Host.Transition

/-!
# Calls of a gate

Everything that can be asked of a gate and its host, and every write to live state that goes past
both, as data.

* `Gate.Call`, `Gate.operations` — the calls, and the machine that answers them. What writes to live
  state from outside is a parameter; `Store.write` is what it is for a live store.
* `Gate.Reached` — a gate as any run can leave it.
* `Host.Reach` — a host that calls of some kind lead to.
* `Gate.validateShadow_eq_ok` — what a shadow is like when it has been validated.
* `Gate.reach_operations` — **a gate works on its host by calls only**: validating a proposal is
  creating a shadow, logging into it, testing and cleaning it up; validating a shadow is opening,
  testing and closing. What every call of a host keeps, a gate keeps too.
-/

namespace ShadowGate

/-! ## Writes from outside -/

/-- A write to a live store that goes past the host. -/
inductive Store.Write where
  /-- store a primary record -/
  | put (key : String) (value : Json)
  /-- store a record in a tree -/
  | putIn (tree key : String) (value : Json)
  /-- apply a change -/
  | apply (e : ChangeEntry)

/-- The store after a write. -/
def Store.write : Store.Write → Store → Store
  | .put key value, s => s.put key value
  | .putIn tree key value, s => s.putIn tree key value
  | .apply e, s => s.apply e

/-! ## Calls -/

namespace Gate

variable {σ ω : Type}

/-- What can be asked of a gate or its host, or happen to live state. -/
inductive Call (ω : Type) where
  /-- a call of the host -/
  | host (call : Host.Call)
  /-- validate a proposal, with a shadow under a fresh id -/
  | validate (id : ShadowId) (p : Proposal) (c : Criteria)
  /-- validate the changes logged in a shadow -/
  | validateShadow (id : ShadowId) (p : Proposal) (c : Criteria)
  /-- validate proposals one by one, with shadows under fresh ids -/
  | validateBatch (fresh : Nat → ShadowId) (proposals : List Proposal) (c : Criteria)
  /-- a write to live state from outside -/
  | write (w : ω)

/-- The answer to a call. -/
inductive Answer where
  | host (answer : Host.Answer)
  | report (report : Report)
  | shadowReport (result : Except ShadowError Report)
  | reports (reports : List Report)
  | written

/-- **The gate answers calls.** -/
def operations (act : ω → σ → σ) : Machine (Gate σ) (Timed (Call ω)) Answer := fun g c =>
  match c.call with
  | .host call => (Host.operations g.host ⟨call, c.now⟩).map .host fun host => { g with host }
  | .validate id p criteria => (g.validate id p criteria c.now).map .report fun g => g
  | .validateShadow id p criteria =>
    (g.validateShadow id p criteria c.now).map .shadowReport fun g => g
  | .validateBatch fresh proposals criteria =>
    (g.validateBatch fresh proposals criteria c.now).map .reports fun g => g
  | .write w => (.written, { g with host := { g.host with live := act w g.host.live } })

/-- A gate over a live store, with no shadows yet and nothing on record. -/
def start (live : Store) (settings : Settings) (retention : Retention) (checks : CheckSet)
    (policies : PolicyTable) : Gate Store where
  host := .start Store.backing live settings retention
  checks := checks
  policies := policies

/-- A gate over any state with a backing store, with no shadows yet and nothing on record. -/
def startOn (backing : Backing σ) (live : σ) (settings : Settings) (retention : Retention)
    (checks : CheckSet) (policies : PolicyTable) : Gate σ where
  host := .start backing live settings retention
  checks := checks
  policies := policies

/-- A gate that calls, and writes past it, can lead to from such a start. -/
def Reached (act : ω → σ → σ) (backing : Backing σ) (retention : Retention) (g : Gate σ) : Prop :=
  ∃ live settings checks policies calls,
    g = (operations act).run (startOn backing live settings retention checks policies) calls

/-- The ids of the shadows that a call creates. -/
def Call.newIds : Call ω → List ShadowId
  | .host (.create id _) => [id]
  | .validate id _ _ => [id]
  | .validateBatch fresh proposals _ => (List.range proposals.length).map fresh
  | _ => []

/-- The ids that a call names: of the shadows it creates, and of those it works on. -/
def Call.ids : Call ω → List ShadowId
  | .host (.on id _) => [id]
  | .validateShadow id _ _ => [id]
  | c => c.newIds

/-! ## A sample -/

/-- A gate over an empty live store. -/
def sampleGate : Gate Store := start {} {} .exact .builtin {}

/-- The proposal `p` approved for a sample shadow, then a write to live state, then the merge. -/
def sampleCalls : List (Timed (Call Store.Write)) :=
  Host.sampleCalls.map (fun c => ⟨.host c.call, c.now⟩) ++
    [⟨.write (.put "rate" (.bool false)), 4⟩,
     ⟨.host (.on Host.sampleId (.merge Host.sampleReport)), 5⟩]

end Gate

/-! ## Calls that lead from one host to another -/

namespace Host

variable {σ : Type} {P : Call → Prop} {h h' h'' : Host σ}

/-- Calls of some kind lead from one host to another. -/
inductive Reach (P : Call → Prop) (h : Host σ) : Host σ → Prop where
  | refl : Reach P h h
  | step {h' : Host σ} (hr : Reach P h h') (c : Timed Call) (hc : P c.call) :
    Reach P h (operations h' c).2

theorem Reach.call (c : Timed Call) (hc : P c.call) : Reach P h (operations h c).2 :=
  Reach.refl.step c hc

theorem Reach.trans (hr : Reach P h h') (hr' : Reach P h' h'') : Reach P h h'' := by
  induction hr' with
  | refl => exact hr
  | step _ c hc ih => exact ih.step c hc

/-- What calls of a kind keep, holds of every host that they lead to. -/
theorem Reach.invariant {I : Host σ → Prop}
    (hstep : ∀ h (c : Timed Call), P c.call → I h → I (operations h c).2) (hr : Reach P h h')
    (hi : I h) : I h' := by
  induction hr with
  | refl => exact hi
  | step _ c hc ih => exact hstep _ c hc ih

/-- The calls by which a gate works on its host: shadows are created under new ids, and nothing is
merged. -/
def Call.Serves (ids new : List ShadowId) : Call → Prop
  | .create id _ => id ∈ new
  | .on id op => id ∈ ids ∧ ∀ report, op ≠ .merge report
  | .sweep => False
  | .setRoot _ => False

variable {ids new : List ShadowId} {id : ShadowId}

theorem reach_act (now : Time) (op : Shadow.Op) (hid : id ∈ ids)
    (hop : ∀ report, op ≠ .merge report) :
    Reach (Call.Serves ids new) h (h.act id now op).2 :=
  .call ⟨.on id op, now⟩ ⟨hid, hop⟩

theorem reach_logAll (h : Host σ) (now : Time) (kind : String) (payloads : List Json)
    (hid : id ∈ ids) : Reach (Call.Serves ids new) h (h.logAll id now kind payloads).2 := by
  induction payloads generalizing h with
  | nil => exact .refl
  | cons data rest ih =>
    have hlog : Reach (Call.Serves ids new) h (h.log id now kind data).2 :=
      reach_act now (.log kind data) hid fun _ => nofun
    simp only [logAll]
    split
    · rename_i e h' heq
      rw [heq] at hlog
      exact hlog
    · rename_i entry h' heq
      rw [heq] at hlog
      exact hlog.trans (ih h')

theorem reach_exercise (h : Host σ) (p : Proposal) (now : Time) (hid : id ∈ ids) :
    Reach (Call.Serves ids new) h (h.exercise id p now).2 := by
  have hlogs : Reach (Call.Serves ids new) h (h.logProposal id now p).2 :=
    reach_logAll h now p.category.tag p.payloads hid
  rw [exercise]
  split
  · rename_i e h' hlog
    rw [hlog] at hlogs
    exact hlogs
  · rename_i entries h' hlog
    rw [hlog] at hlogs
    exact hlogs.trans (reach_act now .testRollback hid fun _ => nofun)

/-- **Exercising an undo path** is creating a shadow, logging into it, testing it and cleaning it
up. -/
theorem reach_probe (h : Host σ) (p : Proposal) (now : Time) (hid : id ∈ ids) (hnew : id ∈ new) :
    Reach (Call.Serves ids new) h (h.probe id p now).2 := by
  have hcreate : Reach (Call.Serves ids new) h (h.create id probeConfig now).2 :=
    .call ⟨.create id probeConfig, now⟩ hnew
  rw [probe]
  split
  · rename_i e h' heq
    rw [heq] at hcreate
    exact hcreate
  · rename_i h' heq
    rw [heq] at hcreate
    refine hcreate.trans ((reach_exercise h' p now hid).trans ?_)
    exact reach_act now .cleanup hid fun _ => nofun

end Host

/-! ## The host's share in a call of the gate -/

namespace Gate

open Host (Reach)

variable {σ ω : Type}

theorem reach_evaluateAll (g : Gate σ) (fresh : Nat → ShadowId) (c : Criteria) (now : Time)
    (proposals : List Proposal) {ids : List ShadowId}
    (hids : ∀ n < proposals.length, fresh n ∈ ids) :
    Reach (Host.Call.Serves ids ids) g.host (g.evaluateAll fresh c now proposals).2.host := by
  induction proposals generalizing g fresh with
  | nil => exact .refl
  | cons p rest ih =>
    have hfirst : fresh 0 ∈ ids := hids 0 (Nat.succ_pos _)
    have hrest : ∀ n < rest.length, fresh (n + 1) ∈ ids := by
      intro n hn
      exact hids (n + 1) (by simpa using hn)
    exact (Host.reach_probe g.host p now hfirst hfirst).trans
      (ih { g with host := (g.host.probe (fresh 0) p now).2 } (fun n => fresh (n + 1)) hrest)

/-- **Validating a shadow** is opening a validation, testing and closing it. -/
theorem reach_validateShadow (g : Gate σ) (id : ShadowId) (p : Proposal) (c : Criteria)
    (now : Time) :
    Reach (Host.Call.Serves [id] []) g.host (g.validateShadow id p c now).2.host := by
  have hid : id ∈ [id] := List.mem_singleton_self id
  have hbegin : Reach (Host.Call.Serves [id] []) g.host (g.host.beginValidation id now).2 :=
    Host.reach_act now .beginValidation hid fun _ => nofun
  have htest : ∀ h : Host σ, Reach (Host.Call.Serves [id] []) h (h.testRollback id now).2 :=
    fun h => Host.reach_act now .testRollback hid fun _ => nofun
  have hrecord : ∀ (h : Host σ) (changeId : String) (passed : Bool),
      Reach (Host.Call.Serves [id] []) h (h.recordValidation id changeId passed).2 :=
    fun h changeId passed =>
      Host.reach_act now (.recordValidation changeId passed) hid fun _ => nofun
  rw [validateShadow]
  split
  · rename_i e host heq
    rw [heq] at hbegin
    exact hbegin
  · rename_i host heq
    rw [heq] at hbegin
    have htest' := htest host
    split
    · rename_i e host' heq'
      rw [heq'] at htest'
      exact hbegin.trans (htest'.trans (hrecord host' p.id false))
    · rename_i ready host' heq'
      rw [heq'] at htest'
      have hclose := hrecord host' (g.assess p c { ready } now).changeId
        (g.assess p c { ready } now).isApproved
      rw [conclude]
      split
      · rename_i e host'' heq''
        rw [heq''] at hclose
        exact hbegin.trans (htest'.trans hclose)
      · rename_i status host'' heq''
        rw [heq''] at hclose
        exact hbegin.trans (htest'.trans hclose)

/-- **A shadow that was validated** was open for it, and has the verdict of the report now; of the
rest, only the private copy may differ. -/
theorem validateShadow_eq_ok {g : Gate σ} {id : ShadowId} {p : Proposal} {c : Criteria}
    {now : Time} {report : Report} (h : (g.validateShadow id p c now).1 = .ok report) :
    ∃ s ready storage, g.host.registry.get? id = some s ∧ s.ensureOpen now = .ok () ∧
      report = g.assess p c { ready } now ∧
      (g.validateShadow id p c now).2.host.registry.get? id =
        some { s.recorded p.id report.isApproved with storage } := by
  rcases hbegin : g.host.beginValidation id now with ⟨e | ⟨⟩, host⟩
  · simp [validateShadow, hbegin] at h
  rcases htest : host.testRollback id now with ⟨e | ready, tested⟩
  · simp [validateShadow, hbegin, htest] at h
  have hvalidate : g.validateShadow id p c now =
      { g with host := tested }.conclude id (g.assess p c { ready } now) := by
    simp only [validateShadow, hbegin, htest]
  rw [hvalidate, conclude] at h ⊢
  split at h
  · cases h
  · rename_i status closed hrecord
    obtain rfl := Except.ok.inj h
    -- the shadow that each step finds is the one that the step before it left
    obtain ⟨s, hs, hopened, hs₁⟩ := Host.onShadow_eq_ok hbegin
    obtain ⟨s₁, hs₁', -, hs₂⟩ := Host.onShadow_eq_ok htest
    obtain ⟨s₂, hs₂', hclosed, hs₃⟩ := Host.onShadow_eq_ok hrecord
    obtain rfl := Option.some.inj (hs₁.symm.trans hs₁')
    obtain rfl := Option.some.inj (hs₂.symm.trans hs₂')
    obtain ⟨hopen, hbegun⟩ := Shadow.beginValidation_eq_ok hopened
    obtain ⟨storage, htested⟩ := (s.beginValidation now).2.exists_testRollback now
    refine ⟨s, ready, storage, hs, hopen, rfl, hs₃.trans ?_⟩
    rw [Shadow.recordValidation_eq_ok hclosed, htested, hbegun]
    rfl

/-- The calls of its host by which a gate answers a call. -/
def Call.Allows (c : Call ω) (call : Host.Call) : Prop :=
  match c with
  | .host own => call = own
  | .write _ => False
  | c => call.Serves c.ids c.newIds

/-- **A gate works on its host by calls only**; a write goes past the host. -/
theorem reach_operations (act : ω → σ → σ) (g : Gate σ) (c : Timed (Call ω))
    (hw : ∀ w, c.call ≠ .write w) :
    Reach c.call.Allows g.host (operations act g c).2.host := by
  obtain ⟨call, now⟩ := c
  cases call with
  | host own => exact .call ⟨own, now⟩ rfl
  | validate id p criteria =>
    have hid : id ∈ [id] := List.mem_singleton_self id
    exact Host.reach_probe g.host p now hid hid
  | validateShadow id p criteria => exact g.reach_validateShadow id p criteria now
  | validateBatch fresh proposals criteria =>
    refine g.reach_evaluateAll fresh criteria now proposals fun n hn => ?_
    exact List.mem_map.mpr ⟨n, List.mem_range.mpr hn, rfl⟩
  | write w => exact absurd rfl (hw w)

/-- **What the calls that a gate makes of its host keep**, and every write, a call of the gate
keeps. -/
theorem host_invariant {I : Host σ → Prop} {act : ω → σ → σ} (g : Gate σ) (c : Timed (Call ω))
    (hcall : ∀ h (call : Timed Host.Call), c.call.Allows call.call → I h →
      I (Host.operations h call).2)
    (hwrite : ∀ h w, I h → I { h with live := act w h.live }) (hi : I g.host) :
    I (operations act g c).2.host := by
  by_cases hw : ∃ w, c.call = .write w
  · obtain ⟨call, now⟩ := c
    obtain ⟨w, rfl⟩ := hw
    exact hwrite g.host w hi
  · have hreach := reach_operations act g c fun w heq => hw ⟨w, heq⟩
    exact hreach.invariant hcall hi

/-- **What every call of a host keeps**, and every change of live state, a run of a gate keeps. -/
theorem host_invariant_run {I : Host σ → Prop} {act : ω → σ → σ} {g : Gate σ}
    (hcall : ∀ h (c : Timed Host.Call), I h → I (Host.operations h c).2)
    (hwrite : ∀ h live, I h → I { h with live }) (hi : I g.host)
    (calls : List (Timed (Call ω))) : I ((operations act).run g calls).host := by
  refine (operations act).run_invariant (I := fun g => I g.host) ?_ hi
  intro g c _ hg
  exact host_invariant g c (fun h call _ => hcall h call) (fun h w => hwrite h _) hg

/-- **What a host starts with, and every call of it and change of live state keeps**, holds of every
gate that a run can lead to. -/
theorem Reached.invariant {I : Host σ → Prop} {act : ω → σ → σ} {g : Gate σ} {backing : Backing σ}
    {retention : Retention} (hg : Reached act backing retention g)
    (hcall : ∀ h (c : Timed Host.Call), I h → I (Host.operations h c).2)
    (hwrite : ∀ h live, I h → I { h with live })
    (hstart : ∀ live settings, I (.start backing live settings retention)) : I g.host := by
  obtain ⟨live, settings, checks, policies, calls, rfl⟩ := hg
  exact host_invariant_run hcall hwrite (hstart live settings) calls

/-- A run keeps how live state is copied and changed, and how the registry retains. -/
theorem Reached.frame {act : ω → σ → σ} {g : Gate σ} {backing : Backing σ} {retention : Retention}
    (hg : Reached act backing retention g) :
    g.host.backing = backing ∧ g.host.registry.retention = retention := by
  refine hg.invariant (I := fun h => h.backing = backing ∧ h.registry.retention = retention) ?_
    (fun _ _ hh => hh) fun _ _ => ⟨rfl, rfl⟩
  rintro h c ⟨hbacking, hretention⟩
  obtain ⟨ids, hframe⟩ := Host.frame_operations h c
  exact ⟨hframe.backing.trans hbacking, hframe.retention.trans hretention⟩

/-- A gate creates shadows under the ids that the call brings. -/
theorem mem_newIds_of_allows {call : Call ω} {id : ShadowId} {config : ShadowConfig}
    (hallows : call.Allows (.create id config)) : id ∈ call.newIds := by
  cases call with
  | host own =>
    obtain rfl : Host.Call.create id config = own := hallows
    exact List.mem_singleton_self id
  | validate i p criteria => exact hallows
  | validateShadow i p criteria => exact hallows
  | validateBatch fresh proposals criteria => exact hallows
  | write w => cases hallows

/-- A shadow that is registered after a call was so before, or is created by it. -/
theorem registered_of_operations {act : ω → σ → σ} {g : Gate σ} {id : ShadowId}
    (c : Timed (Call ω)) {s : Shadow}
    (hs : (operations act g c).2.host.registry.get? id = some s) :
    id ∈ c.call.newIds ∨ ∃ s, g.host.registry.get? id = some s := by
  refine host_invariant (I := fun h => ∀ s, h.registry.get? id = some s →
    id ∈ c.call.newIds ∨ ∃ s, g.host.registry.get? id = some s) g c ?_ (fun _ _ hi => hi)
    (fun s hs => .inr ⟨s, hs⟩) s hs
  intro h call hallows hi s' hs'
  rcases Host.registered_of_operations call hs' with ⟨config, hcreate⟩ | ⟨s, hs⟩
  · rw [hcreate] at hallows
    exact .inl (mem_newIds_of_allows hallows)
  · exact hi s hs

/-- A call keeps the rules of the gate. -/
theorem rules_operations (act : ω → σ → σ) (g : Gate σ) (c : Timed (Call ω)) :
    (operations act g c).2.checks = g.checks ∧ (operations act g c).2.policies = g.policies := by
  have hall : ∀ (proposals : List Proposal) (g : Gate σ) (fresh : Nat → ShadowId)
      (criteria : Criteria),
      (g.evaluateAll fresh criteria c.now proposals).2.checks = g.checks ∧
      (g.evaluateAll fresh criteria c.now proposals).2.policies = g.policies := by
    intro proposals
    induction proposals with
    | nil => exact fun g fresh criteria => ⟨rfl, rfl⟩
    | cons p rest ih => exact fun g fresh criteria => ih _ _ _
  obtain ⟨call, now⟩ := c
  cases call with
  | host own => exact ⟨rfl, rfl⟩
  | validate id p criteria => exact ⟨rfl, rfl⟩
  | validateShadow id p criteria =>
    simp only [operations, Prod.map_snd, validateShadow]
    split
    · exact ⟨rfl, rfl⟩
    · split
      · exact ⟨rfl, rfl⟩
      · simp only [conclude]
        split <;> exact ⟨rfl, rfl⟩
  | validateBatch fresh proposals criteria => exact hall proposals g fresh criteria
  | write w => exact ⟨rfl, rfl⟩

end Gate

end ShadowGate
