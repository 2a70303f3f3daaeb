import ShadowGate.Proofs.Gate.Call
import ShadowGate.Proofs.Host.Lifecycle

/-!
# Shadows of a gate, from first to last

Whatever a gate and its host were asked for, in any order, every shadow that is registered is sound;
and an id whose shadow was taken off the registry stays off it, because ids are not given twice.

* `Gate.Reached.sound` — along every run, every registered shadow is sound.
* `Gate.mem_newIds_of_run` — a shadow that a run leaves registered was there before, or is under an
  id that one of its calls brought.
* `Gate.Removed` — an event that leaves nothing registered where a shadow was.
* `Gate.registered_are_sound_and_removed_are_gone` — the theorem.
-/

namespace ShadowGate.Gate

variable {σ ω : Type} {act : ω → σ → σ} {g : Gate σ} {id : ShadowId}

/-! ## Registered shadows -/

/-- **A run** keeps how live state is copied and changed and how the registry retains, and keeps
every shadow sound if the registry drops what is removed. -/
theorem Reached.sound {backing : Backing σ} {retention : Retention}
    (hg : Reached act backing retention g) (hdrops : retention ≠ .sticky) :
    g.host.Sound ∧ g.host.registry.retention ≠ .sticky ∧ g.host.backing = backing := by
  obtain ⟨live, settings, checks, policies, calls, rfl⟩ := hg
  refine host_invariant_run (I := fun h => h.Sound ∧ h.registry.retention ≠ .sticky ∧
    h.backing = backing) ?_ (fun _ _ hh => hh) ⟨?_, hdrops, rfl⟩ calls
  · rintro h c ⟨hsound, hdrops, hbacking⟩
    obtain ⟨ids, hframe⟩ := Host.frame_operations h c
    refine ⟨Host.sound_operations hdrops c hsound, ?_, hframe.backing.trans hbacking⟩
    rw [hframe.retention]
    exact hdrops
  · intro id s hs
    cases hs

/-- **A run registers shadows under the ids that its calls bring**, and under no others. -/
theorem mem_newIds_of_run (hn : g.host.registry.get? id = none) {calls : List (Timed (Call ω))}
    {s : Shadow} (hs : ((operations act).run g calls).host.registry.get? id = some s) :
    id ∈ calls.flatMap fun c => c.call.newIds := by
  induction calls generalizing g with
  | nil =>
    rw [Machine.run, hn] at hs
    cases hs
  | cons c rest ih =>
    rw [List.flatMap_cons]
    cases hafter : (operations act g c).2.host.registry.get? id with
    | none => exact List.mem_append_right _ (ih hafter hs)
    | some s' =>
      rcases registered_of_operations c hafter with hid | ⟨old, hold⟩
      · exact List.mem_append_left _ hid
      · rw [hn] at hold
        cases hold

/-! ## Removed shadows -/

/-- The event is the merge, the discard or the cleanup of a shadow, or a sweep that names it. -/
def Removes (id : ShadowId) (e : Event (Gate σ) (Timed (Call ω)) Answer) : Prop :=
  ∃ call answer, e.call.call = .host call ∧ e.answer = .host answer ∧ Host.Removes id call answer

/-- The event leaves nothing registered under an id that had a shadow, or that its own call
brought. -/
def Removed (id : ShadowId) (e : Event (Gate σ) (Timed (Call ω)) Answer) : Prop :=
  (id ∈ e.call.call.newIds ∨ ∃ s, e.before.host.registry.get? id = some s) ∧
    e.after.host.registry.get? id = none

theorem removed_of_removes (hdrops : g.host.registry.retention ≠ .sticky) {c : Timed (Call ω)}
    (hr : Removes id ((operations act).event g c)) : Removed id ((operations act).event g c) := by
  obtain ⟨call, now⟩ := c
  obtain ⟨own, answer, hcall, hanswer, hremoves⟩ := hr
  obtain rfl : call = .host own := hcall
  obtain rfl : (Host.operations g.host ⟨own, now⟩).1 = answer := Answer.host.inj hanswer
  obtain ⟨hregistered, hgone⟩ := Host.removed_of_removes (c := ⟨own, now⟩) hdrops hremoves
  exact ⟨.inr hregistered, hgone⟩

/-- **An id that was removed stays so**, if no id is brought twice. -/
theorem unregistered_of_removed (hempty : ∀ id, g.host.registry.get? id = none)
    {before after : List (Timed (Call ω))} {c : Timed (Call ω)}
    (hids : ((before ++ c :: after).flatMap fun c => c.call.newIds).Nodup)
    (hr : Removed id ((operations act).event ((operations act).run g before) c)) :
    ((operations act).run g (before ++ c :: after)).host.registry.get? id = none := by
  obtain ⟨hknown, hgone⟩ := hr
  rw [List.append_cons, List.flatMap_append] at hids
  have hold : id ∈ (before ++ [c]).flatMap fun c => c.call.newIds := by
    rw [List.flatMap_append, List.flatMap_singleton]
    rcases hknown with hid | ⟨s, hs⟩
    · exact List.mem_append_right _ hid
    · exact List.mem_append_left _ (mem_newIds_of_run (hempty id) hs)
  rw [Machine.run_append, Option.eq_none_iff_forall_ne_some]
  intro s hs
  -- a shadow that came back would be under an id that was brought a second time
  have hnew : id ∈ after.flatMap fun c => c.call.newIds := mem_newIds_of_run hgone hs
  exact (List.nodup_append.mp hids).2.2 id hold id hnew rfl

/-! ## The theorem -/

/-- **Registered shadows are sound, and removed ones are gone for good.** In every run of a gate
that brings no shadow id twice, over a registry that drops what is removed: every registered shadow
is sound, and of its changes those that name no key are put at different ones. A shadow that is
merged, discarded, cleaned up or swept is removed; and from an event that removed it on, nothing is
registered under its id, and every operation on it says so. -/
theorem registered_are_sound_and_removed_are_gone (backing : Backing σ) (live : σ)
    (settings : Settings) (retention : Retention) (hdrops : retention ≠ .sticky) (checks : CheckSet)
    (policies : PolicyTable) (act : ω → σ → σ) (calls : List (Timed (Call ω)))
    (hids : (calls.flatMap fun c => c.call.newIds).Nodup) {g : Gate σ}
    (hstart : g = startOn backing live settings retention checks policies) :
    (∀ id s, ((operations act).run g calls).host.registry.get? id = some s →
      s.Sound ∧
      (∀ e ∈ s.log, e.payloadKey = none →
        e.mutation.key = e.kind ++ "/" ++ Number.natText e.id) ∧
      s.log.Pairwise fun e f =>
        e.payloadKey = none → f.payloadKey = none → e.mutation.key ≠ f.mutation.key) ∧
    ∀ before c after, calls = before ++ c :: after →
      ∀ e, e = (operations act).event ((operations act).run g before) c →
        ∀ id, (Removes id e → Removed id e) ∧
          (Removed id e → Host.Gone id ((operations act).run g calls).host) := by
  subst hstart
  have hreached : ∀ made, Reached act backing retention ((operations act).run
      (startOn backing live settings retention checks policies) made) :=
    fun made => ⟨live, settings, checks, policies, made, rfl⟩
  constructor
  · intro id s hs
    have hsound : s.Sound := ((hreached calls).sound hdrops).1 id s hs
    refine ⟨hsound, fun e _ he => ?_, hsound.numbered.ownKeys⟩
    exact ChangeEntry.key_of_keyless he
  · rintro before c after rfl e rfl id
    constructor
    · exact removed_of_removes ((hreached before).sound hdrops).2.1
    · intro hr
      exact Host.gone_of_get?_eq_none (unregistered_of_removed (fun _ => rfl) hids hr)

/-- A shadow with two changes that name no key, of types that look like keys; then its discard. -/
def keylessCalls : List (Timed (Call Store.Write)) :=
  [⟨.host (.create Host.sampleId .memoryOnly), 0⟩,
   ⟨.host (.on Host.sampleId (.log "a/1" (.obj []))), 1⟩,
   ⟨.host (.on Host.sampleId (.log "a" (.bool true))), 2⟩,
   ⟨.host (.on Host.sampleId .discard), 3⟩]

/-- Before the discard the shadow is sound and its changes are put at different keys; afterwards it
is gone. -/
theorem keyless_are_sound_and_discarded_are_gone :
    (∃ s, ((operations Store.write).run sampleGate
        (keylessCalls.take 3)).host.registry.get? Host.sampleId = some s ∧ s.Sound ∧
      s.log.map (fun e => e.mutation.key) = ["a/1/1", "a/2"]) ∧
    Host.Gone Host.sampleId ((operations Store.write).run sampleGate keylessCalls).host := by
  have hids : (keylessCalls.flatMap fun c => c.call.newIds).Nodup := by decide
  have hids' : ((keylessCalls.take 3).flatMap fun c => c.call.newIds).Nodup := by decide
  obtain ⟨s, hs, hkeys⟩ : ∃ s, ((operations Store.write).run sampleGate
      (keylessCalls.take 3)).host.registry.get? Host.sampleId = some s ∧
      s.log.map (fun e => e.mutation.key) = ["a/1/1", "a/2"] := ⟨_, rfl, by decide⟩
  obtain ⟨hsound, -⟩ := registered_are_sound_and_removed_are_gone Store.backing {} {} .exact
    (by decide) .builtin {} Store.write (keylessCalls.take 3) hids' rfl
  obtain ⟨-, hgone⟩ := registered_are_sound_and_removed_are_gone Store.backing {} {} .exact
    (by decide) .builtin {} Store.write keylessCalls hids rfl
  refine ⟨⟨s, hs, (hsound _ s hs).1, hkeys⟩, ?_⟩
  obtain ⟨hremoved, hend⟩ := hgone (keylessCalls.take 3) _ [] rfl _ rfl Host.sampleId
  exact hend (hremoved ⟨_, _, rfl, rfl, .discarded _⟩)

end ShadowGate.Gate
