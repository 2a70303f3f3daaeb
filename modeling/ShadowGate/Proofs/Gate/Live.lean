import ShadowGate.Proofs.Gate.Call
import ShadowGate.Proofs.Host.Live

/-!
# Live state under a gate

A gate over a live store, its host at work and writes going past both, in any order: live state is
what the writes and the merged logs make of it, one after the other.

* `Store.Write.onState` — what a write does to the primary records.
* `Gate.Merges`, `Gate.writes` — the events that merge a shadow, and the writes that an event makes.
* `Gate.live_event` — what one event does to live state; `Gate.live_run` a run.
* `Gate.Settled` — **the invariant** behind "at most once": every merged id was created, and is
  spent.
* `Gate.live_is_of_writes_and_merges` — the theorem.
-/

namespace ShadowGate

/-- **What a write does to the primary records.** -/
def Store.Write.onState : Store.Write → Tree → Tree
  | .put key value, t => t.put key value
  | .putIn tree key value, t => if tree = stateTree then t.put key value else t
  | .apply e, t => e.mutation.apply t

theorem Store.state_write (w : Store.Write) (s : Store) :
    (Store.write w s).state = w.onState s.state := by
  cases w with
  | put key value => exact s.tree_setTree_self _ _
  | putIn tree key value =>
    simp only [write, Write.onState]
    split
    · rename_i htree
      subst htree
      exact s.tree_setTree_self _ _
    · rename_i htree
      exact s.tree_setTree_ne (Ne.symm htree) _
  | apply e => exact s.state_apply e

theorem Store.state_foldl_write (ws : List Store.Write) (s : Store) :
    (ws.foldl (fun s w => Store.write w s) s).state =
      ws.foldl (fun t w => w.onState t) s.state := by
  induction ws generalizing s with
  | nil => rfl
  | cons w rest ih =>
    rw [List.foldl_cons, List.foldl_cons, ih, state_write]

namespace Gate

/-! ## Events -/

/-- An event of a gate over a live store. -/
abbrev LiveEvent : Type := Event (Gate Store) (Timed (Call Store.Write)) Answer

variable {g : Gate Store} {id : ShadowId} {c : Timed (Call Store.Write)} {past : List LiveEvent}

/-- The event merges a shadow. -/
def Merges (id : ShadowId) (e : LiveEvent) : Prop :=
  ∃ report m, e.call.call = .host (.on id (.merge report)) ∧ e.answer = .host (.merged (.ok m))

/-- The changes logged in a shadow of the gate's host. -/
def logOf (g : Gate Store) (id : ShadowId) : List ChangeEntry :=
  match g.host.registry.get? id with
  | none => []
  | some s => s.log

/-- **The writes that an event makes to live state**: its own, or the changes of the log that it
merges. -/
def writes (e : LiveEvent) : List Store.Write :=
  match e.call.call, e.answer with
  | .write w, _ => [w]
  | .host (.on id (.merge _)), .host (.merged (.ok _)) => (e.before.logOf id).map .apply
  | _, _ => []

/-- An event that is neither a write nor a merge writes nothing. -/
theorem writes_eq_nil {e : LiveEvent} (hw : ∀ w, e.call.call ≠ .write w)
    (hm : ∀ id, ¬ Merges id e) : writes e = [] := by
  rw [writes]
  split
  · rename_i hcall
    exact absurd hcall (hw _)
  · rename_i id report m hcall hanswer
    exact absurd ⟨report, m, hcall, hanswer⟩ (hm id)
  · rfl

/-! ## Live state -/

/-- The calls by which a gate serves itself leave live state alone. -/
theorem live_of_reach {h h' : Host Store} {ids new : List ShadowId}
    (hr : Host.Reach (Host.Call.Serves ids new) h h') (hb : h.backing = Store.backing) :
    h'.live = h.live := by
  have hkeep : h'.backing = Store.backing ∧ h'.live = h.live := by
    refine hr.invariant (I := fun h' => h'.backing = Store.backing ∧ h'.live = h.live) ?_ ⟨hb, rfl⟩
    rintro h' c hserves ⟨hb', hlive⟩
    obtain ⟨ids, hframe⟩ := Host.frame_operations h' c
    refine ⟨hframe.backing.trans hb', ?_⟩
    rw [Host.live_operations hb' c, hlive]
    intro id report hcall
    rw [hcall] at hserves
    exact hserves.2 report rfl
  exact hkeep.2

/-- What a merge does to live state. -/
theorem live_event_merge (hb : g.host.backing = Store.backing) (id : ShadowId) (report : Report)
    (now : Time) :
    (g.host.merge id report now).2.live =
      (writes ((operations Store.write).event g ⟨.host (.on id (.merge report)), now⟩)).foldl
        (fun s w => Store.write w s) g.host.live := by
  have hanswer : ((operations Store.write).event g ⟨.host (.on id (.merge report)), now⟩).answer =
      .host (.merged (g.host.merge id report now).1) := rfl
  rcases Host.merge_cases hb id report now with ⟨e, he⟩ | ⟨s, hs, -, hm, hlive⟩
  · rw [writes_eq_nil (fun w hcall => by cases hcall), he]
    · rfl
    · rintro id' ⟨report', m, -, hok⟩
      rw [hanswer, he] at hok
      cases hok
  · have hwrites : writes ((operations Store.write).event g ⟨.host (.on id (.merge report)), now⟩) =
        s.log.map .apply := by
      rw [writes, hanswer, hm]
      simp only [Machine.event, logOf, hs]
    rw [hwrites, List.foldl_map]
    exact hlive

/-- **What one event does to live state.** -/
theorem live_event (hb : g.host.backing = Store.backing) (c : Timed (Call Store.Write)) :
    (operations Store.write g c).2.host.live =
      (writes ((operations Store.write).event g c)).foldl (fun s w => Store.write w s)
        g.host.live := by
  obtain ⟨call, now⟩ := c
  cases call with
  | host own =>
    by_cases hmerge : ∃ id report, own = .on id (.merge report)
    · obtain ⟨id, report, rfl⟩ := hmerge
      exact live_event_merge hb id report now
    · -- no writes on the one side, and on the other a call that leaves live state alone
      have hquiet : writes ((operations Store.write).event g ⟨.host own, now⟩) = [] := by
        refine writes_eq_nil (fun w hcall => by cases hcall) ?_
        rintro id ⟨report, m, hcall, -⟩
        injection hcall with hown
        exact hmerge ⟨id, report, hown⟩
      rw [hquiet]
      refine Host.live_operations hb ⟨own, now⟩ ?_
      rintro id report rfl
      exact hmerge ⟨id, report, rfl⟩
  | validate id p criteria =>
    have hr := reach_operations Store.write g ⟨.validate id p criteria, now⟩ fun w => nofun
    exact live_of_reach hr hb
  | validateShadow id p criteria =>
    exact live_of_reach (g.reach_validateShadow id p criteria now) hb
  | validateBatch fresh proposals criteria =>
    have hr := reach_operations Store.write g ⟨.validateBatch fresh proposals criteria, now⟩
      fun w => nofun
    exact live_of_reach hr hb
  | write w => rfl

/-- A call keeps how live state is copied and changed. -/
theorem backing_operations (hb : g.host.backing = Store.backing) (c : Timed (Call Store.Write)) :
    (operations Store.write g c).2.host.backing = Store.backing := by
  refine host_invariant (I := fun h => h.backing = Store.backing) g c ?_ (fun _ _ hb => hb) hb
  intro h call _ hb
  obtain ⟨ids, hframe⟩ := Host.frame_operations h call
  exact hframe.backing.trans hb

theorem backing_run (hb : g.host.backing = Store.backing)
    (calls : List (Timed (Call Store.Write))) :
    ((operations Store.write).run g calls).host.backing = Store.backing :=
  (operations Store.write).run_invariant (I := fun g => g.host.backing = Store.backing)
    (fun _ c _ hb => backing_operations hb c) hb

/-- **A run**: live state is what the writes of its events make of it, in order. -/
theorem live_run (hb : g.host.backing = Store.backing) (calls : List (Timed (Call Store.Write))) :
    ((operations Store.write).run g calls).host.live =
      (((operations Store.write).history g calls).flatMap writes).foldl
        (fun s w => Store.write w s) g.host.live := by
  induction calls generalizing g with
  | nil => rfl
  | cons c rest ih =>
    rw [Machine.run, ih (backing_operations hb c), live_event hb c, Machine.history,
      List.flatMap_cons, List.foldl_append]

/-! ## Merges -/

/-- The ids of the shadows that a history creates. -/
def created (past : List LiveEvent) : List ShadowId := past.flatMap fun e => e.call.call.newIds

theorem created_history (g : Gate Store) (calls : List (Timed (Call Store.Write))) :
    created ((operations Store.write).history g calls) = calls.flatMap fun c => c.call.newIds := by
  have hflat := List.flatMap_map (fun e : LiveEvent => e.call) (fun c => c.call.newIds)
    (l := (operations Store.write).history g calls)
  rw [Machine.map_call_history] at hflat
  exact hflat.symm

/-- An id that is spent stays so, unless a shadow is created under it. -/
theorem spent_operations (c : Timed (Call Store.Write)) (hid : id ∉ c.call.newIds)
    (hspent : Host.Spent id g.host) : Host.Spent id (operations Store.write g c).2.host := by
  refine host_invariant (I := Host.Spent id) g c ?_ (fun _ _ hspent => hspent) hspent
  intro h call hallows hspent
  refine Host.spent_operations call (fun config hcreate => hid ?_) hspent
  rw [hcreate] at hallows
  exact mem_newIds_of_allows hallows

/-- **A merge is of a registered shadow, not spent before and spent afterwards.** -/
theorem spent_of_merges (hb : g.host.backing = Store.backing)
    (hm : Merges id ((operations Store.write).event g c)) :
    (∃ s, g.host.registry.get? id = some s) ∧ ¬ Host.Spent id g.host ∧
      Host.Spent id (operations Store.write g c).2.host := by
  obtain ⟨call, now⟩ := c
  obtain ⟨report, m, hcall, hanswer⟩ := hm
  obtain rfl : call = .host (.on id (.merge report)) := hcall
  rcases Host.merge_cases hb id report now with ⟨e, he⟩ | ⟨s, hs, hadmitted, -, -⟩
  · have hrefused :
        ((operations Store.write).event g ⟨.host (.on id (.merge report)), now⟩).answer =
        .host (.merged (g.host.merge id report now).1) := rfl
    rw [hrefused, he] at hanswer
    cases hanswer
  · exact ⟨⟨s, hs⟩, fun hspent => hspent.not_admitMerge hs hadmitted,
      Host.spent_of_admitMerge hs hadmitted⟩

/-- What a history in which no id is created twice leaves behind. -/
structure Settled (past : List LiveEvent) (g : Gate Store) : Prop where
  /-- live state is a live store -/
  backing : g.host.backing = Store.backing
  /-- every registered shadow was created -/
  known : ∀ id s, g.host.registry.get? id = some s → id ∈ created past
  /-- every merged shadow was created, and is spent -/
  spent : ∀ e ∈ past, ∀ id, Merges id e → id ∈ created past ∧ Host.Spent id g.host
  /-- no shadow is merged twice -/
  once : past.Pairwise fun e f => ∀ id, Merges id e → ¬ Merges id f

/-- **One call** leaves things settled. -/
theorem settled_step (past : List LiveEvent) (g : Gate Store) (c : Timed (Call Store.Write))
    (hs : (created past).Nodup → Settled past g)
    (hids : (created (past ++ [(operations Store.write).event g c])).Nodup) :
    Settled (past ++ [(operations Store.write).event g c]) (operations Store.write g c).2 := by
  have hcreated : created (past ++ [(operations Store.write).event g c]) =
      created past ++ c.call.newIds := by
    rw [created, List.flatMap_append, List.flatMap_singleton]
    rfl
  rw [hcreated] at hids
  obtain ⟨hpast, -, hnew⟩ := List.nodup_append.mp hids
  have hsettled := hs hpast
  refine ⟨backing_operations hsettled.backing c, ?_, ?_, ?_⟩
  · intro id s hreg
    rw [hcreated]
    rcases registered_of_operations c hreg with hid | ⟨s, hold⟩
    · exact List.mem_append_right _ hid
    · exact List.mem_append_left _ (hsettled.known id s hold)
  · intro e he id hm
    rw [hcreated]
    rcases List.mem_append.mp he with he | he
    · -- merged before: the id is none of the new ones, so nothing brings it back
      obtain ⟨hid, hspent⟩ := hsettled.spent e he id hm
      exact ⟨List.mem_append_left _ hid, spent_operations c (fun h => hnew id hid id h rfl) hspent⟩
    · rw [List.mem_singleton.mp he] at hm
      obtain ⟨⟨s, hreg⟩, -, hspent⟩ := spent_of_merges hsettled.backing hm
      exact ⟨List.mem_append_left _ (hsettled.known id s hreg), hspent⟩
  · refine List.pairwise_append.mpr ⟨hsettled.once, List.pairwise_singleton _ _, ?_⟩
    intro e he f hf id hm hm'
    -- the first merge spent the id, and the second needs it not spent
    rw [List.mem_singleton.mp hf] at hm'
    exact (spent_of_merges hsettled.backing hm').2.1 (hsettled.spent e he id hm).2

/-- **A run** leaves things settled, if it creates no id twice. -/
theorem settled_run (hb : g.host.backing = Store.backing)
    (hempty : ∀ id, g.host.registry.get? id = none) {calls : List (Timed (Call Store.Write))}
    (hids : (calls.flatMap fun c => c.call.newIds).Nodup) :
    Settled ((operations Store.write).history g calls) ((operations Store.write).run g calls) := by
  have hstart : (created []).Nodup → Settled [] g := by
    refine fun _ => ⟨hb, fun id s hs => ?_, fun e he => ?_, .nil⟩
    · rw [hempty id] at hs
      cases hs
    · cases he
  have hrun := (operations Store.write).history_invariant
    (P := fun past g => (created past).Nodup → Settled past g) settled_step calls hstart
  refine hrun ?_
  rw [List.nil_append, created_history]
  exact hids

/-! ## The theorem -/

/-- **Live state is touched only by writes and merges, and by the merge of a shadow at most once.**
In every run of a gate over a live store that creates no shadow id twice, live state ends as the
writes from outside and the logs of the merged shadows, in order, make of it; every other call
leaves it as it was; and no shadow is merged twice. -/
theorem live_is_of_writes_and_merges (live : Store) (settings : Settings) (retention : Retention)
    (checks : CheckSet) (policies : PolicyTable) (calls : List (Timed (Call Store.Write)))
    {g : Gate Store} (hstart : g = start live settings retention checks policies)
    {past : List LiveEvent} (hpast : past = (operations Store.write).history g calls)
    (hids : (calls.flatMap fun c => c.call.newIds).Nodup) :
    ((operations Store.write).run g calls).host.live =
      (past.flatMap writes).foldl (fun s w => Store.write w s) live ∧
    ((operations Store.write).run g calls).host.live.state =
      (past.flatMap writes).foldl (fun t w => w.onState t) live.state ∧
    (∀ e ∈ past, (∀ w, e.call.call ≠ .write w) → (∀ id, ¬ Merges id e) →
      e.after.host.live = e.before.host.live) ∧
    past.Pairwise fun e f => ∀ id, Merges id e → ¬ Merges id f := by
  subst hstart hpast
  have hb : (start live settings retention checks policies).host.backing = Store.backing := rfl
  have hlive := live_run hb calls
  refine ⟨hlive, ?_, ?_, (settled_run hb (fun id => rfl) hids).once⟩
  · rw [hlive]
    exact Store.state_foldl_write _ _
  · intro e he hw hm
    obtain ⟨before, c, after, -, rfl⟩ := Machine.mem_history _ he
    have hbefore := backing_run hb before
    have hevent := live_event hbefore c
    rw [writes_eq_nil hw hm] at hevent
    exact hevent

/-- In the sample run a record is written from outside and then by the merge of the one shadow, whose
value is what it has in the end. -/
theorem live_of_sample_is_of_writes_and_merges :
    (sampleCalls.flatMap fun c => c.call.newIds).Nodup ∧
    ((operations Store.write).history sampleGate sampleCalls).flatMap writes =
      [.put "rate" (.bool false),
       .apply ⟨1, "tuning", .obj [("key", .str "rate"), ("value", .bool true)]⟩] ∧
    ((operations Store.write).run sampleGate sampleCalls).host.live.state =
      ((∅ : Tree).put "rate" (.bool false)).put "rate" (.bool true) ∧
    ((operations Store.write).run sampleGate sampleCalls).host.live.state.bytesAt "rate" =
      some (Json.bool true).bytes := by
  have hids : (sampleCalls.flatMap fun c => c.call.newIds).Nodup := by decide
  have hwrites : ((operations Store.write).history sampleGate sampleCalls).flatMap writes =
      [.put "rate" (.bool false),
       .apply ⟨1, "tuning", .obj [("key", .str "rate"), ("value", .bool true)]⟩] := by
    set_option maxRecDepth 2000 in rfl
  obtain ⟨-, hstate, -, -⟩ :=
    live_is_of_writes_and_merges {} {} .exact .builtin {} sampleCalls rfl rfl hids
  have hfinal : ((operations Store.write).run sampleGate sampleCalls).host.live.state =
      ((∅ : Tree).put "rate" (.bool false)).put "rate" (.bool true) := by
    rw [← sampleGate, hwrites] at hstate
    exact hstate
  refine ⟨hids, hwrites, hfinal, ?_⟩
  rw [hfinal]
  exact SortedMap.get?_insert_self _ _ _

end Gate

end ShadowGate
