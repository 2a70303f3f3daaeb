import ShadowGate.Proofs.Codec.Text
import ShadowGate.Proofs.Gate.View
import ShadowGate.Proofs.OwnKey

/-!
# Changes that name no key

Such a change is put at its type and number. Numbers are given shadow by shadow, so two changes of
one shadow never meet, and two of different shadows meet exactly if type and number are the same;
the merge that comes later then has the last word. Nothing else than a change that names the key, or
a write past the gate, can touch the record.

* `Store.Write.key?` — the primary record that a write is about;
  `Store.Write.bytesAt_foldl_onState` — **the frame**: every other record stays.
* `Shadow.Ascending` — **the invariant**: the numbers of a log ascend.
* `Gate.Undisturbed` — nothing that comes after a change is about its record.
* `Gate.keyless_changes_meet_across_shadows` — the theorem.
-/

namespace ShadowGate

/-! ## The record that a write is about -/

namespace Store.Write

/-- The key of the primary record that a write is about, if it is about one. -/
def key? : Store.Write → Option String
  | .put key _ => some key
  | .putIn tree key _ => if tree = stateTree then some key else none
  | .apply e => some e.mutation.key

variable {key : String}

/-- **One write** leaves the records alone that it is not about. -/
theorem bytesAt_onState {w : Store.Write} (hw : w.key? ≠ some key) (t : Tree) :
    (w.onState t).bytesAt key = t.bytesAt key := by
  have hput : ∀ (k : String) (v : Json), k ≠ key → (t.put k v).bytesAt key = t.bytesAt key := by
    intro k v hk
    exact SortedMap.get?_insert_ne _ (fun heq => hk (Text.toBytes_injective heq).symm) _
  cases w with
  | put k v => exact hput k v fun hk => hw (congrArg some hk)
  | putIn tree k v =>
    simp only [key?] at hw
    simp only [onState]
    split
    · rename_i htree
      rw [if_pos htree] at hw
      exact hput k v fun hk => hw (congrArg some hk)
    · rfl
  | apply e =>
    refine Mutation.get?_apply_ne _ _ fun heq => hw ?_
    exact congrArg some (Text.toBytes_injective heq).symm

/-- **A list of writes** leaves the records alone that none of them is about. -/
theorem bytesAt_foldl_onState {ws : List Store.Write} (hws : ∀ w ∈ ws, w.key? ≠ some key)
    (t : Tree) : (ws.foldl (fun t w => w.onState t) t).bytesAt key = t.bytesAt key := by
  induction ws generalizing t with
  | nil => rfl
  | cons w rest ih =>
    rw [List.foldl_cons, ih fun v hv => hws v (List.mem_cons_of_mem _ hv)]
    exact bytesAt_onState (hws w (List.mem_cons_self ..)) t

end Store.Write

/-- A value that a store keeps exactly is read back. -/
theorem readOf_of_storable {v : Json} (hv : v.Storable) : readOf (some v.bytes) = .ok (some v) := by
  simp only [readOf, Json.ofBytes?_bytes hv]

/-- A value that nests deeper than the reader follows is not. -/
theorem readOf_of_deep {v : Json} (hwhole : v.Whole) (hdeep : Json.maxDepth < v.depth) :
    readOf (some v.bytes) = .error .serialization := by
  simp only [readOf, Json.ofBytes?_bytes_of_deep hwhole hdeep]

theorem Store.read_eq (s : Store) (key : String) : s.read key = readOf (s.state.bytesAt key) := rfl

/-! ## Numbers of a log -/

namespace Shadow

variable {s s' : Shadow} {ρ : Retention} {now : Time} {op : Shadow.Op}

/-- **The numbers of the log ascend**, and the next one is above them. A number can be used up
without a change, so this is all that holds under every registry. -/
structure Ascending (s : Shadow) : Prop where
  /-- a later change has a higher number -/
  ids : s.log.Pairwise fun e f => e.id < f.id
  /-- the next change has a higher number still -/
  next : ∀ e ∈ s.log, e.id < s.nextChange

/-- **A logged change** takes the next number. -/
theorem Ascending.logged (hs : s.Ascending) (kind : String) (data : Json) :
    (s.logged kind data).Ascending := by
  have hnew : (s.nextEntry kind data).id = s.nextChange := rfl
  constructor
  · rw [log_logged]
    refine List.pairwise_append.mpr ⟨hs.ids, List.pairwise_singleton _ _, ?_⟩
    intro e he f hf
    rw [List.mem_singleton.mp hf, hnew]
    exact hs.next e he
  · intro e he
    rw [log_logged] at he
    rw [nextChange_logged]
    rcases List.mem_append.mp he with he | he
    · exact Nat.lt_succ_of_lt (hs.next e he)
    · rw [List.mem_singleton.mp he, hnew]
      exact Nat.lt_succ_self _

/-- **One operation** keeps the numbers ascending. -/
theorem Ascending.becomes (hs : s.Ascending) (hb : s.Becomes ρ now op s') : s'.Ascending := by
  cases hb with
  | logged => exact hs.logged _ _
  | numbered => exact ⟨hs.ids, fun e he => Nat.lt_succ_of_lt (hs.next e he)⟩
  | _ => exact ⟨hs.ids, hs.next⟩

end Shadow

namespace Host

variable {h : Host Store}

/-- The numbers of every registered log ascend. -/
def Ascending (h : Host Store) : Prop := ∀ id s, h.registry.get? id = some s → s.Ascending

/-- **One call** keeps the numbers ascending. -/
theorem ascending_operations (h : Host Store) (c : Timed Call) (hh : h.Ascending) :
    (operations h c).2.Ascending := by
  intro id s' hs'
  cases transition_of_get? c hs' with
  | forked config snapshot note hcall hsettle hnew =>
    subst hnew
    exact ⟨.nil, fun e he => absurd he List.not_mem_nil⟩
  | acted s op hcall hs hbecomes => exact (hh id s hs).becomes hbecomes
  | swept s hcall hs hsticky hnew =>
    subst hnew
    exact ⟨(hh id s hs).ids, (hh id s hs).next⟩
  | kept hcall hs => exact hh id s' hs

end Host

namespace Gate

variable {g : Gate Store} {id : ShadowId}

/-- **A run** keeps the numbers ascending. -/
theorem Reached.ascending {backing : Backing Store} {retention : Retention}
    (hg : Reached Store.write backing retention g) (id : ShadowId) :
    (g.logOf id).Pairwise fun e f => e.id < f.id := by
  have hh : g.host.Ascending := by
    refine hg.invariant Host.ascending_operations (fun _ _ hh => hh) fun live settings id s hs => ?_
    cases hs
  rw [logOf]
  cases hs : g.host.registry.get? id with
  | none => exact .nil
  | some s => exact (hh id s hs).ids

/-! ## Writes of a history -/

theorem writes_of_merges {e : LiveEvent} (hm : Merges id e) :
    writes e = (e.before.logOf id).map .apply := by
  obtain ⟨report, m, hcall, hanswer⟩ := hm
  rw [writes, hcall, hanswer]

/-- A write of an event is its own, or a change of the log that it merges. -/
theorem mem_writes {e : LiveEvent} {w : Store.Write} (hw : w ∈ writes e) :
    e.call.call = .write w ∨ ∃ id, Merges id e ∧ ∃ y ∈ e.before.logOf id, w = .apply y := by
  by_cases hown : ∃ v, e.call.call = .write v
  · obtain ⟨v, hv⟩ := hown
    rw [writes, hv] at hw
    rw [List.mem_singleton.mp hw]
    exact .inl hv
  · by_cases hm : ∃ id, Merges id e
    · obtain ⟨id, hm⟩ := hm
      rw [writes_of_merges hm] at hw
      obtain ⟨y, hy, rfl⟩ := List.mem_map.mp hw
      exact .inr ⟨id, hm, y, hy, rfl⟩
    · rw [writes_eq_nil (fun v hv => hown ⟨v, hv⟩) fun id h => hm ⟨id, h⟩] at hw
      cases hw

/-- A change is put elsewhere than another that names no key: it names another key, or it names none
and differs in type or number. -/
def Spares (y x : ChangeEntry) : Prop :=
  y.payloadKey ≠ some x.ownKey ∧ (y.payloadKey = none → ¬ (y.kind = x.kind ∧ y.id = x.id))

theorem Spares.key_ne {x y : ChangeEntry} (hy : Spares y x) :
    (Store.Write.apply y).key? ≠ some x.ownKey := by
  intro hkey
  rcases ChangeEntry.key_eq_ownKey_iff.mp (Option.some.inj hkey) with hnamed | ⟨hnone, hsame⟩
  · exact hy.1 hnamed
  · exact hy.2 hnone hsame

/-- **Nothing that comes after a change is about its record**: neither what is left of its own log,
nor what happens later. -/
structure Undisturbed (x : ChangeEntry) (rest : List ChangeEntry) (later : List LiveEvent) :
    Prop where
  /-- no change left in the log names its key -/
  named : ∀ y ∈ rest, y.payloadKey ≠ some x.ownKey
  /-- no write past the gate is about the record -/
  written : ∀ f ∈ later, ∀ w, f.call.call = .write w → w.key? ≠ some x.ownKey
  /-- every change of a log that is merged later is put elsewhere -/
  merged : ∀ f ∈ later, ∀ b, Merges b f → ∀ y ∈ f.before.logOf b, Spares y x

/-- **A record that nothing disturbs** outlasts what is left of the log and what happens later. -/
theorem Undisturbed.bytesAt {x : ChangeEntry} {rest : List ChangeEntry} {later : List LiveEvent}
    (hx : Undisturbed x rest later) (hids : ∀ y ∈ rest, x.id < y.id) (t : Tree) :
    ((rest.map Store.Write.apply ++ later.flatMap writes).foldl (fun t w => w.onState t)
      t).bytesAt x.ownKey = t.bytesAt x.ownKey := by
  refine Store.Write.bytesAt_foldl_onState (fun w hw => ?_) t
  rcases List.mem_append.mp hw with hw | hw
  · -- in its own log, the numbers that follow are higher
    obtain ⟨y, hy, rfl⟩ := List.mem_map.mp hw
    exact Spares.key_ne ⟨hx.named y hy, fun _ hsame => Nat.ne_of_gt (hids y hy) hsame.2⟩
  · obtain ⟨f, hf, hw⟩ := List.mem_flatMap.mp hw
    rcases mem_writes hw with hcall | ⟨b, hm, y, hy, rfl⟩
    · exact hx.written f hf w hcall
    · exact (hx.merged f hf b hm y hy).key_ne

/-- **One merge** leaves the record at the own key of a change alone if every change of the merged log
is put elsewhere. -/
theorem bytesAt_event_of_spares (hb : g.host.backing = Store.backing) {c : Timed (Call Store.Write)}
    (hm : Merges id ((operations Store.write).event g c)) {x : ChangeEntry}
    (hspares : ∀ y ∈ g.logOf id, Spares y x) :
    (operations Store.write g c).2.host.live.state.bytesAt x.ownKey =
      g.host.live.state.bytesAt x.ownKey := by
  rw [live_event hb c, writes_of_merges hm, Store.state_foldl_write]
  refine Store.Write.bytesAt_foldl_onState (fun w hw => ?_) _
  obtain ⟨y, hy, rfl⟩ := List.mem_map.mp hw
  exact (hspares y hy).key_ne

/-- **A run** that merges a change leaves its payload at its own key, if nothing disturbs it. -/
theorem Undisturbed.bytesAt_run (hb : g.host.backing = Store.backing)
    {calls : List (Timed (Call Store.Write))} {earlier later : List LiveEvent} {e : LiveEvent}
    (hpast : (operations Store.write).history g calls = earlier ++ e :: later) (hm : Merges id e)
    {before rest : List ChangeEntry} {x : ChangeEntry}
    (hlog : e.before.logOf id = before ++ x :: rest) (hids : ∀ y ∈ rest, x.id < y.id)
    (hnone : x.payloadKey = none) (hx : Undisturbed x rest later) :
    ((operations Store.write).run g calls).host.live.state.bytesAt x.mutation.key =
      some x.data.bytes := by
  -- the writes before the change, the change itself, and what comes after it
  have hwrites : (earlier ++ e :: later).flatMap writes =
      (earlier.flatMap writes ++ before.map Store.Write.apply) ++
        .apply x :: (rest.map Store.Write.apply ++ later.flatMap writes) := by
    simp [writes_of_merges hm, hlog]
  have hwritten : x.mutation.written = some x.data.bytes := by
    rw [ChangeEntry.mutation, hnone]
    rfl
  rw [live_run hb, hpast, hwrites, Store.state_foldl_write, List.foldl_append, List.foldl_cons,
    ChangeEntry.key_of_keyless hnone, hx.bytesAt hids, ← hwritten,
    ← ChangeEntry.key_of_keyless hnone]
  exact x.mutation.get?_apply_self _

/-! ## The theorem -/

/-- In a history in which no shadow is merged twice, a shadow is merged by one event. -/
theorem event_eq_of_merges {past : List LiveEvent}
    (honce : past.Pairwise fun e f => ∀ id, Merges id e → ¬ Merges id f) {e f : LiveEvent}
    (he : e ∈ past) (hf : f ∈ past) (hme : Merges id e) (hmf : Merges id f) : e = f := by
  obtain ⟨p, hp, rfl⟩ := List.getElem_of_mem he
  obtain ⟨q, hq, rfl⟩ := List.getElem_of_mem hf
  have hpairs := List.pairwise_iff_getElem.mp honce
  rcases Nat.lt_trichotomy p q with hpq | rfl | hqp
  · exact absurd hmf (hpairs p q hp hq hpq id hme)
  · rfl
  · exact absurd hme (hpairs q p hq hp hqp id hmf)

/-- Two places of a log with ascending numbers have different numbers. -/
theorem id_ne_of_ascending {log : List ChangeEntry} (hlog : log.Pairwise fun e f => e.id < f.id)
    {i j : Nat} {x y : ChangeEntry} (hx : log[i]? = some x) (hy : log[j]? = some y) (hij : i ≠ j) :
    x.id ≠ y.id := by
  obtain ⟨hi, rfl⟩ := List.getElem?_eq_some_iff.mp hx
  obtain ⟨hj, rfl⟩ := List.getElem?_eq_some_iff.mp hy
  have hpairs := List.pairwise_iff_getElem.mp hlog
  rcases Nat.lt_or_gt_of_ne hij with hlt | hgt
  · exact Nat.ne_of_lt (hpairs i j hi hj hlt)
  · exact Nat.ne_of_gt (hpairs j i hj hi hgt)

/-- **Changes that name no key meet only across shadows.** In every run of a gate over a live store
that creates no shadow id twice: of two such changes in merged logs, at different places, the keys
are the same exactly if they are of different shadows and have the same type and number. A merge
leaves the record at the own key of a change alone if every change of the merged log is put
elsewhere. And once a change that names no key is merged, the bytes of its payload are what stands at
its key in the end, unless something that came after it is about that record. A reader finds there
what these bytes decode to: the payload itself if a store keeps it exactly, and an error if it nests
deeper than the reader follows. -/
theorem keyless_changes_meet_across_shadows (live : Store) (settings : Settings)
    (retention : Retention) (checks : CheckSet) (policies : PolicyTable)
    (calls : List (Timed (Call Store.Write)))
    {g : Gate Store} (hstart : g = start live settings retention checks policies)
    {past : List LiveEvent} (hpast : past = (operations Store.write).history g calls)
    {final : Store} (hfinal : final = ((operations Store.write).run g calls).host.live)
    (hids : (calls.flatMap fun c => c.call.newIds).Nodup) :
    (∀ e ∈ past, ∀ f ∈ past, ∀ a b, Merges a e → Merges b f →
      ∀ (i j : Nat) (x y : ChangeEntry),
        (e.before.logOf a)[i]? = some x → (f.before.logOf b)[j]? = some y →
        x.payloadKey = none → y.payloadKey = none → ¬ (a = b ∧ i = j) →
        (x.mutation.key = y.mutation.key ↔ a ≠ b ∧ x.kind = y.kind ∧ x.id = y.id)) ∧
    (∀ f ∈ past, ∀ b, Merges b f → ∀ x, (∀ y ∈ f.before.logOf b, Spares y x) →
      f.after.host.live.state.bytesAt x.ownKey = f.before.host.live.state.bytesAt x.ownKey) ∧
    ∀ earlier e later, past = earlier ++ e :: later → ∀ a, Merges a e →
      ∀ before x rest, e.before.logOf a = before ++ x :: rest → x.payloadKey = none →
        Undisturbed x rest later →
        final.state.bytesAt x.mutation.key = some x.data.bytes ∧
        final.read x.mutation.key = readOf (some x.data.bytes) ∧
        (x.data.Storable → final.read x.mutation.key = .ok (some x.data)) ∧
        (x.data.Whole → Json.maxDepth < x.data.depth →
          final.read x.mutation.key = .error .serialization) := by
  have hb : g.host.backing = Store.backing := by rw [hstart]; rfl
  have honce : past.Pairwise fun e f => ∀ id, Merges id e → ¬ Merges id f := by
    rw [hpast]
    exact (settled_run hb (fun id => by rw [hstart]; rfl) hids).once
  have hascending : ∀ e ∈ past, ∀ id, (e.before.logOf id).Pairwise fun x y => x.id < y.id := by
    intro e he id
    rw [hpast] at he
    obtain ⟨made, c, rest, -, rfl⟩ := Machine.mem_history _ he
    have hreached : Reached Store.write Store.backing retention
        ((operations Store.write).run g made) :=
      ⟨live, settings, checks, policies, made, by rw [hstart]; rfl⟩
    exact hreached.ascending id
  refine ⟨?_, ?_, ?_⟩
  · intro e he f hf a b hme hmf i j x y hx hy hxnone hynone hplace
    rw [ChangeEntry.key_of_keyless hxnone, ChangeEntry.key_of_keyless hynone,
      ChangeEntry.ownKey_eq_iff]
    refine ⟨fun hsame => ⟨?_, hsame⟩, fun hsame => hsame.2⟩
    -- one shadow is merged by one event, and its log has a number once
    rintro rfl
    obtain rfl := event_eq_of_merges honce he hf hme hmf
    exact id_ne_of_ascending (hascending e he a) hx hy (fun hij => hplace ⟨rfl, hij⟩) hsame.2
  · intro f hf b hm x hspares
    rw [hpast] at hf
    obtain ⟨made, c, rest, -, rfl⟩ := Machine.mem_history _ hf
    exact bytesAt_event_of_spares (backing_run hb made) hm hspares
  · intro earlier e later hsplit a hm before x rest hlog hnone hx
    have hlower : ∀ y ∈ rest, x.id < y.id := by
      have hlogged := hascending e (by simp [hsplit]) a
      rw [hlog] at hlogged
      exact (List.pairwise_cons.mp (List.pairwise_append.mp hlogged).2.1).1
    have hbytes := hx.bytesAt_run hb (hpast ▸ hsplit) hm hlog hlower hnone
    rw [← hfinal] at hbytes
    have hread : final.read x.mutation.key = readOf (some x.data.bytes) := by
      rw [Store.read_eq, hbytes]
    exact ⟨hbytes, hread, fun hstorable => hread.trans (readOf_of_storable hstorable),
      fun hwhole hdeep => hread.trans (readOf_of_deep hwhole hdeep)⟩

/-- A second shadow beside the sample one. -/
def secondId : ShadowId := ⟨2⟩

/-- Two shadows with a note each, of which the first has a hint too, are merged one after the other.
-/
def meetingCalls : List (Timed (Call Store.Write)) :=
  let config := { ShadowConfig.memoryOnly with validationRequired := false }
  [⟨.host (.create Host.sampleId config), 0⟩,
   ⟨.host (.create secondId config), 0⟩,
   ⟨.host (.on Host.sampleId (.log "note" (.bool true))), 1⟩,
   ⟨.host (.on Host.sampleId (.log "hint" (.bool true))), 1⟩,
   ⟨.host (.on secondId (.log "note" (.bool false))), 1⟩,
   ⟨.host (.on Host.sampleId (.merge Host.sampleReport)), 2⟩,
   ⟨.host (.on secondId (.merge Host.sampleReport)), 2⟩]

/-- Its last two calls are the merges. -/
theorem meeting_merges :
    ∃ earlier e f, (operations Store.write).history sampleGate meetingCalls = earlier ++ [e, f] ∧
      Merges Host.sampleId e ∧ f.call.call = .host (.on secondId (.merge Host.sampleReport)) ∧
      Merges secondId f ∧
      e.before.logOf Host.sampleId = [⟨1, "note", .bool true⟩, ⟨2, "hint", .bool true⟩] ∧
      f.before.logOf secondId = [⟨1, "note", .bool false⟩] ∧
      e.after.host.live.state.bytesAt "note/1" = some (Json.bool true).bytes ∧
      f.after.host.live.state.bytesAt "note/1" = some (Json.bool false).bytes := by
  refine ⟨((operations Store.write).history sampleGate meetingCalls).take 5, _, _, rfl,
    ⟨Host.sampleReport, ?_⟩, rfl, ⟨Host.sampleReport, ?_⟩, ?_, ?_, ?_, ?_⟩
  · exact ⟨_, rfl, rfl⟩
  · exact ⟨_, rfl, rfl⟩
  · rfl
  · rfl
  · rfl
  · rfl

/-- The note of the second shadow is put where that of the first is, and takes its place. -/
theorem keyless_change_is_overwritten :
    (meetingCalls.flatMap fun c => c.call.newIds).Nodup ∧
    ∃ e ∈ (operations Store.write).history sampleGate meetingCalls,
      ∃ f ∈ (operations Store.write).history sampleGate meetingCalls,
      ∃ x ∈ e.before.logOf Host.sampleId, ∃ y ∈ f.before.logOf secondId,
        Merges Host.sampleId e ∧ Merges secondId f ∧ Host.sampleId ≠ secondId ∧
        x.payloadKey = none ∧ y.payloadKey = none ∧ x.mutation.key = y.mutation.key ∧
        e.after.host.live.state.bytesAt x.mutation.key = some x.data.bytes ∧
        f.after.host.live.state.bytesAt x.mutation.key = some y.data.bytes ∧
        x.data.bytes ≠ y.data.bytes := by
  obtain ⟨earlier, e, f, hpast, hme, -, hmf, hfirst, hsecond, hnoted, hlost⟩ := meeting_merges
  rw [hpast]
  refine ⟨by decide, e, by simp, f, by simp, ⟨1, "note", .bool true⟩, by simp [hfirst],
    ⟨1, "note", .bool false⟩, by simp [hsecond], hme, hmf, by decide, rfl, rfl, rfl, hnoted, hlost,
    ?_⟩
  decide

/-- The hint of the first shadow outlasts the merge of the second. -/
theorem keyless_hint_outlasts_merge :
    (meetingCalls.flatMap fun c => c.call.newIds).Nodup ∧ (Json.bool true).Storable ∧
    ∃ final, final = ((operations Store.write).run sampleGate meetingCalls).host.live ∧
      final.state.bytesAt "hint/2" = some (Json.bool true).bytes ∧
      final.read "hint/2" = .ok (some (.bool true)) := by
  have hids : (meetingCalls.flatMap fun c => c.call.newIds).Nodup := by decide
  have hstorable : (Json.bool true).Storable := ⟨trivial, Nat.zero_le _, trivial⟩
  obtain ⟨earlier, e, f, hpast, hme, hcall, hmf, hfirst, hsecond, -, -⟩ := meeting_merges
  obtain ⟨final, hfinal⟩ :
      ∃ final, final = ((operations Store.write).run sampleGate meetingCalls).host.live := ⟨_, rfl⟩
  obtain ⟨-, -, hlast⟩ := keyless_changes_meet_across_shadows (g := sampleGate) {} {} .exact
    .builtin {} meetingCalls rfl hpast.symm hfinal hids
  have hundisturbed : Undisturbed ⟨2, "hint", .bool true⟩ [] [f] := by
    refine ⟨fun y hy => absurd hy List.not_mem_nil, ?_, ?_⟩
    · intro f' hf' w hw
      rw [List.mem_singleton.mp hf', hcall] at hw
      cases hw
    · rintro f' hf' b ⟨report, m, hb, -⟩ y hy
      rw [List.mem_singleton.mp hf'] at hb hy
      obtain rfl : secondId = b := by
        rw [hcall] at hb
        cases hb
        rfl
      rw [hsecond, List.mem_singleton] at hy
      subst hy
      exact ⟨nofun, fun _ => by decide⟩
  obtain ⟨hbytes, -, hread, -⟩ := hlast earlier e [f] rfl Host.sampleId hme
    [⟨1, "note", .bool true⟩] ⟨2, "hint", .bool true⟩ [] hfirst rfl hundisturbed
  exact ⟨hids, hstorable, final, hfinal, hbytes, hread hstorable⟩

end Gate

end ShadowGate
