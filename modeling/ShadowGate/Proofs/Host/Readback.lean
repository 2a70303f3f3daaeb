import ShadowGate.Proofs.Codec.Text
import ShadowGate.Proofs.Host.Live
import ShadowGate.Proofs.Host.PrivateCopy
import ShadowGate.Proofs.Reading

/-!
# Writers and readers of a live store

A live store is written in three ways: a record is put, a change is applied, and a log is merged. It
is read in four: by a read, by a scan, through a snapshot, and through the handle of a shadow forked
from it. All of them go through the bytes under one key of one tree, so what was written is what is
read.

* `bytesAfter` — what mutations leave under a key: `Tree.bytesAt_apply` for one of them,
  `Tree.bytesAt_applyAll_map` for those of a log.
* `Host.Answers` — **the four readers answer alike**, which they always do: `Host.answers`.
* `Host.Reflects` — what the readers make of mutations; `Host.Reflects.of_bytesAt` gets it from the
  bytes.
* `Host.writes_are_read` — the theorem.
-/

namespace ShadowGate

/-! ## Writers -/

/-- The last of some mutations that is about a key. -/
def lastMutation (ms : List Mutation) (key : String) : Option Mutation :=
  ms.reverse.find? fun m => m.key == key

theorem lastMutation_singleton (m : Mutation) (key : String) :
    lastMutation [m] key = if m.key = key then some m else none := by
  simp [lastMutation, List.find?_singleton]

theorem lastMutation_map (log : List ChangeEntry) (key : String) :
    lastMutation (log.map (·.mutation)) key = (lastChange log key).map (·.mutation) := by
  rw [lastMutation, lastChange, ← List.map_reverse, List.find?_map]
  rfl

/-- The bytes under a key after some mutations, given those before. -/
def bytesAfter (ms : List Mutation) (key : String) (before : Option Bytes) : Option Bytes :=
  match lastMutation ms key with
  | some m => m.written
  | none => before

theorem Tree.bytesAt_apply (t : Tree) (m : Mutation) (key : String) :
    (m.apply t).bytesAt key = bytesAfter [m] key (t.bytesAt key) := by
  rw [bytesAfter, lastMutation_singleton]
  by_cases hkey : m.key = key
  · subst hkey
    simp [bytesAt, Mutation.get?_apply_self]
  · have hbytes : Text.toBytes key ≠ Text.toBytes m.key :=
      fun heq => hkey (Text.toBytes_injective heq).symm
    simp [hkey, bytesAt, Mutation.get?_apply_ne _ _ hbytes]

theorem Tree.bytesAt_applyAll_map (t : Tree) (log : List ChangeEntry) (key : String) :
    (t.applyAll log).bytesAt key = bytesAfter (log.map (·.mutation)) key (t.bytesAt key) := by
  rw [bytesAt_applyAll, bytesAfter, lastMutation_map]
  cases lastChange log key <;> rfl

/-! ## Readers -/

namespace Host

/-- **The four readers of a live store answer alike** under a key: a read gives the answer, a scan
lists and a snapshot shows the value if the answer is one, and a shadow forked now has a handle that
gives the answer too, unless the shadow is degraded; which it is not if its copy stays in memory or
its directory can be made. -/
structure Answers (h : Host Store) (key : String) (answer : Except StoreError (Option Json)) :
    Prop where
  /-- a read -/
  read : h.live.read key = answer
  /-- a scan -/
  scan : ∀ v, (key, v) ∈ h.live.scan ↔ answer = .ok (some v)
  /-- a snapshot -/
  snapshot : ∀ v, h.live.snapshot.get? key = some v ↔ answer = .ok (some v)
  /-- a shadow forked now, in a registry that keeps it -/
  forked : h.registry.retention ≠ .forgetful → ∀ id config now,
    ∃ handle, (h.create id config now).2.handle? id = some handle ∧
      (config.isolation = .inMemory ∨ h.rootFault = none → handle.isDegraded = false) ∧
      (handle.isDegraded = false → handle.read key = answer)

variable {h h' : Host Store} {key : String}

/-- A copy that stays in memory can always be made, and any other if its directory can. -/
theorem exists_copy {isolation : Isolation} (hmade : isolation = .inMemory ∨ h.rootFault = none)
    (id : ShadowId) (s : Snapshot) : ∃ copy, h.copy id isolation s = .ok copy := by
  rcases hmade with rfl | hroot
  · exact ⟨_, rfl⟩
  · cases isolation with
    | inMemory => exact ⟨_, rfl⟩
    | full =>
      simp only [Host.copy, hroot]
      exact ⟨_, rfl⟩

/-- A shadow forked from a live store has a handle on a copy of it, or is degraded. -/
theorem read_of_create (hb : h.backing = Store.backing) (hr : h.registry.retention ≠ .forgetful)
    (id : ShadowId) (config : ShadowConfig) (now : Time) :
    ∃ handle, (h.create id config now).2.handle? id = some handle ∧
      (config.isolation = .inMemory ∨ h.rootFault = none → handle.isDegraded = false) ∧
      (handle.isDegraded = false → ∀ key, handle.read key = h.live.read key) := by
  have hfork : (h.create id config now).2.registry.get? id =
      some (h.forkOf id config now h.live.snapshot none) := by
    have hsettle : settleSnapshot (h.backing.snapshot h.live).1 = .ok (h.live.snapshot, none) := by
      rw [hb]
      rfl
    have hkept : (h.backing.snapshot h.live).2 = h.live := by
      rw [hb]
      rfl
    simp only [create, hsettle, hkept, Registry.get?_insert_self, if_neg hr]
  refine ⟨_, by rw [handle?, hfork, Option.map_some], fun hmade => ?_, fun hsound key => ?_⟩
  · obtain ⟨copy, hcopy⟩ := exists_copy hmade id h.live.snapshot
    simp [Handle.isDegraded, Shadow.handle, forkOf, hcopy]
  · rcases h.forkOf_cases id config now h.live.snapshot none with
      ⟨copy, hcopy, hstorage, -⟩ | ⟨-, hdegraded⟩
    · have hstate : copy.state = h.live.state := state_copy hcopy
      simp only [Handle.read, Shadow.handle, hstorage, PrivateCopy.read, hstate]
      rfl
    · cases hdegraded.symm.trans hsound

/-- **The readers of a live store answer alike** under every key. -/
theorem answers (hb : h.backing = Store.backing) (key : String) :
    h.Answers key (h.live.read key) where
  read := rfl
  scan _ := Store.mem_scan_iff
  snapshot _ := Store.get?_snapshot_eq_some_iff
  forked hr id config now := by
    obtain ⟨handle, hhandle, hmade, hread⟩ := read_of_create hb hr id config now
    exact ⟨handle, hhandle, hmade, fun hsound => hread hsound key⟩

/-! ## Writes and reads -/

/-- **What the readers make of mutations**, done one after the other. Under a key that the last
mutation about it puts a value at, they give the value, if it is one that a store keeps exactly;
under one that it removes, they give nothing; and under all others they answer as before. -/
structure Reflects (h h' : Host Store) (ms : List Mutation) : Prop where
  /-- a value that was put is given back -/
  put : ∀ key v, lastMutation ms key = some (.put key v) → v.Storable →
    h'.Answers key (.ok (some v))
  /-- a key that was removed is absent -/
  removed : ∀ key, lastMutation ms key = some (.remove key) → h'.Answers key (.ok none)
  /-- other keys have the answer that they had -/
  other : ∀ key, (∀ m ∈ ms, m.key ≠ key) → ∃ answer, h.Answers key answer ∧ h'.Answers key answer

/-- The readers depend on the bytes under the key, and on nothing else. -/
theorem Reflects.of_bytesAt {ms : List Mutation} (hb : h.backing = Store.backing)
    (hb' : h'.backing = Store.backing)
    (hbytes : ∀ key, h'.live.state.bytesAt key = bytesAfter ms key (h.live.state.bytesAt key)) :
    Reflects h h' ms where
  put key v hlast hv := by
    have hread : h'.live.read key = .ok (some v) := by
      simp [Store.read, hbytes key, bytesAfter, hlast, Mutation.written, Json.ofBytes?_bytes hv]
    exact hread ▸ answers hb' key
  removed key hlast := by
    have hread : h'.live.read key = .ok none := by
      simp [Store.read, hbytes key, bytesAfter, hlast, Mutation.written]
    exact hread ▸ answers hb' key
  other key hother := by
    have hlast : lastMutation ms key = none := by simpa [lastMutation] using hother
    have hread : h'.live.read key = h.live.read key := by
      simp only [Store.read, hbytes key, bytesAfter, hlast]
    exact ⟨h.live.read key, answers hb key, hread ▸ answers hb' key⟩

/-- **What is written is what is read**, whatever the store holds. The bytes of a value decode to
it, for every value that a store keeps exactly. A put, a change that is applied and a merge are
reflected by all four readers: the last mutation about a key decides what they give there, and the
keys that no mutation is about keep their answers. A merge is refused and changes nothing, or the
mutations of the whole log are. -/
theorem writes_are_read (h : Host Store) (hb : h.backing = Store.backing) :
    (∀ v : Json, v.Storable → Json.ofBytes? v.bytes = some v) ∧
    (∀ key v, Reflects h { h with live := h.live.put key v } [.put key v]) ∧
    (∀ e : ChangeEntry, Reflects h { h with live := h.live.apply e } [e.mutation]) ∧
    (∀ id report now, (∃ e, h.merge id report now = (.error e, h)) ∨
      ∃ s m, h.registry.get? id = some s ∧ (h.merge id report now).1 = .ok m ∧
        Reflects h (h.merge id report now).2 (s.log.map (·.mutation))) := by
  refine ⟨fun v hv => Json.ofBytes?_bytes hv, fun key v => ?_, fun e => ?_, fun id report now => ?_⟩
  · refine .of_bytesAt hb hb fun k => ?_
    have hstate : (h.live.put key v).state = (Mutation.put key v).apply h.live.state := by
      simp [Store.put, Store.putIn, Store.state, Mutation.apply]
    rw [hstate, Tree.bytesAt_apply]
  · refine .of_bytesAt hb hb fun k => ?_
    rw [Store.state_apply, Tree.bytesAt_apply]
  · rcases merge_cases hb id report now with hrefused | ⟨s, hs, -, hanswer, hlive⟩
    · exact .inl hrefused
    · have hb' : (h.merge id report now).2.backing = Store.backing :=
        (frame_merge h id report now).backing.trans hb
      refine .inr ⟨s, _, hs, hanswer, .of_bytesAt hb hb' fun k => ?_⟩
      rw [hlive, Store.state_foldl_apply, Tree.bytesAt_applyAll_map]

/-- A value with an escaped name, numbers at the ends of their range and nothing in some places. -/
def intricate : Json :=
  .obj
    [("a \"b\"\n", .arr [.int (-2 ^ 63), .int (2 ^ 64 - 1), .str "\x07é\\", .obj []]),
     ("é", .null)]

theorem storable_intricate : intricate.Storable where
  whole := by simp [intricate, Json.Whole, Json.WholeFields, Json.WholeItems]
  shallow := by decide
  normal :=
    ⟨List.pairwise_pair.mpr (by decide),
      ⟨trivial, trivial, trivial, ⟨keySorted_nil, trivial⟩, trivial⟩, trivial, trivial⟩

/-- A live store with two records, and a shadow whose log puts a value twice under one key and
removes another. -/
def busyHost : Host Store :=
  operations.run
    (start Store.backing ((Store.put {} "old" (.bool true)).put "kept" (.bool true)) {} .exact)
    [⟨.create sampleId { ShadowConfig.memoryOnly with validationRequired := false }, 0⟩,
     ⟨.on sampleId (.log "tuning" (.obj [("key", .str "plan"), ("value", .bool false)])), 1⟩,
     ⟨.on sampleId (.log "tuning" (.obj [("key", .str "plan"), ("value", intricate)])), 2⟩,
     ⟨.on sampleId (.log "tuning" (.obj [("key", .str "old"), ("op", .str "delete")])), 3⟩]

/-- The readers give the value that was put last, nothing under the key that was removed, and what
they gave before under the third. -/
theorem merged_value_is_read :
    let merged := (busyHost.merge sampleId sampleReport 4).2
    intricate.Storable ∧ merged.Answers "plan" (.ok (some intricate)) ∧
      merged.Answers "old" (.ok none) ∧
      (∃ answer, busyHost.Answers "kept" answer ∧ merged.Answers "kept" answer) ∧
      ∃ handle, (merged.create ⟨2⟩ .memoryOnly 5).2.handle? ⟨2⟩ = some handle ∧
        handle.isDegraded = false ∧ handle.read "plan" = .ok (some intricate) := by
  intro merged
  obtain ⟨-, -, -, hmerge⟩ := writes_are_read busyHost rfl
  obtain ⟨m, hm⟩ : ∃ m, (busyHost.merge sampleId sampleReport 4).1 = .ok m := ⟨_, rfl⟩
  obtain ⟨t, ht, hlog⟩ : ∃ t, busyHost.registry.get? sampleId = some t ∧
      t.log.map (·.mutation) = [.put "plan" (.bool false), .put "plan" intricate, .remove "old"] :=
    ⟨_, rfl, rfl⟩
  rcases hmerge sampleId sampleReport 4 with ⟨e, hrefused⟩ | ⟨s, -, hs, -, hreflects⟩
  · rw [hrefused] at hm
    cases hm
  · obtain rfl := Option.some.inj (hs.symm.trans ht)
    rw [hlog] at hreflects
    have hplan := hreflects.put "plan" intricate rfl storable_intricate
    refine ⟨storable_intricate, hplan, hreflects.removed "old" rfl,
      hreflects.other "kept" (by simp [Mutation.key]), ?_⟩
    obtain ⟨handle, hhandle, hmade, hread⟩ := hplan.forked (by decide +kernel) ⟨2⟩ .memoryOnly 5
    have hsound : handle.isDegraded = false := hmade (.inl rfl)
    exact ⟨handle, hhandle, hsound, hread hsound⟩

end Host

end ShadowGate
