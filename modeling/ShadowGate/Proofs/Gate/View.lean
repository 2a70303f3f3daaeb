import ShadowGate.Proofs.Codec.Text
import ShadowGate.Proofs.Gate.Live
import ShadowGate.Proofs.Gate.Rollback

/-!
# Private views

What a shadow shows is decided by two things: the live store at the moment of the fork, and the log.
A fork comes out in one of three ways: as a full copy, with a snapshot that was refused and counts as
empty, or with a good snapshot of which no private copy could be made. Whatever happens afterwards,
to this shadow or to others and to the live store, the snapshot stays, the ancillary trees stay, and
the primary records are the base under the changes tried out.

* `Backing.CopiesTruly` — a copy of live state is refused or true.
* `Shadow.ForkedFrom` — what a shadow holds of the live store that it was forked from;
  `Gate.origin_operations` is one call, `Gate.originates_run` a run.
* `Shadow.Secluded` — **the invariant** of the ancillary trees; `Shadow.Rehearses` is that of the
  primary records.
* `Gate.private_views_are_exact` — the theorem.
-/

namespace ShadowGate

/-! ## True copies -/

namespace Backing

/-- **A copy is true or refused**, and taking it changes nothing. -/
structure CopiesTruly (b : Backing Store) : Prop where
  /-- a copy that is given is the store's own -/
  copied : ∀ live snapshot, (b.snapshot live).1 = .ok snapshot → snapshot = live.snapshot
  /-- the store is left as it was -/
  keeps : b.Keeps

end Backing

theorem Store.copiesTruly_backing : Store.backing.CopiesTruly where
  copied _ _ hcopy := (Except.ok.inj hcopy).symm
  keeps := Store.keeps_backing

theorem Outage.copiesTruly_backing (o : Outage) : o.backing.CopiesTruly where
  copied live snapshot hcopy := by
    simp only [backing] at hcopy
    cases hfault : o.snapshotFault with
    | some fault => simp [hfault] at hcopy
    | none => simpa [hfault, eq_comm] using hcopy
  keeps live := by
    simp only [backing]
    split <;> rfl

/-- A snapshot carries two trees beside the primary records, and no others. -/
theorem Store.ancillaryTree_snapshot (s : Store) (name : String) :
    s.snapshot.ancillaryTree name = if name ∈ ancillaryTrees then s.tree name else ∅ := by
  have hdistinct : agentStatesTree ≠ configurationTree := by decide
  by_cases hconfiguration : name = configurationTree
  · simp [hconfiguration, Snapshot.ancillaryTree, snapshot, ancillaryTrees, SortedMap.ofList]
  · by_cases hagents : name = agentStatesTree
    · simp [hagents, Snapshot.ancillaryTree, snapshot, ancillaryTrees, SortedMap.ofList,
        SortedMap.get?_insert_ne _ hdistinct]
    · simp [Snapshot.ancillaryTree, snapshot, ancillaryTrees, SortedMap.ofList, hagents,
        hconfiguration, SortedMap.get?_insert_ne _ hagents,
        SortedMap.get?_insert_ne _ hconfiguration]

theorem Backing.CopiesTruly.sparesProbe {b : Backing Store} (hb : b.CopiesTruly) :
    b.SparesProbe := by
  intro live snapshot hcopy
  obtain rfl := hb.copied live snapshot hcopy
  exact Store.sparesProbe_backing live _ rfl

/-! ## Forks -/

namespace Shadow

variable {s s' : Shadow} {ρ : Retention} {now : Time} {op : Shadow.Op}

/-- **What a shadow holds of the live store that it was forked from.** -/
structure ForkedFrom (b : Backing Store) (live : Store) (s : Shadow) : Prop where
  /-- the primary records and the ancillary trees, if the copy was given -/
  copied : ∀ snapshot, (b.snapshot live).1 = .ok snapshot →
    s.snapshot.records = live.tree stateTree ∧
    ∀ name, s.snapshot.ancillaryTree name = if name ∈ ancillaryTrees then live.tree name else ∅
  /-- nothing if it was not, and a note of that -/
  refused : ∀ fault, (b.snapshot live).1 = .error fault →
    s.snapshot = .empty ∧ s.degraded.isSome = true

theorem ForkedFrom.congr {b : Backing Store} {live : Store} (hf : s.ForkedFrom b live)
    (hsnapshot : s'.snapshot = s.snapshot) (hdegraded : s'.degraded = s.degraded) :
    s'.ForkedFrom b live := by
  constructor
  · intro snapshot hcopy
    rw [hsnapshot]
    exact hf.copied snapshot hcopy
  · intro fault hfault
    rw [hsnapshot, hdegraded]
    exact hf.refused fault hfault

/-- No snapshot holds a tree beside the two that are copied. -/
theorem ForkedFrom.ancillaryTree_of_not_mem {b : Backing Store} {live : Store}
    (hf : s.ForkedFrom b live) {name : String} (hname : name ∉ ancillaryTrees) :
    s.snapshot.ancillaryTree name = ∅ := by
  cases hcopy : (b.snapshot live).1 with
  | ok snapshot => rw [(hf.copied snapshot hcopy).2 name, if_neg hname]
  | error fault =>
    rw [(hf.refused fault hcopy).1]
    rfl

/-! ## Ancillary trees -/

/-- The ancillary tree that the shadow starts from; none if it is degraded. -/
def ancillaryBase (s : Shadow) (name : String) : Tree :=
  if s.degraded.isSome then ∅ else s.snapshot.ancillaryTree name

/-- **The ancillary trees of the private copy are those it was made with.** The scratch tree of
rollback tests comes and goes. -/
def Secluded (s : Shadow) : Prop :=
  ∀ copy, s.storage = some copy →
    ∀ name, name ≠ stateTree → name ≠ probeTree → copy.tree name = s.ancillaryBase name

theorem Secluded.congr (hs : s.Secluded) (hstorage : s'.storage = s.storage)
    (hbase : s'.ancillaryBase = s.ancillaryBase) : s'.Secluded := by
  intro copy hcopy
  rw [hbase]
  exact hs copy (hstorage ▸ hcopy)

theorem Secluded.of_released (hstorage : s.storage = none) : s.Secluded := by
  intro copy hcopy
  rw [hstorage] at hcopy
  cases hcopy

/-- A change in the copy that leaves the ancillary trees alone. -/
theorem Secluded.map (hs : s.Secluded) (f : PrivateCopy → PrivateCopy)
    (hf : ∀ copy name, name ≠ stateTree → name ≠ probeTree → (f copy).tree name = copy.tree name) :
    Secluded { s with storage := s.storage.map f } := by
  intro copy hcopy name hstate hprobe
  obtain ⟨old, hold, rfl⟩ := Option.map_eq_some_iff.mp hcopy
  rw [hf old name hstate hprobe]
  exact hs old hold name hstate hprobe

/-- **A logged change** is about the primary records. -/
theorem Secluded.logged (hs : s.Secluded) (kind : String) (data : Json) :
    (s.logged kind data).Secluded := by
  have hbase : (s.logged kind data).ancillaryBase = s.ancillaryBase := by
    funext name
    simp [ancillaryBase]
  have htried := hs.map (·.apply (s.nextEntry kind data)) fun copy name hstate _ => by
    simp [PrivateCopy.tree, PrivateCopy.apply, SortedMap.get?_insert_ne _ hstate]
  cases hmode : s.config.experimentMode with
  | false =>
    refine hs.congr ?_ hbase
    simp [storageAfter, hmode]
  | true =>
    refine htried.congr ?_ hbase
    simp [storageAfter, hmode]

/-- **One operation** leaves the ancillary trees alone. -/
theorem Secluded.becomes (hs : s.Secluded) (hb : s.Becomes ρ now op s') : s'.Secluded := by
  cases hb with
  | same => exact hs
  | logged => exact hs.logged _ _
  | numbered => exact hs.congr rfl rfl
  | opened => exact hs.congr rfl rfl
  | recorded => exact hs.congr rfl rfl
  | @probed copy hstorage =>
    have hprobed := hs.map PrivateCopy.dropProbe fun copy name _ hprobe => by
      simp [PrivateCopy.tree, PrivateCopy.dropProbe, SortedMap.get?_erase_ne _ hprobe]
    rw [hstorage, Option.map_some] at hprobed
    exact hprobed
  | merged => exact .of_released rfl
  | discarded => exact .of_released rfl
  | released => exact .of_released rfl
  | lost => exact hs.map _ fun _ _ _ _ => rfl

end Shadow

namespace Host

variable {h : Host Store} {id : ShadowId} {now : Time}

/-- **A new shadow** holds what the live store was at its fork. -/
theorem forkedFrom_forkOf (hcopies : h.backing.CopiesTruly) {config : ShadowConfig}
    {snapshot : Snapshot} {note : Option String}
    (hsettle : settleSnapshot (h.backing.snapshot h.live).1 = .ok (snapshot, note)) :
    (h.forkOf id config now snapshot note).ForkedFrom h.backing h.live := by
  constructor
  · intro given hgiven
    rw [hgiven] at hsettle
    obtain ⟨rfl, -⟩ := Prod.mk.inj (Except.ok.inj hsettle)
    obtain rfl := hcopies.copied h.live given hgiven
    exact ⟨rfl, h.live.ancillaryTree_snapshot⟩
  · intro fault hfault
    rw [hfault] at hsettle
    cases fault with
    | crashed message => cases hsettle
    | refused e =>
      obtain ⟨rfl, rfl⟩ := Prod.mk.inj (Except.ok.inj hsettle)
      refine ⟨rfl, ?_⟩
      rcases h.forkOf_cases id config now .empty _ with ⟨copy, -, -, hdegraded⟩ | ⟨-, hdegraded⟩
      · rw [hdegraded]
        rfl
      · exact hdegraded

theorem tree_copy {isolation : Isolation} {s : Snapshot} {copy : PrivateCopy}
    (hcopy : h.copy id isolation s = .ok copy) {name : String} (hname : name ≠ stateTree) :
    copy.tree name = s.ancillaryTree name := by
  have hmade : ∀ directory, (PrivateCopy.ofSnapshot s directory).tree name =
      s.ancillaryTree name := by
    intro directory
    simp [PrivateCopy.tree, PrivateCopy.ofSnapshot, Snapshot.ancillaryTree,
      SortedMap.get?_insert_ne _ hname]
  unfold Host.copy at hcopy
  split at hcopy
  · obtain rfl := Except.ok.inj hcopy
    exact hmade _
  · obtain rfl := Except.ok.inj hcopy
    exact hmade _
  · cases hcopy

/-- **A new shadow** has the ancillary trees of its snapshot, or none. -/
theorem secluded_forkOf {config : ShadowConfig} {snapshot : Snapshot} {note : Option String}
    {result : Except Fault Snapshot} (hsettle : settleSnapshot result = .ok (snapshot, note)) :
    (h.forkOf id config now snapshot note).Secluded := by
  intro copy hcopy name hstate _
  rw [Shadow.ancillaryBase]
  rcases h.forkOf_cases id config now snapshot note with
    ⟨made, hmade, hstorage, hdegraded⟩ | ⟨hstorage, hdegraded⟩
  · obtain rfl := Option.some.inj (hstorage.symm.trans hcopy)
    rw [hdegraded, tree_copy hmade hstate]
    rcases settleSnapshot_eq_ok hsettle with rfl | ⟨hnote, rfl⟩
    · rfl
    · rw [if_pos hnote]
      rfl
  · obtain rfl := Option.some.inj (hstorage.symm.trans hcopy)
    rw [if_pos hdegraded]
    rfl

/-- The ancillary trees of every registered shadow are those it was made with. -/
def Secluded (h : Host Store) : Prop := ∀ id s, h.registry.get? id = some s → s.Secluded

/-- **One call** leaves the ancillary trees alone. -/
theorem secluded_operations (h : Host Store) (c : Timed Call) (hh : h.Secluded) :
    (operations h c).2.Secluded := by
  intro id s' hs'
  cases transition_of_get? c hs' with
  | forked config snapshot note hcall hsettle hnew =>
    subst hnew
    exact secluded_forkOf hsettle
  | acted s op hcall hs hbecomes => exact (hh id s hs).becomes hbecomes
  | swept s hcall hs hsticky hnew =>
    subst hnew
    exact .of_released rfl
  | kept hcall hs => exact hh id s' hs

end Host

/-! ## Runs -/

namespace Gate

variable {g : Gate Store} {id : ShadowId}

/-- The calls that a gate makes of its host to answer a call that creates a shadow merge nothing. -/
theorem not_merge_of_allows {c : Call Store.Write} {call : Host.Call} (hallows : c.Allows call)
    (hnew : c.newIds ≠ []) (id : ShadowId) (report : Report) : call ≠ .on id (.merge report) := by
  rintro rfl
  cases c with
  | host own =>
    obtain rfl : Host.Call.on id (.merge report) = own := hallows
    exact hnew rfl
  | validate i p criteria => exact hallows.2 report rfl
  | validateShadow i p criteria => exact hallows.2 report rfl
  | validateBatch fresh proposals criteria => exact hallows.2 report rfl
  | write w => cases hallows

/-- **One call**: a shadow that is registered afterwards was so before, and holds the same, or it is
a fork of live state as the call met it. -/
theorem origin_operations (hcopies : g.host.backing.CopiesTruly) (c : Timed (Call Store.Write))
    {s' : Shadow} (hs' : (operations Store.write g c).2.host.registry.get? id = some s') :
    (∃ s, g.host.registry.get? id = some s ∧ s'.snapshot = s.snapshot ∧ s'.degraded = s.degraded) ∨
      id ∈ c.call.newIds ∧ s'.ForkedFrom g.host.backing g.host.live := by
  by_cases hw : ∃ w, c.call = .write w
  · obtain ⟨call, now⟩ := c
    obtain ⟨w, rfl⟩ := hw
    exact .inl ⟨s', hs', rfl, rfl⟩
  · -- while the call creates shadows, it leaves live state as it met it
    have hreach := reach_operations Store.write g c fun w heq => hw ⟨w, heq⟩
    refine (hreach.invariant (I := fun h => h.backing = g.host.backing ∧
      (c.call.newIds ≠ [] → h.live = g.host.live) ∧
      ∀ s', h.registry.get? id = some s' →
        (∃ s, g.host.registry.get? id = some s ∧ s'.snapshot = s.snapshot ∧
          s'.degraded = s.degraded) ∨
        id ∈ c.call.newIds ∧ s'.ForkedFrom g.host.backing g.host.live) ?_
      ⟨rfl, fun _ => rfl, fun s hs => .inl ⟨s, hs, rfl, rfl⟩⟩).2.2 s' hs'
    rintro h call hallows ⟨hbacking, hlive, hknown⟩
    obtain ⟨ids, hframe⟩ := Host.frame_operations h call
    have hkeeps : h.backing.Keeps := hbacking ▸ hcopies.keeps
    refine ⟨hframe.backing.trans hbacking, fun hnew => ?_, fun s' hs' => ?_⟩
    · rw [Host.live_operations_of_keeps hkeeps call (not_merge_of_allows hallows hnew)]
      exact hlive hnew
    · cases Host.transition_of_get? call hs' with
      | forked config snapshot note hcall hsettle hnew =>
        subst hnew
        rw [hcall] at hallows
        have hid := mem_newIds_of_allows hallows
        have hfork : (h.forkOf id config call.now snapshot note).ForkedFrom h.backing h.live :=
          Host.forkedFrom_forkOf (hbacking ▸ hcopies) hsettle
        rw [hbacking, hlive (List.ne_nil_of_mem hid)] at hfork
        exact .inr ⟨hid, hfork⟩
      | acted s op hcall hs hbecomes =>
        rcases hknown s hs with ⟨old, hold, hsnapshot, hdegraded⟩ | ⟨hid, hfork⟩
        · exact .inl ⟨old, hold, hbecomes.snapshot.1.trans hsnapshot,
            hbecomes.degraded.trans hdegraded⟩
        · exact .inr ⟨hid, hfork.congr hbecomes.snapshot.1 hbecomes.degraded⟩
      | swept s hcall hs hsticky hnew =>
        subst hnew
        rcases hknown s hs with hold | ⟨hid, hfork⟩
        · exact .inl hold
        · exact .inr ⟨hid, hfork.congr rfl rfl⟩
      | kept hcall hs => exact hknown s' hs

/-- **A run** keeps the primary records of every private copy true to its log. -/
theorem Reached.rehearses {backing : Backing Store} {retention : Retention}
    (hg : Reached Store.write backing retention g) : g.host.Rehearses := by
  refine hg.invariant Host.rehearses_operations (fun _ _ hh => hh) fun live settings id s hs => ?_
  cases hs

/-- **A run** leaves the ancillary trees of every private copy alone. -/
theorem Reached.secluded {backing : Backing Store} {retention : Retention}
    (hg : Reached Store.write backing retention g) : g.host.Secluded := by
  refine hg.invariant Host.secluded_operations (fun _ _ hh => hh) fun live settings id s hs => ?_
  cases hs

/-- **A shadow goes back to an event of the history** that created its id: it was forked from live
state as that event met it, and was registered ever since. -/
def Originates (b : Backing Store) (past : List LiveEvent) (id : ShadowId) (s : Shadow) : Prop :=
  ∃ earlier e later, past = earlier ++ e :: later ∧ id ∈ e.call.call.newIds ∧
    s.ForkedFrom b e.before.host.live ∧
    ∀ f ∈ later, ∃ s', f.before.host.registry.get? id = some s' ∧ s'.snapshot = s.snapshot

/-- **A run**: every registered shadow goes back to an event of it. -/
theorem originates_run {backing : Backing Store} (hcopies : backing.CopiesTruly)
    (hb : g.host.backing = backing) (hempty : ∀ id, g.host.registry.get? id = none)
    (calls : List (Timed (Call Store.Write))) {s : Shadow}
    (hs : ((operations Store.write).run g calls).host.registry.get? id = some s) :
    Originates backing ((operations Store.write).history g calls) id s := by
  have hstart : g.host.backing = backing ∧
      ∀ id s, g.host.registry.get? id = some s → Originates backing [] id s := by
    refine ⟨hb, fun id s hs => ?_⟩
    rw [hempty id] at hs
    cases hs
  refine ((operations Store.write).history_invariant
    (P := fun past g => g.host.backing = backing ∧
      ∀ id s, g.host.registry.get? id = some s → Originates backing past id s)
    ?_ calls hstart).2 id s hs
  rintro past g c ⟨hb, hknown⟩
  refine ⟨host_invariant (I := fun h => h.backing = backing) g c ?_ (fun _ _ hb => hb) hb, ?_⟩
  · intro h call _ hb
    obtain ⟨ids, hframe⟩ := Host.frame_operations h call
    exact hframe.backing.trans hb
  · intro id s' hs'
    rcases origin_operations (hb ▸ hcopies) c hs' with
      ⟨s, hold, hsnapshot, hdegraded⟩ | ⟨hid, hfork⟩
    · -- the shadow was there: its fork stays where it is, and the history is one event longer
      obtain ⟨earlier, e, later, rfl, hid, hfork, hlater⟩ := hknown id s hold
      refine ⟨earlier, e, later ++ [(operations Store.write).event g c], by simp, hid,
        hfork.congr hsnapshot hdegraded, fun f hf => ?_⟩
      rcases List.mem_append.mp hf with hf | hf
      · obtain ⟨s₀, hs₀, hsame⟩ := hlater f hf
        exact ⟨s₀, hs₀, hsame.trans hsnapshot.symm⟩
      · rw [List.mem_singleton.mp hf]
        exact ⟨s, hold, hsnapshot.symm⟩
    · rw [hb] at hfork
      exact ⟨past, (operations Store.write).event g c, [], rfl, hid, hfork,
        fun f hf => absurd hf List.not_mem_nil⟩

end Gate

/-! ## Reads -/

/-- What a reader makes of a record: absent, a value, or bytes that do not decode. -/
def readOf : Option Bytes → Except StoreError (Option Json)
  | none => .ok none
  | some bytes =>
    match Json.ofBytes? bytes with
    | some v => .ok (some v)
    | none => .error .serialization

/-- A truth value is read back from its bytes. -/
theorem Json.ofBytes?_bytes_bool (b : Bool) :
    Json.ofBytes? (Json.bool b).bytes = some (.bool b) := by
  have hstorable : (Json.bool b).Storable := ⟨trivial, Nat.zero_le _, trivial⟩
  exact Json.ofBytes?_bytes hstorable

theorem PrivateCopy.read_eq (c : PrivateCopy) (key : String) :
    c.read key = readOf (c.state.bytesAt key) := rfl

/-- The record that a shadow shows under a key: what the last change tried out wrote there, or what
the base has. -/
def Shadow.shown (s : Shadow) (key : String) : Option Bytes :=
  match lastChange s.tried key with
  | some e => e.mutation.written
  | none => s.base.bytesAt key

namespace Gate

/-- **Private views are exact.** In every run of a gate over a live store whose copies are true or
refused, every registered shadow goes back to a creation of its id, and its snapshot holds the
primary records and the ancillary trees of the live store as that creation met it, or nothing if the
copy was refused; it has been registered with this snapshot ever since. Its private copy has the
ancillary trees of the snapshot and no others, or none if the shadow is degraded; its primary records
are the base under the changes tried out, which are those of the log in experiment mode and none
otherwise. So a read through a handle gives what the last of them wrote under the key, or else what
the base has there. Only a registry that never drops anything can hold a shadow whose copy is gone. -/
theorem private_views_are_exact {backing : Backing Store} (hcopies : backing.CopiesTruly)
    (live : Store) (settings : Settings) (retention : Retention) (checks : CheckSet)
    (policies : PolicyTable) (calls : List (Timed (Call Store.Write))) {g : Gate Store}
    (hrun : g = (operations Store.write).run
      (startOn backing live settings retention checks policies) calls)
    {past : List LiveEvent} (hpast : past = (operations Store.write).history
      (startOn backing live settings retention checks policies) calls)
    {id : ShadowId} {s : Shadow} (hs : g.host.registry.get? id = some s) :
    Originates backing past id s ∧
    (retention ≠ .sticky → ∃ copy, s.storage = some copy) ∧
    ∀ copy, s.storage = some copy →
      (∀ name, name ≠ stateTree → copy.tree name =
        if s.degraded.isSome then ∅ else s.snapshot.ancillaryTree name) ∧
      copy.state = (if s.degraded.isSome then ∅ else s.snapshot.records).applyAll
        (if s.config.experimentMode then s.log else []) ∧
      ∀ key, (g.host.handle? id).map (fun handle => handle.read key) =
        some (readOf (s.shown key)) := by
  have hg : Reached Store.write backing retention g :=
    ⟨live, settings, checks, policies, calls, hrun⟩
  have horigin : Originates backing past id s := by
    rw [hrun] at hs
    rw [hpast]
    exact originates_run hcopies rfl (fun _ => rfl) calls hs
  have hrehearses : s.Rehearses retention := hg.frame.2 ▸ hg.rehearses id s hs
  have hsecluded : s.Secluded := hg.secluded id s hs
  have hunprobed : s.Unprobed := hg.unprobed hcopies.sparesProbe id s hs
  refine ⟨horigin, hrehearses.stored, fun copy hcopy => ⟨fun name hstate => ?_, ?_, fun key => ?_⟩⟩
  · by_cases hprobe : name = probeTree
    · -- the scratch tree is in neither
      obtain ⟨_, e, _, -, -, hfork, -⟩ := horigin
      have hnone : s.snapshot.ancillaryTree probeTree = ∅ :=
        hfork.ancillaryTree_of_not_mem (by decide)
      rw [hprobe, hnone, ite_self, PrivateCopy.tree, hunprobed copy hcopy]
      rfl
    · exact hsecluded copy hcopy name hstate hprobe
  · exact hrehearses.state copy hcopy
  · rw [Host.handle?, hs, Option.map_some, Option.map_some, Shadow.handle, Handle.read]
    simp only [hcopy, PrivateCopy.read_eq, hrehearses.state copy hcopy, Tree.bytesAt_applyAll]
    rfl

/-- Two records are written and a shadow is created; it changes the one, and rolls that back on
trial; then the same record and a new one are written from outside. -/
def viewCalls : List (Timed (Call Store.Write)) :=
  [⟨.write (.put "rate" (.bool false)), 0⟩,
   ⟨.write (.putIn configurationTree "mode" (.bool true)), 0⟩,
   ⟨.host (.create Host.sampleId .memoryOnly), 1⟩,
   ⟨.host (.on Host.sampleId
      (.log "tuning" (.obj [("key", .str "rate"), ("value", .bool true)]))), 2⟩,
   ⟨.host (.on Host.sampleId .testRollback), 3⟩,
   ⟨.write (.put "rate" .null), 4⟩,
   ⟨.write (.put "late" .null), 4⟩]

/-- The shadow shows its own change, and neither of the two later writes. -/
theorem private_view_outlasts_writes :
    ∃ g s copy, g = (operations Store.write).run sampleGate viewCalls ∧
      g.host.registry.get? Host.sampleId = some s ∧ s.storage = some copy ∧
      Originates Store.backing ((operations Store.write).history sampleGate viewCalls)
        Host.sampleId s ∧
      copy.tree configurationTree = Tree.put ∅ "mode" (.bool true) ∧
      (g.host.handle? Host.sampleId).map (fun handle => handle.read "rate") =
        some (.ok (some (.bool true))) ∧
      (g.host.handle? Host.sampleId).map (fun handle => handle.read "late") = some (.ok none) := by
  obtain ⟨g, hg⟩ : ∃ g, g = (operations Store.write).run sampleGate viewCalls := ⟨_, rfl⟩
  obtain ⟨s, hs, hsound, hconfiguration, hrate, hlate⟩ :
      ∃ s, g.host.registry.get? Host.sampleId = some s ∧ s.degraded = none ∧
        s.snapshot.ancillaryTree configurationTree = Tree.put ∅ "mode" (.bool true) ∧
        s.shown "rate" = some (Json.bool true).bytes ∧ s.shown "late" = none := by
    subst hg
    exact ⟨_, rfl, rfl, rfl, rfl, rfl⟩
  obtain ⟨horigin, hstored, hview⟩ := private_views_are_exact Store.copiesTruly_backing {} {} .exact
    .builtin {} viewCalls hg rfl hs
  obtain ⟨copy, hcopy⟩ := hstored (by decide)
  obtain ⟨hancillary, -, hread⟩ := hview copy hcopy
  refine ⟨g, s, copy, hg, hs, hcopy, horigin, ?_, ?_, ?_⟩
  · rw [hancillary configurationTree (by decide), hsound, hconfiguration]
    rfl
  · rw [hread "rate", hrate, readOf, Json.ofBytes?_bytes_bool]
  · rw [hread "late", hlate]
    rfl

end Gate

end ShadowGate
