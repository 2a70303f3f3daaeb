import ShadowGate.Proofs.Host.Transition
import ShadowGate.Proofs.Tree

/-!
# Private copies

The private copy of a shadow is the snapshot with the changes tried out on it, from creation to
release. In experiment mode every logged change is tried out; otherwise none is.

* `Shadow.base` — the records that a shadow starts from; none if it is degraded.
* `Shadow.tried` — the changes of the log that were tried out.
* `Shadow.Rehearses` — **the invariant**: the private copy is the base under the changes tried out,
  and is there unless the registry never drops anything.
* `Host.rehearses_operations` — every call of a host keeps it.
-/

namespace ShadowGate

/-! ## Trees of a private copy -/

namespace PrivateCopy

@[simp] theorem state_ofSnapshot (s : Snapshot) (directory : Option Directory) :
    (ofSnapshot s directory).state = s.records := by
  simp [state, tree, ofSnapshot]

@[simp] theorem state_minimal : minimal.state = ∅ := rfl

@[simp] theorem state_apply (c : PrivateCopy) (e : ChangeEntry) :
    (c.apply e).state = e.mutation.apply c.state := by
  simp [state, tree, apply]

@[simp] theorem state_dropProbe (c : PrivateCopy) : c.dropProbe.state = c.state := by
  have hname : stateTree ≠ probeTree := by decide
  simp [state, tree, dropProbe, SortedMap.get?_erase_ne _ hname]

end PrivateCopy

/-! ## The invariant -/

namespace Shadow

variable {s s' : Shadow} {ρ : Retention} {now : Time} {op : Shadow.Op}

/-- The records that the shadow starts from. -/
def base (s : Shadow) : Tree := if s.degraded.isSome then ∅ else s.snapshot.records

/-- The changes of the log that were tried out on the private copy. -/
def tried (s : Shadow) : List ChangeEntry := if s.config.experimentMode then s.log else []

/-- The private copy shows what the changes tried out make of the base. -/
structure Rehearses (ρ : Retention) (s : Shadow) : Prop where
  /-- the copy is there, unless the registry never drops anything -/
  stored : ρ ≠ .sticky → ∃ copy, s.storage = some copy
  /-- the copy is the base under the changes tried out -/
  state : ∀ copy, s.storage = some copy → copy.state = s.base.applyAll s.tried

/-- The invariant depends on the storage, and on what gives the base and the changes tried out. -/
theorem Rehearses.congr (hr : Rehearses ρ s) (hstorage : s'.storage = s.storage)
    (hbase : s'.base = s.base) (htried : s'.tried = s.tried) : Rehearses ρ s' where
  stored hρ := by
    rw [hstorage]
    exact hr.stored hρ
  state copy hcopy := by
    rw [hbase, htried]
    exact hr.state copy (hstorage ▸ hcopy)

/-- A shadow without a copy has nothing to show, if its registry never drops anything. -/
theorem Rehearses.of_released (hsticky : ρ = .sticky) (hstorage : s.storage = none) :
    Rehearses ρ s := by
  refine ⟨fun hρ => absurd hsticky hρ, fun copy hcopy => ?_⟩
  rw [hstorage] at hcopy
  cases hcopy

/-- A change in the trees or the directory of the copy that leaves the primary records alone. -/
theorem Rehearses.map (hr : Rehearses ρ s) (f : PrivateCopy → PrivateCopy)
    (hf : ∀ copy, (f copy).state = copy.state) :
    Rehearses ρ { s with storage := s.storage.map f } where
  stored hρ := by
    obtain ⟨copy, hcopy⟩ := hr.stored hρ
    exact ⟨f copy, by simp only [hcopy, Option.map_some]⟩
  state copy hcopy := by
    obtain ⟨old, hold, rfl⟩ := Option.map_eq_some_iff.mp hcopy
    exact (hf old).trans (hr.state old hold)

theorem base_logged (s : Shadow) (kind : String) (data : Json) :
    (s.logged kind data).base = s.base := by
  simp [base]

theorem tried_logged (s : Shadow) (kind : String) (data : Json) :
    (s.logged kind data).tried =
      if s.config.experimentMode then s.log ++ [s.nextEntry kind data] else [] := by
  simp [tried]

/-- **A logged change** is tried out in experiment mode, and only logged otherwise. -/
theorem Rehearses.logged (hr : Rehearses ρ s) (kind : String) (data : Json) :
    Rehearses ρ (s.logged kind data) := by
  cases hmode : s.config.experimentMode with
  | false =>
    -- the log grows, and neither the copy nor the changes tried out do
    refine hr.congr ?_ (base_logged s kind data) ?_
    · simp [storageAfter, hmode]
    · simp [tried, hmode]
  | true =>
    constructor
    · intro hρ
      obtain ⟨copy, hcopy⟩ := hr.stored hρ
      exact ⟨copy.apply (s.nextEntry kind data), by simp [storageAfter, hmode, hcopy]⟩
    · intro copy hcopy
      rw [storage_logged, storageAfter, if_pos hmode] at hcopy
      obtain ⟨old, hold, rfl⟩ := Option.map_eq_some_iff.mp hcopy
      have hstate := hr.state old hold
      rw [tried, if_pos hmode] at hstate
      rw [base_logged, tried_logged, if_pos hmode, Tree.applyAll_concat, ← hstate]
      exact old.state_apply _

/-- **One operation** keeps the invariant. -/
theorem Rehearses.becomes (hr : Rehearses ρ s) (hb : s.Becomes ρ now op s') : Rehearses ρ s' := by
  cases hb with
  | same => exact hr
  | logged => exact hr.logged _ _
  | numbered => exact hr.congr rfl rfl rfl
  | opened => exact hr.congr rfl rfl rfl
  | recorded => exact hr.congr rfl rfl rfl
  | @probed copy hstorage =>
    have hprobed := hr.map PrivateCopy.dropProbe PrivateCopy.state_dropProbe
    rw [hstorage, Option.map_some] at hprobed
    exact hprobed
  | merged hsticky => exact .of_released hsticky rfl
  | discarded hsticky => exact .of_released hsticky rfl
  | released hsticky => exact .of_released hsticky rfl
  | lost => exact hr.map _ fun _ => rfl

end Shadow

/-! ## Hosts -/

namespace Host

variable {σ : Type} {h : Host σ}

/-- A snapshot that could not be taken is empty, and noted as such. -/
theorem settleSnapshot_eq_ok {result : Except Fault Snapshot} {snapshot : Snapshot}
    {note : Option String} (hsettle : settleSnapshot result = .ok (snapshot, note)) :
    note = none ∨ note.isSome = true ∧ snapshot = .empty := by
  cases result with
  | ok s =>
    obtain ⟨-, rfl⟩ := Prod.mk.inj (Except.ok.inj hsettle)
    exact .inl rfl
  | error fault =>
    cases fault with
    | refused e =>
      obtain ⟨rfl, rfl⟩ := Prod.mk.inj (Except.ok.inj hsettle)
      exact .inr ⟨rfl, rfl⟩
    | crashed message => cases hsettle

/-- A copy that can be made has the records of the snapshot. -/
theorem state_copy {id : ShadowId} {isolation : Isolation} {s : Snapshot} {copy : PrivateCopy}
    (hcopy : h.copy id isolation s = .ok copy) : copy.state = s.records := by
  unfold Host.copy at hcopy
  split at hcopy
  · obtain rfl := Except.ok.inj hcopy
    exact PrivateCopy.state_ofSnapshot _ _
  · obtain rfl := Except.ok.inj hcopy
    exact PrivateCopy.state_ofSnapshot _ _
  · cases hcopy

/-- The copy of a new shadow: of the snapshot, or, if that fails, an empty one that is noted. -/
theorem forkOf_cases (h : Host σ) (id : ShadowId) (config : ShadowConfig) (now : Time)
    (s : Snapshot) (note : Option String) :
    (∃ copy, h.copy id config.isolation s = .ok copy ∧
      (h.forkOf id config now s note).storage = some copy ∧
      (h.forkOf id config now s note).degraded = note) ∨
    ((h.forkOf id config now s note).storage = some .minimal ∧
      (h.forkOf id config now s note).degraded.isSome = true) := by
  cases hcopied : h.copy id config.isolation s with
  | error e => exact .inr (by simp [forkOf, hcopied])
  | ok copy => exact .inl ⟨copy, rfl, by simp [forkOf, hcopied], by simp [forkOf, hcopied]⟩

/-- **A new shadow** has a copy of its base. -/
theorem rehearses_forkOf {id : ShadowId} {config : ShadowConfig} {now : Time} {snapshot : Snapshot}
    {note : Option String} {result : Except Fault Snapshot} (ρ : Retention)
    (hsettle : settleSnapshot result = .ok (snapshot, note)) :
    (h.forkOf id config now snapshot note).Rehearses ρ := by
  have htried : (h.forkOf id config now snapshot note).tried = [] := by
    rw [Shadow.tried]
    split <;> rfl
  refine ⟨fun _ => ⟨_, rfl⟩, fun copy hcopy => ?_⟩
  have hempty : ∀ t : Tree, t.applyAll [] = t := fun _ => rfl
  rw [htried, hempty, Shadow.base]
  rcases h.forkOf_cases id config now snapshot note with
    ⟨made, hmade, hstorage, hdegraded⟩ | ⟨hstorage, hdegraded⟩
  · -- degraded or not is decided by the note, and a snapshot with a note is empty
    obtain rfl := Option.some.inj (hstorage.symm.trans hcopy)
    rw [hdegraded, state_copy hmade]
    rcases settleSnapshot_eq_ok hsettle with rfl | ⟨hnote, rfl⟩
    · rfl
    · rw [if_pos hnote]
      rfl
  · obtain rfl := Option.some.inj (hstorage.symm.trans hcopy)
    rw [if_pos hdegraded, PrivateCopy.state_minimal]

/-- Every registered shadow rehearses its changes. -/
def Rehearses (h : Host σ) : Prop :=
  ∀ id s, h.registry.get? id = some s → s.Rehearses h.registry.retention

/-- **One call** keeps the invariant. -/
theorem rehearses_operations (h : Host σ) (c : Timed Call) (hr : h.Rehearses) :
    (operations h c).2.Rehearses := by
  intro id s' hs'
  obtain ⟨ids, hframe⟩ := frame_operations h c
  rw [hframe.retention]
  cases transition_of_get? c hs' with
  | forked config snapshot note hcall hsettle hnew =>
    subst hnew
    exact rehearses_forkOf _ hsettle
  | acted s op hcall hs hbecomes => exact (hr id s hs).becomes hbecomes
  | swept s hcall hs hsticky hnew =>
    subst hnew
    exact .of_released hsticky rfl
  | kept hcall hs => exact hr id s' hs

end Host

end ShadowGate
