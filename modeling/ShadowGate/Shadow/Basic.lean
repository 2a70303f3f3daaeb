import ShadowGate.Report
import ShadowGate.Shadow.Error

/-!
# Shadows

A shadow is a disposable copy of live state with a log of the changes tried on it.

* `PrivateCopy` — the shadow's own trees, and its directory if it has one.
* `Shadow` — the copy, the snapshot it was made from, the log, and where the shadow stands.
* Each operation is a step on one shadow that fails or gives an answer, and leaves the shadow
  afterwards: `Shadow.logChange`, `Shadow.beginValidation`, `Shadow.recordValidation`,
  `Shadow.testRollback`. The guards of a merge and of a discard are `Shadow.admitMerge` and
  `Shadow.admitDiscard`.
* **A new change voids the last verdict**: logging into a shadow that passed or failed brings it
  back to its first phase.
-/

namespace ShadowGate

/-! ## The private copy -/

/-- A private directory. -/
structure Directory where
  /-- where it is -/
  path : String
  /-- whether it is still there -/
  present : Bool := true
deriving DecidableEq

/-- The shadow's own trees, and its directory if it has one. -/
structure PrivateCopy where
  /-- the trees by name -/
  trees : SortedMap String Tree := ∅
  /-- the directory that holds them -/
  directory : Option Directory := none
deriving DecidableEq

/-- The name of the scratch tree of rollback probes. -/
def probeTree : String := "rollback_probe"

namespace PrivateCopy

/-- A tree of the copy. -/
def tree (c : PrivateCopy) (name : String) : Tree := (c.trees.get? name).getD ∅

/-- The primary records of the copy. -/
def state (c : PrivateCopy) : Tree := c.tree stateTree

/-- A copy of a snapshot. -/
def ofSnapshot (s : Snapshot) (directory : Option Directory) : PrivateCopy where
  trees := s.ancillary.insert stateTree s.records
  directory := directory

/-- An empty copy in memory. -/
def minimal : PrivateCopy := {}

/-- Apply a change to the primary records. -/
def apply (c : PrivateCopy) (e : ChangeEntry) : PrivateCopy :=
  { c with trees := c.trees.insert stateTree (e.mutation.apply c.state) }

/-- Replace a tree of the copy. -/
def setTree (c : PrivateCopy) (name : String) (t : Tree) : PrivateCopy :=
  { c with trees := c.trees.insert name t }

/-- Drop the scratch tree of a probe. -/
def dropProbe (c : PrivateCopy) : PrivateCopy := { c with trees := c.trees.erase probeTree }

/-- **Probe the undo path** of changes on a scratch tree of the copy: fill the tree with records,
apply the changes, take them back, the latest first, and compare digests. Whatever the scratch tree
held before is lost, and the tree is dropped in the end. -/
def probe (c : PrivateCopy) (records : Tree) (log : List ChangeEntry) : Bool × PrivateCopy :=
  let filled := c.dropProbe.setTree probeTree records
  let before := Digest.ofTree (filled.tree probeTree)
  let (changed, undos) := (filled.tree probeTree).rollForward log
  let applied := filled.setTree probeTree changed
  let reverted := applied.setTree probeTree ((applied.tree probeTree).revertAll undos)
  let after := Digest.ofTree (reverted.tree probeTree)
  (before == after, reverted.dropProbe)

/-- The value of a primary record of the copy. -/
def read (c : PrivateCopy) (key : String) : Except StoreError (Option Json) :=
  match c.state.bytesAt key with
  | none => .ok none
  | some bytes =>
    match Json.ofBytes? bytes with
    | some v => .ok (some v)
    | none => .error .serialization

/-- Give the copy up. A directory that has vanished cannot be removed. -/
def release (c : PrivateCopy) : Except String Unit :=
  match c.directory with
  | none => .ok ()
  | some d =>
    if d.present then .ok ()
    else .error ("No such file or directory (os error 2) at path \"" ++ d.path ++ "\"")

end PrivateCopy

/-! ## The shadow -/

/-- A disposable copy of live state with its log. -/
structure Shadow where
  /-- its name -/
  id : ShadowId
  /-- when it was created -/
  createdAt : Time
  /-- how it is set up -/
  config : ShadowConfig
  /-- the live state as it was -/
  snapshot : Snapshot
  /-- the snapshot's digest at creation -/
  snapshotDigest : String
  /-- the private copy, until it is released -/
  storage : Option PrivateCopy
  /-- the changes tried on it, in order -/
  log : List ChangeEntry := []
  /-- the number of the next change -/
  nextChange : Nat := 1
  /-- how its last validation ended -/
  status : Status := .pending
  /-- where it stands -/
  phase : Phase := .created
  /-- the proposal of its last verdict -/
  validatedChange : Option String := none
  /-- why it does not rest on a true copy, if it does not -/
  degraded : Option String := none

namespace Shadow

/-- Whether the shadow has outlived its lifetime. -/
def isExpired (s : Shadow) (now : Time) : Bool := now - s.createdAt > s.config.maxDuration

/-- Whether the snapshot still has the digest it was taken with. -/
def snapshotIntact (s : Shadow) : Bool := s.snapshot.digest == s.snapshotDigest

/-- Whether the snapshot has to be refused: strict protection, and its digest changed. -/
def isTampered (s : Shadow) : Bool := s.config.protection == .strict && !s.snapshotIntact

/-- A sweep discards the shadow: it may be, is not over, and has expired. -/
def isDue (s : Shadow) (now : Time) : Bool :=
  s.config.autoCleanup && !s.phase.isTerminal && s.isExpired now

/-- A shadow that can still be worked on: not over, not expired. -/
def ensureMutable (s : Shadow) (now : Time) : Except ShadowError Unit :=
  if s.phase.isTerminal then .error (.invalidState (.finished s.id s.phase))
  else if s.isExpired now then .error (.expired s.id)
  else .ok ()

/-- No validation is open. -/
def ensureIdle (s : Shadow) : Except ShadowError Unit :=
  if s.phase = .validating then .error (.busy s.id) else .ok ()

/-! ### Steps -/

/-- The next change of the log. -/
def nextEntry (s : Shadow) (kind : String) (data : Json) : ChangeEntry :=
  { id := s.nextChange, kind, data }

/-- The private copy after a change: untouched outside experiment mode. -/
def tryOut (s : Shadow) (e : ChangeEntry) : Except ShadowError (Option PrivateCopy) :=
  if s.config.experimentMode then
    match s.storage with
    | some copy => .ok (some (copy.apply e))
    | none => .error (.invalidState (.released s.id))
  else .ok s.storage

/-- The shadow with one more change in its log. A verdict no longer holds. -/
def push (s : Shadow) (e : ChangeEntry) : Shadow :=
  let logged := { s with log := s.log ++ [e] }
  if s.phase = .passed ∨ s.phase = .failed then
    { logged with phase := .created, status := .pending, validatedChange := none }
  else logged

/-- A shadow that can still be worked on, with no validation open. -/
def ensureOpen (s : Shadow) (now : Time) : Except ShadowError Unit := do
  s.ensureMutable now
  s.ensureIdle

/-- **Log a change.** The number of a change that cannot be tried out is used up. -/
def logChange (s : Shadow) (now : Time) (kind : String) (data : Json) :
    Except ShadowError ChangeEntry × Shadow :=
  match s.ensureOpen now with
  | .error e => (.error e, s)
  | .ok () =>
    let entry := s.nextEntry kind data
    let numbered := { s with nextChange := s.nextChange + 1 }
    match s.tryOut entry with
    | .error e => (.error e, numbered)
    | .ok storage => (.ok entry, { numbered with storage }.push entry)

/-- **Open a validation.** -/
def beginValidation (s : Shadow) (now : Time) : Except ShadowError Unit × Shadow :=
  match s.ensureOpen now with
  | .error e => (.error e, s)
  | .ok () => (.ok (), { s with phase := .validating })

/-- **Close a validation** with the verdict on a proposal. -/
def recordValidation (s : Shadow) (changeId : String) (passed : Bool) :
    Except ShadowError Status × Shadow :=
  if s.phase = .validating then
    let status := if passed then Status.passed else .failed
    let phase := if passed then Phase.passed else .failed
    (.ok status, { s with status, phase, validatedChange := some changeId })
  else (.error (.invalidState (.notValidating s.id s.phase)), s)

/-- **Exercise the undo path** of every logged change on a scratch copy of the snapshot. A shadow
that may not roll back, or rests on no true copy, shows none. -/
def testRollback (s : Shadow) (now : Time) : Except ShadowError Bool × Shadow :=
  match s.ensureMutable now with
  | .error e => (.error e, s)
  | .ok () =>
    if !s.config.rollbackCapability || s.degraded.isSome then (.ok false, s)
    else if s.isTampered then (.error (.integrityViolation s.id), s)
    else
      match s.storage with
      | none => (.ok false, s)
      | some copy =>
        let (restored, copy) := copy.probe s.snapshot.records s.log
        (.ok restored, { s with storage := some copy })

/-! ### Guards -/

/-- What the report must show before a merge. -/
def admitReport (r : Report) : Except ShadowError Unit :=
  if !r.isApproved then .error (.validationRejected (.notApproved r.changeId r.verdict))
  else if !r.rollbackSatisfied then .error (.validationRejected (.rollbackMissing r.changeId))
  else .ok ()

/-- What the shadow's own validation must show before a merge. -/
def admitVerdict (s : Shadow) (r : Report) : Except ShadowError Unit :=
  if !s.config.validationRequired then .ok ()
  else if s.phase ≠ .passed ∨ s.status ≠ .passed then
    .error (.validationRejected (.notPassed s.id s.phase))
  else if s.validatedChange ≠ some r.changeId then
    .error (.validationRejected (.otherProposal r.changeId s.id))
  else .ok ()

/-- **May the shadow be merged** on the strength of a report? -/
def admitMerge (s : Shadow) (now : Time) (r : Report) : Except ShadowError Unit := do
  s.ensureOpen now
  admitReport r
  s.admitVerdict r
  if s.isTampered then .error (.integrityViolation s.id) else pure ()

/-- **May the shadow be discarded?** Expiry does not stand in the way. -/
def admitDiscard (s : Shadow) : Except ShadowError Unit := do
  if s.phase.isTerminal then .error (.invalidState (.finished s.id s.phase)) else pure ()
  s.ensureIdle

/-! ### Storage -/

/-- Give the private copy up; one that is gone already is no fault. -/
def releaseStorage (s : Shadow) : Except String Unit :=
  match s.storage with
  | none => .ok ()
  | some copy => copy.release

/-- Whether the private copy has a directory, and it is there. -/
def hasDirectory (s : Shadow) : Bool :=
  match s.storage with
  | none => false
  | some copy => copy.directory.any Directory.present

/-- The shadow after its private directory disappeared. -/
def loseDirectory (s : Shadow) : Shadow :=
  { s with storage := s.storage.map fun copy =>
      { copy with directory := copy.directory.map fun d => { d with present := false } } }

/-- A shadow as a value: its log, its snapshot, and where it stands. -/
def toJson (s : Shadow) : Json :=
  Json.object
    [("changes", Json.ofList ChangeEntry.toJson s.log),
     ("snapshot", s.snapshot.toJson),
     ("intact", .bool s.snapshotIntact),
     ("phase", .str s.phase.tag),
     ("validation_status", .str s.status.tag),
     ("validated_change", Json.ofOption .str s.validatedChange),
     ("degraded", Json.ofOption .str s.degraded)]

end Shadow

/-! ## Handles -/

/-- A reader's view of a shadow: how it stood when the handle was taken, and its private copy. -/
structure Handle where
  /-- the shadow -/
  id : ShadowId
  /-- how it is set up -/
  config : ShadowConfig
  /-- where it stood -/
  phase : Phase
  /-- how its last validation had ended -/
  status : Status
  /-- the proposal of its last verdict -/
  validatedChange : Option String
  /-- how many changes it had logged -/
  changeCount : Nat
  /-- why it does not rest on a true copy, if it does not -/
  degraded : Option String
  /-- its directory -/
  directory : Option String
  /-- its private copy, as it stands -/
  copy : Option PrivateCopy

namespace Handle

/-- Read a primary record of the private copy; a released copy has none. -/
def read (h : Handle) (key : String) : Except StoreError (Option Json) :=
  match h.copy with
  | none => .ok none
  | some copy => copy.read key

/-- Whether the shadow does not rest on a true copy. -/
def isDegraded (h : Handle) : Bool := h.degraded.isSome

/-- The handle as its shadow's copy goes on changing; once the copy is released, the handle keeps
what it saw last. -/
def follow (h : Handle) (s : Shadow) : Handle :=
  match h.copy, s.storage with
  | some _, some copy => { h with copy := some copy }
  | _, _ => h

/-- A handle as a value. -/
def toJson (h : Handle) : Json :=
  Json.object
    [("phase", .str h.phase.tag),
     ("validation_status", .str h.status.tag),
     ("validated_change", Json.ofOption .str h.validatedChange),
     ("change_count", .ofNat h.changeCount),
     ("degraded", Json.ofOption .str h.degraded),
     ("is_degraded", .bool h.isDegraded),
     ("config", h.config.toJson),
     ("directory", Json.ofOption .str h.directory),
     ("has_db", .bool h.copy.isSome)]

end Handle

/-- The handle of a shadow as it stands. -/
def Shadow.handle (s : Shadow) : Handle where
  id := s.id
  config := s.config
  phase := s.phase
  status := s.status
  validatedChange := s.validatedChange
  changeCount := s.log.length
  degraded := s.degraded
  directory := s.storage.bind fun copy => copy.directory.map Directory.path
  copy := s.storage

end ShadowGate
