import ShadowGate.Registry

/-!
# Hosts

A host is live state together with the shadows forked from it. Every operation takes the clock's
reading and gives an answer and the host afterwards.

* **Live state is touched twice only**: copied by `Host.create`, and changed by `Host.merge`.
  Everything in between happens in the private copies.
* `Host.onShadow` — a step on one registered shadow; the others and live state are left alone.
* `Host.merge` — an approved shadow's log replayed on live state, then cleaned up.
* `Host.discard` — a shadow given up, one insight per logged change.
* `Host.cleanup` — off the registry, storage released; a second time there is nothing left to do.
* `Host.sweep` — every expired shadow that may be is discarded.
-/

namespace ShadowGate

/-- Live state, and the shadows forked from it. -/
structure Host (σ : Type) where
  /-- how live state is copied and changed -/
  backing : Backing σ
  /-- live state -/
  live : σ
  /-- the settings, in normal form -/
  settings : Settings := {}
  /-- the open shadows -/
  registry : Registry := {}
  /-- why no directory can be made under the shadow root, if none can -/
  rootFault : Option StoreError := none

namespace Host

variable {σ : Type} {α : Type}

/-- A host without shadows. -/
def start (backing : Backing σ) (live : σ) (settings : Settings) (retention : Retention) :
    Host σ where
  backing := backing
  live := live
  settings := settings.normalized
  registry := { retention }

/-- The setup of a shadow that nobody asked to be different. -/
def defaultConfig (h : Host σ) : ShadowConfig := .ofSettings h.settings

/-- The ids of the open shadows. -/
def active (h : Host σ) : List ShadowId := h.registry.ids

/-- A reader's view of an open shadow. -/
def handle? (h : Host σ) (id : ShadowId) : Option Handle := (h.registry.get? id).map Shadow.handle

/-! ## Creation -/

/-- The snapshot to work on, and what is wrong with it. The death of the task goes on. -/
def settleSnapshot : Except Fault Snapshot → Except String (Snapshot × Option String)
  | .ok s => .ok (s, none)
  | .error (.refused e) => .ok (.empty, some ("snapshot of live state failed: " ++ e.message))
  | .error (.crashed message) => .error message

/-- Where the private directory of a shadow lies. -/
def directoryPath (h : Host σ) (id : ShadowId) : String := h.settings.shadowRoot ++ "/" ++ id.text

/-- The private copy of a snapshot. -/
def copy (h : Host σ) (id : ShadowId) (isolation : Isolation) (s : Snapshot) :
    Except StoreError PrivateCopy :=
  match isolation, h.rootFault with
  | .inMemory, _ => .ok (.ofSnapshot s none)
  | .full, none => .ok (.ofSnapshot s (some { path := h.directoryPath id }))
  | .full, some e => .error e

/-- Two notes as one. -/
def joinNotes (first : Option String) (second : String) : String :=
  match first with
  | none => second
  | some text => text ++ "; " ++ second

/-- The new shadow over a snapshot. If its private copy cannot be made, it gets an empty one. -/
def forkOf (h : Host σ) (id : ShadowId) (config : ShadowConfig) (now : Time) (s : Snapshot)
    (note : Option String) : Shadow :=
  let (storage, degraded) :=
    match h.copy id config.isolation s with
    | .ok copy => (copy, note)
    | .error e =>
      (PrivateCopy.minimal,
        some (joinNotes note ("private copy could not be created: " ++ e.message)))
  { id, createdAt := now, config, snapshot := s, snapshotDigest := s.digest
    storage := some storage, degraded }

/-- **Fork a shadow** under a fresh id. A copy that is refused does not fail the fork: the shadow
starts from nothing and says so. -/
def create (h : Host σ) (id : ShadowId) (config : ShadowConfig) (now : Time) :
    Except ShadowError Unit × Host σ :=
  let (result, live) := h.backing.snapshot h.live
  let h := { h with live }
  match settleSnapshot result with
  | .error message => (.error (.crashed message), h)
  | .ok (s, note) =>
    (.ok (), { h with registry := h.registry.insert id (h.forkOf id config now s note) })

/-! ## Steps on one shadow -/

/-- **A step on a registered shadow.** -/
def onShadow (h : Host σ) (id : ShadowId) (step : Shadow → Except ShadowError α × Shadow) :
    Except ShadowError α × Host σ :=
  match h.registry.get? id with
  | none => (.error (.notFound id), h)
  | some s =>
    let (result, s') := step s
    (result, { h with registry := h.registry.update id s' })

/-- Log a change into a shadow. -/
def log (h : Host σ) (id : ShadowId) (now : Time) (kind : String) (data : Json) :
    Except ShadowError ChangeEntry × Host σ :=
  h.onShadow id fun s => s.logChange now kind data

/-- Log changes of one kind until one fails. -/
def logAll (h : Host σ) (id : ShadowId) (now : Time) (kind : String) :
    List Json → Except ShadowError (List ChangeEntry) × Host σ
  | [] => (.ok [], h)
  | data :: rest =>
    match h.log id now kind data with
    | (.error e, h) => (.error e, h)
    | (.ok entry, h) =>
      let (entries, h) := h.logAll id now kind rest
      (entries.map (entry :: ·), h)

/-- Log every modification of a proposal, under its category. -/
def logProposal (h : Host σ) (id : ShadowId) (now : Time) (p : Proposal) :
    Except ShadowError (List ChangeEntry) × Host σ :=
  h.logAll id now p.category.tag p.payloads

/-- Open a validation. -/
def beginValidation (h : Host σ) (id : ShadowId) (now : Time) :
    Except ShadowError Unit × Host σ :=
  h.onShadow id fun s => s.beginValidation now

/-- Close a validation with the verdict on a proposal. -/
def recordValidation (h : Host σ) (id : ShadowId) (changeId : String) (passed : Bool) :
    Except ShadowError Status × Host σ :=
  h.onShadow id fun s => s.recordValidation changeId passed

/-- Exercise the undo path of every logged change. -/
def testRollback (h : Host σ) (id : ShadowId) (now : Time) : Except ShadowError Bool × Host σ :=
  h.onShadow id fun s => s.testRollback now

/-! ## The end of a shadow -/

/-- The report on a shadow whose storage was given up. -/
def releaseReport (id : ShadowId) : Except String Unit → CleanupReport
  | .ok () => { shadowId := some id, released := true }
  | .error reason =>
    { shadowId := some id, warnings := [(ShadowError.cleanupWarning id reason).message] }

/-- The report on a shadow that is not registered. -/
def nothingToClean (id : ShadowId) : CleanupReport :=
  { shadowId := some id, alreadyCleaned := true }

/-- **Clean a shadow up**: off the registry, storage released. -/
def cleanup (h : Host σ) (id : ShadowId) : CleanupReport × Host σ :=
  match h.registry.get? id with
  | none => (nothingToClean id, h)
  | some s =>
    (releaseReport id s.releaseStorage,
      { h with registry := (h.registry.remove id).update id { s with storage := none } })

/-- Clean a shadow up while another operation on it does not end in time: off the registry, its
storage left to that operation. -/
def cleanupInUse (h : Host σ) (id : ShadowId) : CleanupReport × Host σ :=
  match h.registry.get? id with
  | none => (nothingToClean id, h)
  | some _ =>
    (releaseReport id
        (.error "operation still in flight; storage is released when it finishes"),
      { h with registry := h.registry.remove id })

/-- **Merge a shadow** on the strength of a report: replay its log on live state, then clean it up,
whatever became of the single changes. -/
def merge (h : Host σ) (id : ShadowId) (report : Report) (now : Time) :
    Except ShadowError MergeResult × Host σ :=
  match h.registry.get? id with
  | none => (.error (.notFound id), h)
  | some s =>
    match s.admitMerge now report with
    | .error e => (.error e, h)
    | .ok () =>
      let (trail, live) := h.backing.replay s.log h.live
      let registry := h.registry.update id { s with phase := .merged }
      let (cleanup, h) := { h with live, registry }.cleanup id
      match trail with
      | .error message => (.error (.crashed message), h)
      | .ok auditTrail =>
        (.ok { shadowId := id, changeId := report.changeId, auditTrail, cleanup }, h)

/-- **Discard a shadow**, keeping one insight per logged change. -/
def discard (h : Host σ) (id : ShadowId) : Except ShadowError (List Insight) × Host σ :=
  match h.registry.get? id with
  | none => (.error (.notFound id), h)
  | some s =>
    match s.admitDiscard with
    | .error e => (.error e, h)
    | .ok () =>
      let registry := h.registry.update id { s with phase := .discarded }
      let (_, h) := { h with registry }.cleanup id
      (.ok (s.log.map fun e => Insight.ofChange e s.status), h)

/-! ## Expiry -/

/-- One shadow's turn in a sweep. -/
def sweepOne (now : Time) (acc : List (ShadowId × List Insight) × Host σ) (id : ShadowId) :
    List (ShadowId × List Insight) × Host σ :=
  let (swept, h) := acc
  match h.registry.get? id with
  | none => acc
  | some s =>
    if s.isDue now then
      match h.discard id with
      | (.ok insights, h) => (swept ++ [(id, insights)], h)
      | (.error _, h) => (swept, h)
    else acc

/-- **Discard every shadow that is due**, in order of ids. -/
def sweep (h : Host σ) (now : Time) : List (ShadowId × List Insight) × Host σ :=
  h.active.foldl (sweepOne now) ([], h)

/-- The host after sweeping at every full interval of a span of seconds. -/
def sweepFor (h : Host σ) (seconds : Nat) (now : Time) : Host σ :=
  Nat.repeat (fun h => (h.sweep now).2) (seconds / h.settings.sweepInterval) h

/-! ## Directories -/

/-- Whether an open shadow has its private directory. -/
def hasDirectory (h : Host σ) (id : ShadowId) : Bool :=
  (h.registry.get? id).any Shadow.hasDirectory

/-- The private directory of a shadow disappears behind the host's back. -/
def loseDirectory (h : Host σ) (id : ShadowId) : Host σ :=
  match h.registry.get? id with
  | none => h
  | some s => { h with registry := h.registry.update id s.loseDirectory }

end Host

end ShadowGate
