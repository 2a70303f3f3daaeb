import ShadowGate.Batch
import ShadowGate.Check.Keyword
import ShadowGate.Host
import ShadowGate.Ledger

/-!
# The gate

The gate validates proposals against criteria, exercising their undo paths in shadows, and keeps a
ledger of its reports.

* `Gate.validate` — a proposal on its own, in a shadow of its own that never outlives the call.
  It never fails: whatever goes wrong with that shadow ends up in the report.
* `Gate.validateShadow` — the changes already logged in a shadow of the caller's.
* `Gate.validateBatch` — proposals one by one, then the conflicts between their approvals.
-/

namespace ShadowGate

namespace Host

variable {σ : Type}

/-- The setup of the shadow in which an undo path is exercised. -/
def probeConfig : ShadowConfig := { ShadowConfig.memoryOnly with experimentMode := false }

/-- Log a proposal's modifications into a shadow and exercise their undo path. -/
def exercise (h : Host σ) (id : ShadowId) (p : Proposal) (now : Time) :
    Except ShadowError Bool × Host σ :=
  match h.logProposal id now p with
  | (.error e, h) => (.error e, h)
  | (.ok _, h) => h.testRollback id now

/-- What exercising an undo path showed. -/
def probeOutcome : Except ShadowError Bool → Probe
  | .ok ready => { ready }
  | .error e => { ready := false, note := some ("rollback probe failed: " ++ e.message) }

/-- **Exercise a proposal's undo path** in a shadow of its own, which is gone afterwards. -/
def probe (h : Host σ) (id : ShadowId) (p : Proposal) (now : Time) : Probe × Host σ :=
  match h.create id probeConfig now with
  | (.error e, h) =>
    ({ ready := false, note := some ("rollback probe could not start: " ++ e.message) }, h)
  | (.ok (), h) =>
    let (outcome, h) := h.exercise id p now
    (probeOutcome outcome, (h.cleanup id).2)

end Host

/-- A host with the rules it validates by and the ledger of its reports. -/
structure Gate (σ : Type) where
  /-- live state and its shadows -/
  host : Host σ
  /-- the checks -/
  checks : CheckSet := .builtin
  /-- how careful each category is treated -/
  policies : PolicyTable := {}
  /-- the reports so far -/
  ledger : Ledger := {}

namespace Gate

variable {σ : Type}

/-- The report of a proposal by the gate's rules. -/
def assess (g : Gate σ) (p : Proposal) (c : Criteria) (probe : Probe) (now : Time) : Report :=
  ShadowGate.assess g.checks g.policies p c probe now

/-- Enter reports into the ledger. -/
def record (g : Gate σ) (reports : List Report) : Gate σ :=
  { g with ledger := g.ledger.record reports }

/-- A proposal's report, not yet in the ledger. -/
def evaluate (g : Gate σ) (id : ShadowId) (p : Proposal) (c : Criteria) (now : Time) :
    Report × Gate σ :=
  let (probe, host) := g.host.probe id p now
  (g.assess p c probe now, { g with host })

/-- **Validate a proposal**, its undo path exercised in a shadow under a fresh id. -/
def validate (g : Gate σ) (id : ShadowId) (p : Proposal) (c : Criteria) (now : Time) :
    Report × Gate σ :=
  let (report, g) := g.evaluate id p c now
  (report, g.record [report])

/-- Close a shadow's validation with a report, and enter it into the ledger. -/
def conclude (g : Gate σ) (id : ShadowId) (report : Report) : Except ShadowError Report × Gate σ :=
  match g.host.recordValidation id report.changeId report.isApproved with
  | (.error e, host) => (.error e, { g with host })
  | (.ok _, host) => (.ok report, { g with host }.record [report])

/-- **Validate the changes logged in a shadow.** It is passed if the report approves, and failed
otherwise. -/
def validateShadow (g : Gate σ) (id : ShadowId) (p : Proposal) (c : Criteria) (now : Time) :
    Except ShadowError Report × Gate σ :=
  match g.host.beginValidation id now with
  | (.error e, host) => (.error e, { g with host })
  | (.ok (), host) =>
    match host.testRollback id now with
    | (.error e, host) => (.error e, { g with host := (host.recordValidation id p.id false).2 })
    | (.ok ready, host) => { g with host }.conclude id (g.assess p c { ready } now)

/-- Evaluate proposals in order, the shadow of the n-th under the id `fresh n`. -/
def evaluateAll (g : Gate σ) (fresh : Nat → ShadowId) (c : Criteria) (now : Time) :
    List Proposal → List Report × Gate σ
  | [] => ([], g)
  | p :: rest =>
    let (report, g) := g.evaluate (fresh 0) p c now
    let (reports, g) := g.evaluateAll (fun n => fresh (n + 1)) c now rest
    (report :: reports, g)

/-- **Validate proposals one by one**, then settle the conflicts between their approvals. -/
def validateBatch (g : Gate σ) (fresh : Nat → ShadowId) (proposals : List Proposal) (c : Criteria)
    (now : Time) : List Report × Gate σ :=
  let (evaluated, g) := g.evaluateAll fresh c now proposals
  let reports :=
    Batch.resolveConflicts (Batch.flagExcess c.maxSimultaneousChanges evaluated) now
  (reports, g.record reports)

end Gate

end ShadowGate
