import ShadowGate.Shadow.Basic

/-!
# Merges, cleanups and insights

What is left on record when a shadow ends.

* `Backing.replay` — a log applied to live state, one change at a time and in order. A change that
  is refused is put on record and the next one follows; only the death of the task ends a replay
  early.
* `MergeResult` — the audit trail of a merge, with its counts.
* `CleanupReport` — what became of a shadow's storage.
* `Insight` — the lesson of a change that was discarded.
-/

namespace ShadowGate

/-! ## The audit trail -/

/-- What became of one change in a merge. -/
inductive AuditOutcome where
  /-- it reached live state -/
  | applied
  /-- it was refused -/
  | failed (error : String)
deriving DecidableEq, Repr, Inhabited

namespace AuditOutcome

/-- The fields of an outcome in a record. -/
def fields : AuditOutcome → List (String × Json)
  | applied => [("outcome", .str "applied")]
  | failed error => [("outcome", .str "failed"), ("error", .str error)]

/-- An outcome as a value. -/
def toJson (o : AuditOutcome) : Json := Json.object o.fields

/-- The outcome that a tag and the fields beside it describe. -/
def ofFields? (tag : String) (error : Option Json) : Option AuditOutcome :=
  if tag = "applied" then some applied
  else if tag = "failed" then (error.bind Json.str?).map failed
  else none

/-- The outcome that a value describes: an object with its tag under `outcome`, or a list that
opens with the tag. -/
def ofJson? : Json → Option AuditOutcome
  | .obj fields => do
    let tag ← (findPair "outcome" fields).bind Json.str?
    ofFields? tag (findPair "error" fields)
  | .arr (tag :: rest) => do
    let tag ← tag.str?
    if rest.length ≤ (if tag = "failed" then 1 else 0) then ofFields? tag rest.head? else none
  | _ => none

end AuditOutcome

/-- One change of a merge. -/
structure AuditEntry where
  /-- its place in the merge, from zero -/
  sequence : Nat
  /-- its number in the log -/
  changeId : Nat
  /-- what kind of change it is -/
  kind : String
  /-- what it does -/
  description : String
  /-- what became of it -/
  outcome : AuditOutcome
deriving DecidableEq, Inhabited

namespace AuditEntry

/-- The entry of a change. -/
def ofChange (sequence : Nat) (e : ChangeEntry) (outcome : AuditOutcome) : AuditEntry where
  sequence := sequence
  changeId := e.id
  kind := e.kind
  description := e.mutation.describe
  outcome := outcome

/-- Whether the change reached live state. -/
def succeeded (a : AuditEntry) : Bool := a.outcome == .applied

/-- An audit entry as a value. -/
def toJson (a : AuditEntry) : Json :=
  Json.object
    ([("sequence", .ofNat a.sequence),
      ("change_id", .ofNat a.changeId),
      ("change_type", .str a.kind),
      ("description", .str a.description)] ++ a.outcome.fields)

end AuditEntry

/-! ## Replay -/

/-- What one call's outcome means for the audit trail; the death of the task goes on. -/
def AuditOutcome.ofCall : Except Fault Unit → Except String AuditOutcome
  | .ok () => .ok .applied
  | .error (.refused error) => .ok (.failed error.message)
  | .error (.crashed message) => .error message

namespace Backing

variable {σ : Type}

/-- Replay changes on live state; the first gets the place `sequence` in the trail. -/
def replayFrom (b : Backing σ) (sequence : Nat) :
    List ChangeEntry → σ → Except String (List AuditEntry) × σ
  | [], live => (.ok [], live)
  | e :: rest, live =>
    let (result, live) := b.apply live e
    match AuditOutcome.ofCall result with
    | .error message => (.error message, live)
    | .ok outcome =>
      let (trail, live) := b.replayFrom (sequence + 1) rest live
      (trail.map (AuditEntry.ofChange sequence e outcome :: ·), live)

/-- **Replay a log on live state.** -/
def replay (b : Backing σ) (log : List ChangeEntry) (live : σ) :
    Except String (List AuditEntry) × σ :=
  b.replayFrom 0 log live

end Backing

/-! ## Cleanup -/

/-- What became of a shadow's storage. -/
structure CleanupReport where
  /-- the shadow -/
  shadowId : Option ShadowId := none
  /-- the storage was given up at once -/
  released : Bool := false
  /-- the shadow was no longer registered -/
  alreadyCleaned : Bool := false
  /-- what went wrong -/
  warnings : List String := []
deriving DecidableEq, Inhabited

namespace CleanupReport

/-- A cleanup report as a value. -/
def toJson (r : CleanupReport) : Json :=
  Json.object
    [("shadow_id", Json.ofOption ShadowId.toJson r.shadowId),
     ("released", .bool r.released),
     ("already_cleaned", .bool r.alreadyCleaned),
     ("warnings", Json.ofList .str r.warnings)]

/-- The cleanup report that a value describes. -/
def ofJson? (v : Json) : Option CleanupReport := do
  let row ← Json.Row.ofJson? 4 v
  let shadowId ← row.optional 0 "shadow_id" ShadowId.ofJson?
  let released ← row.required 1 "released" Json.bool?
  let alreadyCleaned ← row.required 2 "already_cleaned" Json.bool?
  let warnings ← row.withDefault 3 "warnings" [] (Json.list? Json.str?)
  pure { shadowId, released, alreadyCleaned, warnings }

end CleanupReport

/-! ## Results -/

/-- The record of a merge. -/
structure MergeResult where
  /-- the shadow that was merged -/
  shadowId : ShadowId
  /-- the proposal whose report let it through -/
  changeId : String
  /-- what became of every change, in log order -/
  auditTrail : List AuditEntry
  /-- what became of the storage -/
  cleanup : CleanupReport
deriving DecidableEq, Inhabited

namespace MergeResult

/-- How many changes were refused. -/
def failed (m : MergeResult) : Nat := (m.auditTrail.filter fun a => !a.succeeded).length

/-- How many changes reached live state. -/
def applied (m : MergeResult) : Nat := m.auditTrail.length - m.failed

/-- Whether every change reached live state. -/
def isComplete (m : MergeResult) : Bool := m.failed == 0

/-- The error that a merge with refused changes amounts to. -/
def partialFailure (m : MergeResult) : Option ShadowError :=
  if 0 < m.failed then some (.partialMerge m.failed m.auditTrail.length) else none

/-- The record of a merge as a value. -/
def toJson (m : MergeResult) : Json :=
  Json.object
    [("shadow_id", m.shadowId.toJson),
     ("change_id", .str m.changeId),
     ("audit_trail", Json.ofList AuditEntry.toJson m.auditTrail),
     ("applied", .ofNat m.applied),
     ("failed", .ofNat m.failed),
     ("cleanup", m.cleanup.toJson)]

end MergeResult

/-! ## Insights -/

/-- How a validation's end reads in an insight. -/
def Status.lesson : Status → String
  | pending => "never validated"
  | passed => "passed validation but was not merged"
  | failed => "failed validation"

/-- The lesson of a change that was discarded. -/
structure Insight where
  /-- the change's number in its log -/
  changeId : Nat
  /-- what kind of change it was -/
  kind : String
  /-- what was tried, and how it ended -/
  summary : String
deriving DecidableEq, Inhabited

namespace Insight

/-- The insight of a change, given how its shadow's validation ended. -/
def ofChange (e : ChangeEntry) (status : Status) : Insight where
  changeId := e.id
  kind := e.kind
  summary :=
    let m := e.mutation
    "Attempted " ++ e.kind ++ " change #" ++ Number.natText e.id ++ " targeting '" ++ m.key
      ++ "' (" ++ m.describe ++ "); " ++ status.lesson

/-- An insight as a value. -/
def toJson (i : Insight) : Json :=
  Json.object
    [("change_id", .ofNat i.changeId),
     ("change_type", .str i.kind),
     ("summary", .str i.summary)]

end Insight

end ShadowGate
