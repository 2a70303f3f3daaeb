import ShadowGate.Host
import ShadowGate.Proofs.Run

/-!
# Calls of a host

Everything that can be asked of a host, and everything that can happen to it from outside, as data:
a run of a host is a list of calls.

* `Shadow.Op` — an operation on one shadow.
* `Host.Call` — the creation of a shadow, an operation on one, a sweep, or a change of what the
  shadow root allows.
* `Host.operations` — the machine that answers calls.
-/

namespace ShadowGate

/-- An operation on one shadow. -/
inductive Shadow.Op where
  /-- take a handle -/
  | view
  /-- read a primary record through a handle -/
  | read (key : String)
  /-- log a change -/
  | log (kind : String) (data : Json)
  /-- open a validation -/
  | beginValidation
  /-- close a validation -/
  | recordValidation (changeId : String) (passed : Bool)
  /-- exercise the undo path -/
  | testRollback
  /-- merge on the strength of a report -/
  | merge (report : Report)
  /-- give the shadow up -/
  | discard
  /-- clean up -/
  | cleanup
  /-- clean up while another operation does not end in time -/
  | cleanupInUse
  /-- the private directory disappears -/
  | loseDirectory

namespace Host

variable {σ : Type}

/-- What can be asked of a host, or happen to it. -/
inductive Call where
  /-- fork a shadow -/
  | create (id : ShadowId) (config : ShadowConfig)
  /-- an operation on a shadow -/
  | on (id : ShadowId) (op : Shadow.Op)
  /-- discard every shadow that is due -/
  | sweep
  /-- directories can be made under the shadow root from now on, or cannot -/
  | setRoot (fault : Option StoreError)

/-- The answer to a call. -/
inductive Answer where
  | created (result : Except ShadowError Unit)
  | viewed (handle : Option Handle)
  | read (result : Option (Except StoreError (Option Json)))
  | logged (result : Except ShadowError ChangeEntry)
  | opened (result : Except ShadowError Unit)
  | recorded (result : Except ShadowError Status)
  | tested (result : Except ShadowError Bool)
  | merged (result : Except ShadowError MergeResult)
  | discarded (result : Except ShadowError (List Insight))
  | cleaned (report : CleanupReport)
  | swept (shadows : List (ShadowId × List Insight))
  | done

/-- An operation on a shadow of the host. -/
def act (h : Host σ) (id : ShadowId) (now : Time) : Shadow.Op → Answer × Host σ
  | .view => (.viewed (h.handle? id), h)
  | .read key => (.read ((h.handle? id).map fun handle => handle.read key), h)
  | .log kind data => (h.log id now kind data).map .logged fun h => h
  | .beginValidation => (h.beginValidation id now).map .opened fun h => h
  | .recordValidation changeId passed =>
    (h.recordValidation id changeId passed).map .recorded fun h => h
  | .testRollback => (h.testRollback id now).map .tested fun h => h
  | .merge report => (h.merge id report now).map .merged fun h => h
  | .discard => (h.discard id).map .discarded fun h => h
  | .cleanup => (h.cleanup id).map .cleaned fun h => h
  | .cleanupInUse => (h.cleanupInUse id).map .cleaned fun h => h
  | .loseDirectory => (.done, h.loseDirectory id)

/-- **The host answers calls.** -/
def operations : Machine (Host σ) (Timed Call) Answer := fun h c =>
  match c.call with
  | .create id config => (h.create id config c.now).map .created fun h => h
  | .on id op => h.act id c.now op
  | .sweep => (h.sweep c.now).map .swept fun h => h
  | .setRoot fault => (.done, { h with rootFault := fault })

/-! ## A sample -/

/-- An id. -/
def sampleId : ShadowId := ⟨1⟩

/-- A host over an empty live store. -/
def sampleHost : Host Store := start Store.backing {} {} .exact

/-- A shadow in memory, one change logged into it, and the proposal `p` approved. -/
def sampleCalls : List (Timed Call) :=
  [⟨.create sampleId .memoryOnly, 0⟩,
   ⟨.on sampleId (.log "tuning" (.obj [("key", .str "rate"), ("value", .bool true)])), 1⟩,
   ⟨.on sampleId .beginValidation, 2⟩,
   ⟨.on sampleId (.recordValidation "p" true), 3⟩]

/-- The report that approves the proposal `p`. -/
def sampleReport : Report where
  changeId := "p"
  category := .metaLearning
  verdict := .approved
  overallScore := 0.9
  safetyScore := 0.9
  performanceScore := 0.9
  ethicsScore := 0.9
  riskLevel := 0.1
  rollbackReady := true
  rollbackRequired := true

end Host

end ShadowGate
