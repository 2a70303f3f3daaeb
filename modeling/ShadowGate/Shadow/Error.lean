import ShadowGate.Backing
import ShadowGate.Shadow.Config
import ShadowGate.Shadow.Id
import ShadowGate.Verdict

/-!
# What can go wrong with a shadow

Causes, with the wording of each in one place.
-/

namespace ShadowGate

/-- Why a merge is turned down. -/
inductive MergeRefusal where
  /-- the report does not approve the proposal -/
  | notApproved (changeId : String) (verdict : Verdict)
  /-- an undo path is required and was not demonstrated -/
  | rollbackMissing (changeId : String)
  /-- the shadow did not pass a validation of its own -/
  | notPassed (id : ShadowId) (phase : Phase)
  /-- the shadow passed with another proposal -/
  | otherProposal (changeId : String) (id : ShadowId)
deriving DecidableEq

/-- The wording of a refusal. -/
def MergeRefusal.message : MergeRefusal → String
  | notApproved changeId verdict => "proposal " ++ changeId ++ " was " ++ verdict.display
  | rollbackMissing changeId =>
    "proposal " ++ changeId ++ " requires rollback but no working undo path was demonstrated"
  | notPassed id phase =>
    id.text ++ " has not passed its own validation (phase " ++ phase.title ++ ")"
  | otherProposal changeId id =>
    "report for proposal " ++ changeId ++ " does not match the verdict recorded on " ++ id.text

/-- Why a shadow is in no state for an operation. -/
inductive Misstep where
  /-- it is merged or discarded -/
  | finished (id : ShadowId) (phase : Phase)
  /-- no validation is open -/
  | notValidating (id : ShadowId) (phase : Phase)
  /-- its private copy is gone -/
  | released (id : ShadowId)
deriving DecidableEq

/-- The wording of a misstep. -/
def Misstep.message : Misstep → String
  | finished id phase => id.text ++ " is already " ++ phase.title
  | notValidating id phase =>
    id.text ++ " is not being validated (phase " ++ phase.title ++ ")"
  | released id => "storage of " ++ id.text ++ " already released"

/-- What can go wrong with a shadow. -/
inductive ShadowError where
  /-- no such shadow is registered -/
  | notFound (id : ShadowId)
  /-- a merge is turned down -/
  | validationRejected (why : MergeRefusal)
  /-- some changes of a merge failed -/
  | partialMerge (failed total : Nat)
  /-- cleanup could not finish -/
  | cleanupWarning (id : ShadowId) (reason : String)
  /-- the shadow outlived its lifetime -/
  | expired (id : ShadowId)
  /-- a validation is open -/
  | busy (id : ShadowId)
  /-- the shadow is in no state for the operation -/
  | invalidState (why : Misstep)
  /-- the snapshot changed since it was taken -/
  | integrityViolation (id : ShadowId)
  /-- an error of the backing store -/
  | store (error : StoreError)
  /-- the task that ran the operation died -/
  | crashed (message : String)
deriving DecidableEq

/-- **The wording of an error.** -/
def ShadowError.message : ShadowError → String
  | notFound id => "shadow state not found: " ++ id.text
  | validationRejected why => "validation rejected merge: " ++ why.message
  | partialMerge failed total =>
    "partial merge failure: " ++ Number.natText failed ++ " of " ++ Number.natText total
      ++ " change(s) failed to apply"
  | cleanupWarning id reason => "cleanup warning for " ++ id.text ++ ": " ++ reason
  | expired id => "shadow state " ++ id.text ++ " exceeded its maximum duration"
  | busy id => "shadow state " ++ id.text ++ " already has a validation in flight"
  | invalidState why => "invalid shadow state transition: " ++ why.message
  | integrityViolation id =>
    "snapshot integrity violation on " ++ id.text ++ ": digest changed since creation"
  | store error => error.message
  | crashed message => "blocking task failed: task N panicked with message \"" ++ message ++ "\""

end ShadowGate
