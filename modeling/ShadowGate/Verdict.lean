import ShadowGate.Json.Record

/-!
# Verdicts

The four outcomes of a validation, from the best to the worst. Only an approved proposal may be
merged.
-/

namespace ShadowGate

/-- The outcome of a validation. -/
inductive Verdict where
  | approved
  | conditional
  | requiresReview
  | rejected
deriving DecidableEq, Repr, Inhabited

namespace Verdict

/-- Every verdict. -/
def all : List Verdict := [approved, conditional, requiresReview, rejected]

/-- The verdict's name in a record. -/
def tag : Verdict → String
  | approved => "approved"
  | conditional => "conditional"
  | requiresReview => "requires_review"
  | rejected => "rejected"

/-- The verdict as it is shown in messages. -/
def display : Verdict → String
  | approved => "APPROVED"
  | conditional => "CONDITIONAL"
  | requiresReview => "REQUIRES_REVIEW"
  | rejected => "REJECTED"

/-- A verdict as a value. -/
def toJson (v : Verdict) : Json := .str v.tag

/-- The verdict that a value names. -/
def ofJson? : Json → Option Verdict := Json.oneOf all tag

end Verdict

end ShadowGate
