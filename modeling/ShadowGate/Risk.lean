import ShadowGate.Proposal
import ShadowGate.Score
import ShadowGate.Text.Class
import ShadowGate.Text.Search

/-!
# Risk

Every declared risk is sorted into a category by the first keyword list that it matches, and rated
by severity words. The level of risk is the mean severity plus a penalty for lack of confidence.

* `Risk.categorize`, `Risk.severity` — one risk text. Severity words count as whole words only.
* `Risk.mitigations` — one strategy for each category, in the order the categories first occur; a
  proposal without declared risks gets the advice to raise confidence.
* `Risk.assess` — the whole assessment; mitigations are given exactly when the tolerance is
  exceeded.
-/

namespace ShadowGate.Risk

/-- The area that a risk touches. -/
inductive Kind where
  | performance
  | safety
  | ethical
  | operational
deriving DecidableEq, Repr, Inhabited

namespace Kind

/-- Every area. -/
def all : List Kind := [performance, safety, ethical, operational]

/-- The area's name. -/
def tag : Kind → String
  | performance => "performance"
  | safety => "safety"
  | ethical => "ethical"
  | operational => "operational"

/-- An area as a value. -/
def toJson (k : Kind) : Json := .str k.tag

/-- The area that a value names. -/
def ofJson? : Json → Option Kind := Json.oneOf all tag

/-- What to do about risks in an area. -/
def strategy : Kind → String
  | safety =>
    "Stage the change behind a verified rollback point and monitor integrity checks after merge"
  | ethical =>
    "Require review of the change against the ethical framework before it reaches live state"
  | performance =>
    "Benchmark in the shadow and define a performance regression threshold that triggers rollback"
  | operational =>
    "Merge during a low-activity window with the previous state snapshot retained"

end Kind

/-- A declared risk with its area and severity. -/
structure Item where
  /-- the risk as declared -/
  description : String
  /-- the area it touches -/
  category : Kind
  /-- how severe it is -/
  severity : Float
deriving Inhabited, DecidableEq

namespace Item

/-- A risk item as a value. -/
def toJson (i : Item) : Json :=
  Json.object
    [("description", .str i.description),
     ("category", i.category.toJson),
     ("severity", Json.ofFloat i.severity)]

/-- The risk item that a value describes. -/
def ofJson? (v : Json) : Option Item := do
  let row ← Json.Row.ofJson? 3 v
  let description ← row.required 0 "description" Json.str?
  let category ← row.required 1 "category" Kind.ofJson?
  let severity ← row.required 2 "severity" Json.float?
  pure { description, category, severity }

end Item

/-- The risk of a proposal. -/
structure Assessment where
  /-- the declared risks -/
  items : List Item := []
  /-- their mean severity -/
  meanSeverity : Float := 0.0
  /-- what the lack of confidence adds -/
  confidencePenalty : Float := 0.0
  /-- the level of risk -/
  riskLevel : Float := 0.0
  /-- the level that the category tolerates -/
  tolerance : Float := 0.0
  /-- whether the level is above the tolerance -/
  exceedsTolerance : Bool := false
  /-- what to do about it -/
  mitigations : List String := []
deriving Inhabited, DecidableEq

namespace Assessment

/-- An assessment as a value. -/
def toJson (a : Assessment) : Json :=
  Json.object
    [("items", Json.ofList Item.toJson a.items),
     ("mean_severity", Json.ofFloat a.meanSeverity),
     ("confidence_penalty", Json.ofFloat a.confidencePenalty),
     ("risk_level", Json.ofFloat a.riskLevel),
     ("tolerance", Json.ofFloat a.tolerance),
     ("exceeds_tolerance", .bool a.exceedsTolerance),
     ("mitigations", Json.ofList .str a.mitigations)]

/-- The assessment that a value describes. -/
def ofJson? (v : Json) : Option Assessment := do
  let row ← Json.Row.ofJson? 7 v
  let items ← row.required 0 "items" (Json.list? Item.ofJson?)
  let meanSeverity ← row.required 1 "mean_severity" Json.float?
  let confidencePenalty ← row.required 2 "confidence_penalty" Json.float?
  let riskLevel ← row.required 3 "risk_level" Json.float?
  let tolerance ← row.required 4 "tolerance" Json.float?
  let exceedsTolerance ← row.required 5 "exceeds_tolerance" Json.bool?
  let mitigations ← row.withDefault 6 "mitigations" [] (Json.list? Json.str?)
  pure { items, meanSeverity, confidencePenalty, riskLevel, tolerance, exceedsTolerance,
         mitigations }

end Assessment

/-! ## One risk -/

/-- The keywords of each area, in the order they are tried. -/
def keywords : List (Kind × List String) :=
  [(.safety, ["safety", "unsafe", "crash", "corrupt", "data loss", "instab", "unstable"]),
   (.ethical, ["ethic", "bias", "fair", "harm", "privacy", "value", "moral"]),
   (.performance,
    ["performance", "slow", "latency", "throughput", "memory usage", "cpu", "resource"])]

/-- The area of a risk: the first whose keywords it contains, else operational. -/
def categorize (risk : String) : Kind :=
  let text := Text.lower risk
  match keywords.find? fun entry => entry.2.any (Text.containsText text) with
  | some entry => entry.1
  | none => .operational

/-- The severity that the words of a risk declare. -/
def severity (risk : String) : Float :=
  let words := Text.words (Text.lower risk)
  let declares (terms : List String) : Bool := words.any terms.contains
  if declares ["critical", "critically", "severe", "severely"] then 0.8
  else if declares ["moderate", "moderately"] then 0.5
  else if declares ["minor", "low"] then 0.2
  else 0.4

/-- A declared risk, sorted and rated. -/
def item (risk : String) : Item := ⟨risk, categorize risk, severity risk⟩

/-! ## All risks of a proposal -/

/-- The elements of a list at their first occurrence. -/
def firstSeen : List Kind → List Kind
  | [] => []
  | k :: rest => k :: (firstSeen rest).filter (· != k)

/-- What to do when no risk is declared. -/
def raiseConfidence : String :=
  "Raise proposal confidence with additional shadow experiments before merging"

/-- **One strategy for each area**, in the order the areas first occur. -/
def mitigations (items : List Item) : List String :=
  if items.isEmpty then [raiseConfidence]
  else (firstSeen (items.map (·.category))).map Kind.strategy

/-- The mean severity; none declared is none. -/
def meanSeverity (items : List Item) : Float :=
  if items.isEmpty then 0.0
  else Number.sum (items.map (·.severity)) / Float.ofNat items.length

/-- **The risk of a proposal** against a tolerance. -/
def assess (p : Proposal) (tolerance : Float) : Assessment :=
  let items := p.risks.map item
  let mean := meanSeverity items
  let confidencePenalty := (1.0 - p.boundedConfidence) * 0.2
  let riskLevel := Score.unit (mean + confidencePenalty)
  let exceedsTolerance : Bool := riskLevel > tolerance
  { items
    meanSeverity := mean
    confidencePenalty
    riskLevel
    tolerance
    exceedsTolerance
    mitigations := if exceedsTolerance then mitigations items else [] }

end ShadowGate.Risk
