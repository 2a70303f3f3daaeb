import ShadowGate.Proposal
import ShadowGate.Score
import ShadowGate.Number.Fixed

/-!
# Checks

A check gives a proposal a score in one of three dimensions. A check that fails, dies or gives no
finite number is **degraded**: it counts with a conservative score and carries the reason.

* `Check.run` — one check on one proposal; the score is always in the unit interval.
* `CheckSet` — checks for single categories and checks for all; `CheckSet.run` runs those of one
  dimension that concern a proposal, the category's own first.
-/

namespace ShadowGate

/-- What a check contributes to. -/
inductive Dimension where
  | safety
  | performance
  | ethics
deriving DecidableEq, Repr, Inhabited

namespace Dimension

/-- Every dimension. -/
def all : List Dimension := [safety, performance, ethics]

/-- The dimension's name. -/
def tag : Dimension → String
  | safety => "safety"
  | performance => "performance"
  | ethics => "ethics"

/-- A dimension as a value. -/
def toJson (d : Dimension) : Json := .str d.tag

/-- The dimension that a value names. -/
def ofJson? : Json → Option Dimension := Json.oneOf all tag

end Dimension

/-- The score that one check gave. -/
structure CheckScore where
  /-- the check's name -/
  name : String
  /-- what it contributes to -/
  kind : Dimension
  /-- the score -/
  score : Float
  /-- why a conservative score stands in, if it does -/
  degraded : Option String := none
deriving Inhabited, DecidableEq

namespace CheckScore

/-- A check's score as a value; a reason is written only if there is one. -/
def toJson (c : CheckScore) : Json :=
  Json.object
    ([("name", .str c.name), ("kind", c.kind.toJson), ("score", Json.ofFloat c.score)]
      ++ (c.degraded.map fun reason => ("degraded", .str reason)).toList)

/-- The check's score that a value describes. -/
def ofJson? (v : Json) : Option CheckScore := do
  let row ← Json.Row.ofJson? 4 v
  let name ← row.required 0 "name" Json.str?
  let kind ← row.required 1 "kind" Dimension.ofJson?
  let score ← row.required 2 "score" Json.float?
  let degraded ← row.withDefault 3 "degraded" none (Json.option? Json.str?)
  pure { name, kind, score, degraded }

end CheckScore

/-- Why a check gave no score. -/
inductive CheckFault where
  /-- something it looks at is not there -/
  | missingInput (what : String)
  /-- it failed -/
  | failed (reason : String)
  /-- it died while running -/
  | crashed
deriving DecidableEq, Repr

namespace CheckFault

/-- The wording of a check's fault. -/
def message : CheckFault → String
  | missingInput what => "check input unavailable: " ++ what
  | failed reason => "check failed: " ++ reason
  | crashed => "check panicked"

end CheckFault

/-- A named scoring rule in one dimension. -/
structure Check where
  /-- the check's name -/
  name : String
  /-- what it contributes to -/
  kind : Dimension
  /-- the score of a proposal, or why there is none -/
  evaluate : Proposal → Except CheckFault Float

namespace Check

/-- The score that counts and the reason if it is not the check's own. -/
def settle : Except CheckFault Float → Float × Option String
  | .ok x =>
    if x.isFinite then (Number.clamp x 0.0 1.0, none)
    else (Score.conservative, some ("non-finite score " ++ Number.nonFiniteName x))
  | .error fault => (Score.conservative, some fault.message)

/-- **Run a check** on a proposal. -/
def run (c : Check) (p : Proposal) : CheckScore :=
  let (score, degraded) := settle (c.evaluate p)
  { name := c.name, kind := c.kind, score, degraded }

end Check

/-- Checks for single categories and checks for all. -/
structure CheckSet where
  /-- checks that concern one category, in the order they were added -/
  targeted : List (Category × Check) := []
  /-- checks that concern every category, in the order they were added -/
  common : List Check := []
deriving Inhabited

namespace CheckSet

/-- No checks at all. -/
def empty : CheckSet := {}

/-- Add a check for one category. -/
def register (s : CheckSet) (category : Category) (c : Check) : CheckSet :=
  { s with targeted := s.targeted ++ [(category, c)] }

/-- Add a check for every category. -/
def registerCommon (s : CheckSet) (c : Check) : CheckSet := { s with common := s.common ++ [c] }

/-- The checks that concern a category. -/
def forCategory (s : CheckSet) (category : Category) : List Check :=
  (s.targeted.filter (·.1 == category)).map (·.2) ++ s.common

/-- The checks of one dimension that concern a category. -/
def checksFor (s : CheckSet) (category : Category) (kind : Dimension) : List Check :=
  (s.forCategory category).filter (·.kind == kind)

/-- Run the checks of one dimension on a proposal. -/
def run (s : CheckSet) (p : Proposal) (kind : Dimension) : List CheckScore :=
  (s.checksFor p.category kind).map (·.run p)

end CheckSet

end ShadowGate
