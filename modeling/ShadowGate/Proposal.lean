import ShadowGate.Category
import ShadowGate.Json.Form
import ShadowGate.Text.Lowercase

/-!
# Change proposals

A candidate modification of the agent's state: what it changes, which benefits and risks its
author declares, and how confident the author is.

* `Proposal.boundedConfidence` — confidence cut to the unit interval; an undefined or infinite
  one counts as none.
* `Proposal.searchableText` — what keyword checks look at: the description, then every
  modification's key and compact value, each lower-cased on its own and separated by a blank.
* `Proposal.toJson`, `Proposal.ofJson?`, `Proposal.ofText?` — the record. A text that names a
  field of the record twice is refused, and what it has under other names is passed over.
-/

namespace ShadowGate

/-- A candidate modification with declared benefits and risks. -/
structure Proposal where
  /-- the proposal's own name -/
  id : String
  /-- which process proposed it -/
  source : String
  /-- the area it targets -/
  category : Category
  /-- what it is about -/
  description : String
  /-- key and new value of every record it changes -/
  modifications : SortedMap String Json := ∅
  /-- expected benefits -/
  benefits : List String := []
  /-- declared risks -/
  risks : List String := []
  /-- the proposer's confidence -/
  confidence : Float
  /-- how urgent it is -/
  priority : Priority := .medium
deriving Inhabited

namespace Proposal

/-- Confidence in the unit interval; a value that is not finite counts as zero. -/
def boundedConfidence (p : Proposal) : Float :=
  if p.confidence.isFinite then Number.clamp p.confidence 0.0 1.0 else 0.0

/-- The searchable text of one modification, with the blank that separates it from what precedes. -/
def modificationText (m : String × Json) : String :=
  " " ++ Text.lower m.1 ++ " " ++ Text.lower m.2.text

/-- **The text that keyword checks scan.** -/
def searchableText (p : Proposal) : String :=
  p.modifications.toList.foldl (fun text m => text ++ modificationText m)
    (Text.lower p.description)

/-- What each modification logs: its key and its value. -/
def payloads (p : Proposal) : List Json :=
  p.modifications.toList.map fun m => .obj [("key", .str m.1), ("value", m.2)]

/-! ## The record -/

/-- A proposal as a value. -/
def toJson (p : Proposal) : Json :=
  Json.object
    [("id", .str p.id),
     ("source", .str p.source),
     ("category", p.category.toJson),
     ("description", .str p.description),
     ("proposed_modifications", .obj p.modifications.toList),
     ("expected_benefits", Json.ofList .str p.benefits),
     ("potential_risks", Json.ofList .str p.risks),
     ("confidence", Json.ofFloat p.confidence),
     ("priority", p.priority.toJson)]

/-- The names of the record's fields, in order. -/
def fieldNames : List String :=
  ["id", "source", "category", "description", "proposed_modifications", "expected_benefits",
   "potential_risks", "confidence", "priority"]

/-- The fields of an object as a map. -/
def modifications? : Json → Option (SortedMap String Json)
  | .obj fields => some (SortedMap.ofList fields)
  | _ => none

/-- The proposal that a value describes, its modifications decoded by `decode`. -/
def ofJsonWith (decode : Json → Option (SortedMap String Json)) (v : Json) : Option Proposal := do
  let row ← Json.Row.ofJson? 9 v
  let id ← row.required 0 "id" Json.str?
  let source ← row.required 1 "source" Json.str?
  let category ← row.required 2 "category" Category.ofJson?
  let description ← row.required 3 "description" Json.str?
  let modifications ← row.withDefault 4 "proposed_modifications" ∅ decode
  let benefits ← row.withDefault 5 "expected_benefits" [] (Json.list? Json.str?)
  let risks ← row.withDefault 6 "potential_risks" [] (Json.list? Json.str?)
  let confidence ← row.required 7 "confidence" Json.float?
  let priority ← row.withDefault 8 "priority" .medium Priority.ofJson?
  pure { id, source, category, description, modifications, benefits, risks, confidence, priority }

/-- The proposal that a value describes. -/
def ofJson? (v : Json) : Option Proposal := ofJsonWith modifications? v

/-- Whether some field of the record is named twice. -/
def repeatsField (raw : Json) : Bool :=
  match raw with
  | .obj fields => fieldNames.any fun name => 1 < (fields.filter (·.1 == name)).length
  | _ => false

/-- **The proposal that a text describes.** Only the modifications are brought into normal form:
a tag that names itself twice is no tag. -/
def ofText? (s : String) : Option Proposal := do
  let raw ← Json.readForm fieldNames s
  if repeatsField raw then none else ofJsonWith (fun v => modifications? v.normalize) raw

end Proposal

end ShadowGate
