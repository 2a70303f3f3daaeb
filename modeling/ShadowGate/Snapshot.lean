import ShadowGate.Digest

/-!
# Snapshots

A point-in-time copy of a store: its records and its ancillary trees by name. Nothing changes a
snapshot once it is taken; `Snapshot.digest` lets a holder make sure of that.
-/

namespace ShadowGate

/-- The name of the tree of primary records. -/
def stateTree : String := "state"

/-- The name of the ancillary tree of per-agent states. -/
def agentStatesTree : String := "agent_states"

/-- The name of the ancillary tree of configuration values. -/
def configurationTree : String := "configuration"

/-- The ancillary trees that a snapshot of a store carries. -/
def ancillaryTrees : List String := [agentStatesTree, configurationTree]

/-- A point-in-time copy of a store. -/
structure Snapshot where
  /-- where the copied data lives, if it is durable -/
  source : Option String := none
  /-- the primary records -/
  records : Tree := ∅
  /-- the ancillary trees by name -/
  ancillary : SortedMap String Tree := ∅
deriving DecidableEq, Inhabited

namespace Snapshot

/-- The snapshot of nothing, which stands in for one that could not be taken. -/
def empty : Snapshot := {}

/-- How many records it holds, over all trees. -/
def recordCount (s : Snapshot) : Nat :=
  s.ancillary.values.foldl (fun n t => n + t.size) s.records.size

/-- The value of a primary record, if it is there and decodes. -/
def get? (s : Snapshot) (key : String) : Option Json :=
  (s.records.bytesAt key).bind Json.ofBytes?

/-- What the digest is taken of: the primary records, then every ancillary tree after its name. -/
def stream (s : Snapshot) : Bytes :=
  Digest.recordsStream s.records
    ++ s.ancillary.toList.flatMap fun p => Digest.nameBytes p.1 ++ Digest.recordsStream p.2

/-- The digest of a snapshot's content. -/
def digest (s : Snapshot) : String := Digest.text s.stream

/-- An ancillary tree, empty if the snapshot does not carry it. -/
def ancillaryTree (s : Snapshot) (name : String) : Tree := (s.ancillary.get? name).getD ∅

/-- A snapshot as a value. -/
def toJson (s : Snapshot) : Json :=
  Json.object
    [("records", s.records.toJson),
     ("ancillary", Json.object (s.ancillary.toList.map fun p => (p.1, Tree.toJson p.2))),
     ("record_count", .ofNat s.recordCount),
     ("digest", .str s.digest),
     ("has_source", .bool s.source.isSome)]

end Snapshot

end ShadowGate
