import ShadowGate.Store

/-!
# Backing stores

What the shadow pipeline needs of live state: a consistent copy of it, and a way to apply one
change. Both can fail, and either may leave the state as it likes.

* `Backing` — the two capabilities over any type of state.
* `Store.backing` — the live store, where neither fails and a copy changes nothing.
* `Outage` — the live store with some of its service out of order.
-/

namespace ShadowGate

/-- How a call into a backing store fails. -/
inductive Fault where
  /-- the store refuses -/
  | refused (error : StoreError)
  /-- the task that ran the call died, with this message -/
  | crashed (message : String)
deriving DecidableEq, Repr

/-- A backing store over a state: each call gives an outcome and the state it leaves. -/
structure Backing (σ : Type) where
  /-- a consistent point-in-time copy -/
  snapshot : σ → Except Fault Snapshot × σ
  /-- apply one change -/
  apply : σ → ChangeEntry → Except Fault Unit × σ

/-- The live store as a backing store. -/
def Store.backing : Backing Store where
  snapshot s := (.ok s.snapshot, s)
  apply s e := (.ok (), s.apply e)

/-- Which parts of a live store's service are out of order. -/
structure Outage where
  /-- copies are refused with this reason -/
  snapshotFails : Option String := none
  /-- a copy kills its task -/
  snapshotCrashes : Bool := false
  /-- changes are refused with this reason -/
  applyFails : Option String := none
  /-- a change kills its task -/
  applyCrashes : Bool := false
  /-- keys that no change may touch -/
  locked : List String := []

namespace Outage

/-- The outcome of a copy, if the outage decides it. -/
def snapshotFault (o : Outage) : Option Fault :=
  if o.snapshotCrashes then some (.crashed "snapshot panicked")
  else o.snapshotFails.map fun reason => .refused (.unavailable reason)

/-- The outcome of a change, if the outage decides it. -/
def applyFault (o : Outage) (e : ChangeEntry) : Option Fault :=
  if o.applyCrashes then some (.crashed "apply panicked")
  else
    match o.applyFails with
    | some reason => some (.refused (.unavailable reason))
    | none =>
      let key := e.mutation.key
      if o.locked.contains key then some (.refused (.unavailable (key ++ " is locked"))) else none

/-- The live store under an outage. -/
def backing (o : Outage) : Backing Store where
  snapshot s :=
    match o.snapshotFault with
    | some f => (.error f, s)
    | none => (.ok s.snapshot, s)
  apply s e :=
    match o.applyFault e with
    | some f => (.error f, s)
    | none => (.ok (), s.apply e)

end Outage

end ShadowGate
