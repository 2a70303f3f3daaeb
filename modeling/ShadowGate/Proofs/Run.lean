import ShadowGate.Time

/-!
# Runs

A machine answers calls and changes its state with every one. A run is the list of calls made of
it, from a state on; its history keeps, for each call, the state that the call met, the answer and
the state that it left.

* `Machine.run`, `Machine.history` — the state after a list of calls, and the events on the way;
  `Machine.mem_history` says where an event of a history comes from.
* `Machine.run_invariant` — **what every call keeps, a run keeps**.
* `Machine.history_invariant` — the same for what ties a state to the history that led to it.
-/

namespace ShadowGate

/-- A call, and the clock's reading when it is made. -/
structure Timed (γ : Type) where
  /-- the call -/
  call : γ
  /-- the clock's reading -/
  now : Time

/-- What answers a call in a state, and the state it leaves. -/
def Machine (S C A : Type) : Type := S → C → A × S

/-- One call of a run. -/
structure Event (S C A : Type) where
  /-- the state that the call met -/
  before : S
  /-- the call -/
  call : C
  /-- the answer -/
  answer : A
  /-- the state that the call left -/
  after : S

namespace Machine

variable {S C A : Type} (m : Machine S C A)

/-- A call made in a state. -/
def event (s : S) (c : C) : Event S C A := ⟨s, c, (m s c).1, (m s c).2⟩

/-- The state after a list of calls. -/
def run (s : S) : List C → S
  | [] => s
  | c :: rest => run (m s c).2 rest

/-- A list of calls, each with the states around it and its answer. -/
def history (s : S) : List C → List (Event S C A)
  | [] => []
  | c :: rest => m.event s c :: history (m s c).2 rest

/-- A run goes on from where its first part led to. -/
theorem run_append (s : S) (calls later : List C) :
    m.run s (calls ++ later) = m.run (m.run s calls) later := by
  induction calls generalizing s with
  | nil => rfl
  | cons c rest ih => exact ih _

/-! ## Events of a history -/

/-- An event of a history is a call of the run, made in the state that the calls before it led
to. -/
theorem mem_history {s : S} {calls : List C} {e : Event S C A} (he : e ∈ m.history s calls) :
    ∃ before c after, calls = before ++ c :: after ∧ e = m.event (m.run s before) c := by
  induction calls generalizing s with
  | nil => cases he
  | cons c rest ih =>
    rcases List.mem_cons.mp he with rfl | he
    · exact ⟨[], c, rest, rfl, rfl⟩
    · obtain ⟨before, c', after, rfl, rfl⟩ := ih he
      exact ⟨c :: before, c', after, rfl, rfl⟩

/-- A history is of the calls that were made. -/
theorem map_call_history (s : S) (calls : List C) :
    (m.history s calls).map (fun e => e.call) = calls := by
  induction calls generalizing s with
  | nil => rfl
  | cons c rest ih => exact congrArg (c :: ·) (ih _)

/-! ## Invariants -/

/-- **What every call keeps, a run keeps.** -/
theorem run_invariant {I : S → Prop} {calls : List C}
    (hstep : ∀ s, ∀ c ∈ calls, I s → I (m s c).2) {s : S} (hs : I s) : I (m.run s calls) := by
  induction calls generalizing s with
  | nil => exact hs
  | cons c rest ih =>
    have hs' : I (m s c).2 := hstep s c (List.mem_cons_self ..) hs
    exact ih (fun t d hd => hstep t d (List.mem_cons_of_mem _ hd)) hs'

/-- What ties a state to the history that led to it, and every call keeps, holds along a run that
goes on from such a state. -/
theorem history_invariant {P : List (Event S C A) → S → Prop}
    (hstep : ∀ past s c, P past s → P (past ++ [m.event s c]) (m s c).2) (calls : List C)
    {past : List (Event S C A)} {s : S} (hs : P past s) :
    P (past ++ m.history s calls) (m.run s calls) := by
  induction calls generalizing past s with
  | nil =>
    rw [history, List.append_nil]
    exact hs
  | cons c rest ih =>
    have hrest := ih (hstep past s c hs)
    rw [List.append_assoc] at hrest
    exact hrest

end Machine

end ShadowGate
