import ShadowGate.Merge

/-!
# Replays

What a replay of a log does, whatever becomes of the single changes.

* `Backing.tryAll` — the state that the changes of a log leave, refused ones included.
* `Backing.replayFrom_cons_eq_ok` — **one step** of a replay that ran to its end. From it follow
  `Backing.outline_of_replay`: the trail names the changes of the log, one by one and in order;
  `Backing.tells_of_replay`: every line says what became of its change; and
  `Backing.state_of_replay`: every change was tried once, after those before it.
* `Backing.cut_of_replay` — what a replay that does not run to its end has done.
* `Backing.Returns` — no change kills its task; then `Backing.exists_replay`: a replay runs to its
  end.
* `Store.replay_eq` — on a live store every change is applied, and the trail does not depend on what
  the store holds.
-/

namespace ShadowGate

/-- What a trail keeps of a change: its number, its kind and what it does. -/
def ChangeEntry.outline (e : ChangeEntry) : Nat × String × String :=
  (e.id, e.kind, e.mutation.describe)

/-- What a line of a trail says of its change. -/
def AuditEntry.outline (a : AuditEntry) : Nat × String × String :=
  (a.changeId, a.kind, a.description)

@[simp] theorem AuditEntry.outline_ofChange (sequence : Nat) (e : ChangeEntry)
    (outcome : AuditOutcome) : (AuditEntry.ofChange sequence e outcome).outline = e.outline := rfl

namespace Backing

variable {σ : Type}

/-- The state that the changes of a log leave, each tried on what those before it left. -/
def tryAll (b : Backing σ) (live : σ) (log : List ChangeEntry) : σ :=
  log.foldl (fun live e => (b.apply live e).2) live

theorem tryAll_cons (b : Backing σ) (live : σ) (e : ChangeEntry) (log : List ChangeEntry) :
    b.tryAll live (e :: log) = b.tryAll (b.apply live e).2 log := rfl

/-- **One step of a replay that ran to its end**: the first change was tried and put on record, and
the rest was replayed on what it left. -/
theorem replayFrom_cons_eq_ok (b : Backing σ) {sequence : Nat} {e : ChangeEntry}
    {rest : List ChangeEntry} {live : σ} {trail : List AuditEntry}
    (h : (b.replayFrom sequence (e :: rest) live).1 = .ok trail) :
    ∃ outcome trail', AuditOutcome.ofCall (b.apply live e).1 = .ok outcome ∧
      (b.replayFrom (sequence + 1) rest (b.apply live e).2).1 = .ok trail' ∧
      trail = AuditEntry.ofChange sequence e outcome :: trail' ∧
      (b.replayFrom sequence (e :: rest) live).2 =
        (b.replayFrom (sequence + 1) rest (b.apply live e).2).2 := by
  simp only [replayFrom] at h ⊢
  cases hcall : AuditOutcome.ofCall (b.apply live e).1 with
  | error message => simp [hcall] at h
  | ok outcome =>
    cases hrest : (b.replayFrom (sequence + 1) rest (b.apply live e).2).1 with
    | error message => simp [hcall, hrest, Except.map] at h
    | ok trail' =>
      simp only [hcall, hrest, Except.map, Except.ok.injEq] at h
      exact ⟨outcome, trail', rfl, rfl, h.symm, rfl⟩

theorem outline_of_replayFrom (b : Backing σ) {sequence : Nat} {log : List ChangeEntry} {live : σ}
    {trail : List AuditEntry} (h : (b.replayFrom sequence log live).1 = .ok trail) :
    trail.map AuditEntry.outline = log.map ChangeEntry.outline := by
  induction log generalizing sequence live trail with
  | nil =>
    obtain rfl := Except.ok.inj h
    rfl
  | cons e rest ih =>
    obtain ⟨outcome, trail', -, hrest, rfl, -⟩ := b.replayFrom_cons_eq_ok h
    rw [List.map_cons, List.map_cons, AuditEntry.outline_ofChange, ih hrest]

/-- **The trail of a replay names the changes of the log**, all of them and in order. -/
theorem outline_of_replay (b : Backing σ) {log : List ChangeEntry} {live : σ}
    {trail : List AuditEntry} (h : (b.replay log live).1 = .ok trail) :
    trail.map AuditEntry.outline = log.map ChangeEntry.outline :=
  b.outline_of_replayFrom h

/-- **A line of a trail tells the truth** about a change, given what applying it answered. -/
structure Tells (a : AuditEntry) (sequence : Nat) (e : ChangeEntry) (call : Except Fault Unit) :
    Prop where
  /-- the place of the change in the log -/
  sequence : a.sequence = sequence
  /-- its number -/
  changeId : a.changeId = e.id
  /-- its kind -/
  kind : a.kind = e.kind
  /-- what it does -/
  description : a.description = e.mutation.describe
  /-- it is on record as applied exactly if it was -/
  applied : a.outcome = .applied ↔ call = .ok ()
  /-- it is on record as failed, with the wording of an error, exactly if it was refused with one -/
  failed : ∀ text, a.outcome = .failed text ↔
    ∃ error, call = .error (.refused error) ∧ text = error.message

theorem tells_ofChange {call : Except Fault Unit} {outcome : AuditOutcome}
    (hcall : AuditOutcome.ofCall call = .ok outcome) (sequence : Nat) (e : ChangeEntry) :
    Tells (AuditEntry.ofChange sequence e outcome) sequence e call := by
  rcases call with (error | message) | ⟨⟩
  · obtain rfl : AuditOutcome.failed error.message = outcome := Except.ok.inj hcall
    refine ⟨rfl, rfl, rfl, rfl, by simp [AuditEntry.ofChange], fun text => ?_⟩
    simp [AuditEntry.ofChange, eq_comm]
  · cases hcall
  · obtain rfl : AuditOutcome.applied = outcome := Except.ok.inj hcall
    exact ⟨rfl, rfl, rfl, rfl, by simp [AuditEntry.ofChange], by simp [AuditEntry.ofChange]⟩

theorem tells_of_replayFrom (b : Backing σ) {sequence : Nat} {log : List ChangeEntry} {live : σ}
    {trail : List AuditEntry} (h : (b.replayFrom sequence log live).1 = .ok trail) {i : Nat}
    {e : ChangeEntry} (he : log[i]? = some e) :
    ∃ a, trail[i]? = some a ∧
      Tells a (sequence + i) e (b.apply (b.tryAll live (log.take i)) e).1 := by
  induction log generalizing sequence live trail i with
  | nil => cases he
  | cons first rest ih =>
    obtain ⟨outcome, trail', hcall, hrest, rfl, -⟩ := b.replayFrom_cons_eq_ok h
    cases i with
    | zero =>
      obtain rfl := Option.some.inj he
      exact ⟨_, rfl, tells_ofChange hcall sequence first⟩
    | succ i =>
      -- the place counts from the second change on, and so does the state that it is tried on
      obtain ⟨a, ha, htells⟩ := ih hrest he
      rw [Nat.add_assoc, Nat.add_comm 1] at htells
      exact ⟨a, ha, htells⟩

/-- **Every line of a trail says what became of its change**, tried on the state that the changes
before it left. -/
theorem tells_of_replay (b : Backing σ) {log : List ChangeEntry} {live : σ}
    {trail : List AuditEntry} (h : (b.replay log live).1 = .ok trail) {i : Nat} {e : ChangeEntry}
    (he : log[i]? = some e) :
    ∃ a, trail[i]? = some a ∧ Tells a i e (b.apply (b.tryAll live (log.take i)) e).1 := by
  have htells := b.tells_of_replayFrom h he
  rwa [Nat.zero_add] at htells

theorem state_of_replayFrom (b : Backing σ) {sequence : Nat} {log : List ChangeEntry} {live : σ}
    {trail : List AuditEntry} (h : (b.replayFrom sequence log live).1 = .ok trail) :
    (b.replayFrom sequence log live).2 = b.tryAll live log := by
  induction log generalizing sequence live trail with
  | nil => rfl
  | cons e rest ih =>
    obtain ⟨outcome, trail', -, hrest, -, hstate⟩ := b.replayFrom_cons_eq_ok h
    rw [hstate, ih hrest, tryAll_cons]

/-- **A replay that runs to its end tries every change**, once and in order. -/
theorem state_of_replay (b : Backing σ) {log : List ChangeEntry} {live : σ}
    {trail : List AuditEntry} (h : (b.replay log live).1 = .ok trail) :
    (b.replay log live).2 = b.tryAll live log :=
  b.state_of_replayFrom h

theorem ofCall_eq_error_iff {call : Except Fault Unit} {message : String} :
    AuditOutcome.ofCall call = .error message ↔ call = .error (.crashed message) := by
  rcases call with (error | message') | ⟨⟩ <;> simp [AuditOutcome.ofCall]

theorem cut_of_replayFrom (b : Backing σ) {sequence : Nat} {log : List ChangeEntry} {live : σ}
    {message : String} (h : (b.replayFrom sequence log live).1 = .error message) :
    ∃ before e after, log = before ++ e :: after ∧
      (b.apply (b.tryAll live before) e).1 = .error (.crashed message) ∧
      (b.replayFrom sequence log live).2 = b.tryAll live (before ++ [e]) := by
  induction log generalizing sequence live with
  | nil => cases h
  | cons e rest ih =>
    simp only [replayFrom] at h ⊢
    cases hcall : AuditOutcome.ofCall (b.apply live e).1 with
    | error message' =>
      obtain rfl : message' = message := by simpa [hcall] using h
      exact ⟨[], e, rest, rfl, ofCall_eq_error_iff.mp hcall, rfl⟩
    | ok outcome =>
      -- the first change came to an end, so it is one of the rest that did not
      simp only [hcall] at h ⊢
      cases hrest : (b.replayFrom (sequence + 1) rest (b.apply live e).2).1 with
      | ok trail =>
        rw [hrest] at h
        cases h
      | error message' =>
        obtain rfl : message' = message := by simpa [hrest, Except.map] using h
        obtain ⟨before, cut, after, rfl, hcut, hstate⟩ := ih hrest
        exact ⟨e :: before, cut, after, rfl, hcut, hstate⟩

/-- **A replay is cut short by a change whose task dies**: those before it were tried in order, and
those after it were not. -/
theorem cut_of_replay (b : Backing σ) {log : List ChangeEntry} {live : σ} {message : String}
    (h : (b.replay log live).1 = .error message) :
    ∃ before e after, log = before ++ e :: after ∧
      (b.apply (b.tryAll live before) e).1 = .error (.crashed message) ∧
      (b.replay log live).2 = b.tryAll live (before ++ [e]) :=
  b.cut_of_replayFrom h

/-- Applying a change comes to an end: it is applied or refused. -/
def Returns (b : Backing σ) : Prop :=
  ∀ live e message, (b.apply live e).1 ≠ .error (.crashed message)

theorem Returns.exists_replayFrom {b : Backing σ} (hb : b.Returns) (sequence : Nat)
    (log : List ChangeEntry) (live : σ) :
    ∃ trail, (b.replayFrom sequence log live).1 = .ok trail := by
  induction log generalizing sequence live with
  | nil => exact ⟨[], rfl⟩
  | cons e rest ih =>
    -- the rest follows from whatever state the first change leaves, applied or not
    obtain ⟨trail, htrail⟩ := ih (sequence + 1) (b.apply live e).2
    have hone : ∃ outcome, AuditOutcome.ofCall (b.apply live e).1 = .ok outcome := by
      rcases hcall : (b.apply live e).1 with (error | message) | u
      · exact ⟨_, rfl⟩
      · exact absurd hcall (hb live e message)
      · exact ⟨_, rfl⟩
    obtain ⟨outcome, houtcome⟩ := hone
    refine ⟨AuditEntry.ofChange sequence e outcome :: trail, ?_⟩
    simp only [replayFrom, houtcome, htrail]
    rfl

/-- **A replay runs to its end** if every change does. -/
theorem Returns.exists_replay {b : Backing σ} (hb : b.Returns) (log : List ChangeEntry) (live : σ) :
    ∃ trail, (b.replay log live).1 = .ok trail :=
  hb.exists_replayFrom 0 log live

end Backing

/-- Changes that are refused are no dead tasks. -/
theorem Outage.returns_backing {o : Outage} (ho : o.applyCrashes = false) : o.backing.Returns := by
  intro live e message
  simp only [backing, applyFault, ho]
  cases o.applyFails with
  | some reason => exact nofun
  | none =>
    by_cases hlocked : o.locked.contains e.mutation.key = true
    · simp only [hlocked, if_true]
      exact nofun
    · simp only [hlocked]
      exact nofun

namespace Store

/-- The trail of a log whose changes are all applied. -/
def trailFrom (sequence : Nat) : List ChangeEntry → List AuditEntry
  | [] => []
  | e :: rest => AuditEntry.ofChange sequence e .applied :: trailFrom (sequence + 1) rest

theorem replayFrom_eq (sequence : Nat) (log : List ChangeEntry) (live : Store) :
    backing.replayFrom sequence log live =
      (.ok (trailFrom sequence log), log.foldl apply live) := by
  induction log generalizing sequence live with
  | nil => rfl
  | cons e rest ih =>
    have happly : backing.apply live e = (.ok (), live.apply e) := rfl
    simp only [Backing.replayFrom, happly, AuditOutcome.ofCall, ih, List.foldl_cons]
    rfl

/-- **A live store applies every change of a replay.** -/
theorem replay_eq (log : List ChangeEntry) (live : Store) :
    backing.replay log live = (.ok (trailFrom 0 log), log.foldl apply live) :=
  replayFrom_eq 0 log live

/-- To try every change of a log on a live store is to apply it. -/
theorem tryAll_backing (live : Store) (log : List ChangeEntry) :
    backing.tryAll live log = log.foldl apply live := rfl

/-- A live store takes every change. -/
theorem returns_backing : backing.Returns := by
  intro live e message hcrashed
  cases hcrashed

/-- The primary records after a list of changes. -/
theorem state_foldl_apply (log : List ChangeEntry) (live : Store) :
    (log.foldl apply live).state = live.state.applyAll log := by
  induction log generalizing live with
  | nil => rfl
  | cons e rest ih =>
    rw [List.foldl_cons, ih, state_apply]
    rfl

end Store

end ShadowGate
