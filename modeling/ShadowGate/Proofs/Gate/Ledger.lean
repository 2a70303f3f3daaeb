import Mathlib.Algebra.Ring.Nat
import ShadowGate.Proofs.Gate.Call

/-!
# The ledger is exact

A gate enters the reports of a call as it answers it, and two things are kept of them: the newest
reports, in a window of bounded length, and figures over all of them. The window and the figures are
updated together but cover different stretches of the past. Both are determined by one list, the
reports that the gate has returned.

* `Ledger.Covers` — **a ledger is that of a list of reports**: the window is the end of the list, and
  the figures are those of the whole list. `Ledger.Covers.enter` enters one more report, and
  `Ledger.Covers.record` several.
* `Statistics.Counts` — what the figures count in a list of reports; `Statistics.counts_ofReports`
  says that they do, and `Statistics.Counts.perm` that the order of the list plays no part.
* `Gate.ledger_operations` — **a call enters what it returns**, and nothing if it fails.
* `Gate.ledger_is_exact` — the theorem.
-/

namespace ShadowGate

/-! ## Counting in a sorted map -/

section Counting

variable {κ : Type} [Ord κ]

/-- A key below every key of a list is not found in it. -/
theorem findPair_eq_none_of_lt {α : Type} {k : κ} {pairs : List (κ × α)}
    (h : ∀ p ∈ pairs, compare k p.1 = .lt) : findPair k pairs = none := by
  induction pairs with
  | nil => rfl
  | cons hd tl ih =>
    have hne : compare k hd.1 ≠ .eq := by simp [h hd (List.mem_cons_self ..)]
    rw [findPair, if_neg hne]
    exact ih fun p hp => h p (List.mem_cons_of_mem _ hp)

/-- Counting one more of a key adds one to the sum of all counts. -/
theorem sum_insertPair_succ [Std.TransOrd κ] (k : κ) {pairs : List (κ × Nat)}
    (h : KeySorted pairs) :
    ((insertPair k ((findPair k pairs).getD 0 + 1) pairs).map (·.2)).sum =
      (pairs.map (·.2)).sum + 1 := by
  induction pairs with
  | nil => rfl
  | cons hd tl ih =>
    obtain ⟨k', n⟩ := hd
    obtain ⟨hlt, htl⟩ := List.pairwise_cons.mp h
    rw [insertPair, findPair]
    split
    · rename_i hc
      -- the key is new, for it is below all others
      have hnone : findPair k tl = none :=
        findPair_eq_none_of_lt fun p hp => Std.TransCmp.lt_trans hc (hlt p hp)
      simp only [hc, reduceCtorEq, if_false, hnone, Option.getD_none, List.map_cons, List.sum_cons]
      omega
    · rename_i hc
      simp only [hc, if_true, Option.getD_some, List.map_cons, List.sum_cons]
      omega
    · rename_i hc
      simp only [hc, reduceCtorEq, if_false, List.map_cons, List.sum_cons, ih htl]
      omega

end Counting

/-! ## Figures -/

namespace Statistics

/-- How many reports had a verdict. -/
def count (s : Statistics) : Verdict → Nat
  | .approved => s.approved
  | .conditional => s.conditional
  | .requiresReview => s.requiresReview
  | .rejected => s.rejected

/-- **Figures count a list of reports.** -/
structure Counts (s : Statistics) (reports : List Report) : Prop where
  /-- every report is counted -/
  total : s.total = reports.length
  /-- under its verdict -/
  verdicts : ∀ v, s.count v = reports.countP (·.verdict == v)
  /-- under one of the four -/
  total_verdicts : s.approved + s.conditional + s.requiresReview + s.rejected = reports.length
  /-- a category has an entry if it occurs, and then the number of times that it does -/
  categories : ∀ c, s.categories.get? c =
    if c ∈ reports.map (·.category) then some (reports.countP (·.category == c)) else none
  /-- every report is counted under one category -/
  total_categories : s.categories.values.sum = reports.length

variable {s : Statistics} {reports : List Report}

theorem counts_nil : ({} : Statistics).Counts [] where
  total := rfl
  verdicts v := by cases v <;> rfl
  total_verdicts := rfl
  categories _ := rfl
  total_categories := rfl

theorem count_record (s : Statistics) (r : Report) (v : Verdict) :
    (s.record r).count v = s.count v + tally r v := by
  cases v <;> rfl

/-- **One more report** is counted as one more of its verdict and of its category. -/
theorem Counts.record (h : s.Counts reports) (r : Report) :
    (s.record r).Counts (reports ++ [r]) where
  total := by rw [List.length_append, ← h.total]; rfl
  verdicts v := by
    rw [count_record, h.verdicts, List.countP_append, List.countP_singleton, tally]
    simp only [beq_iff_eq]
  total_verdicts := by
    have hone : tally r .approved + tally r .conditional + tally r .requiresReview
        + tally r .rejected = 1 := by
      cases hv : r.verdict <;> simp [tally, hv]
    have htotal := h.total_verdicts
    simp only [Statistics.record, List.length_append, List.length_singleton]
    omega
  categories c := by
    by_cases hc : c = r.category
    · subst hc
      have hbefore : (s.categories.get? r.category).getD 0 =
          reports.countP (·.category == r.category) := by
        rw [h.categories]
        split
        · rfl
        · rename_i hnone
          symm
          rw [Option.getD_none, List.countP_eq_zero]
          exact fun r' hr' heq => hnone (List.mem_map.mpr ⟨r', hr', beq_iff_eq.mp heq⟩)
      rw [Statistics.record, SortedMap.get?_insert_self, hbefore]
      simp [List.countP_append]
    · rw [Statistics.record, SortedMap.get?_insert_ne _ hc, h.categories]
      simp [List.countP_append, hc, Ne.symm hc]
  total_categories := by
    have hsum := sum_insertPair_succ r.category s.categories.sorted
    rw [List.length_append, ← h.total_categories]
    exact hsum

/-- **The figures over a list count that list.** -/
theorem counts_ofReports (reports : List Report) : (ofReports reports).Counts reports := by
  have hfold : ∀ (later : List Report) {s : Statistics} {earlier : List Report},
      s.Counts earlier → (later.foldl Statistics.record s).Counts (earlier ++ later) := by
    intro later
    induction later with
    | nil => exact fun {s earlier} h => by rwa [List.append_nil]
    | cons r rest ih =>
      intro s earlier h
      rw [List.append_cons]
      exact ih (h.record r)
  exact hfold reports counts_nil

/-- **The order of the reports plays no part in what is counted.** -/
theorem Counts.perm {s' : Statistics} {reports' : List Report} (h : s.Counts reports)
    (h' : s'.Counts reports') (hperm : reports'.Perm reports) :
    s'.total = s.total ∧ (∀ v, s'.count v = s.count v) ∧ s'.categories = s.categories := by
  refine ⟨?_, fun v => ?_, SortedMap.ext_get? fun c => ?_⟩
  · rw [h.total, h'.total, hperm.length_eq]
  · rw [h.verdicts, h'.verdicts, hperm.countP_eq]
  · have hmem : c ∈ reports'.map (·.category) ↔ c ∈ reports.map (·.category) :=
      (hperm.map _).mem_iff
    rw [h.categories, h'.categories, hperm.countP_eq]
    simp only [hmem]

end Statistics

/-! ## The ledger -/

namespace Ledger

/-- **A ledger is that of a list of reports.** -/
structure Covers (l : Ledger) (reports : List Report) : Prop where
  /-- the window is the end of the list -/
  recent : l.recent = reports.drop (reports.length - historyLimit)
  /-- the figures are those of the whole list -/
  statistics : l.statistics = .ofReports reports

variable {l : Ledger} {reports : List Report}

theorem covers_nil : ({} : Ledger).Covers [] := ⟨rfl, rfl⟩

theorem Covers.length_recent (h : l.Covers reports) :
    l.recent.length = min historyLimit reports.length := by
  rw [h.recent, List.length_drop]
  omega

/-- **One more report**: a full window loses its oldest, and the others stay. -/
theorem Covers.enter (h : l.Covers reports) (r : Report) :
    (l.enter r).Covers (reports ++ [r]) where
  recent := by
    have hlength := h.length_recent
    rw [Ledger.enter]
    split
    · rename_i hfull
      have hnext : (reports ++ [r]).length - historyLimit =
          reports.length - historyLimit + 1 := by
        rw [List.length_append, List.length_singleton]
        omega
      rw [hnext, h.recent, List.drop_drop, List.drop_append_of_le_length]
      have hpos : 0 < historyLimit := by decide
      omega
    · rename_i hroom
      have hall : (reports ++ [r]).length - historyLimit = 0 := by
        rw [List.length_append, List.length_singleton]
        omega
      have hall' : reports.length - historyLimit = 0 := by omega
      rw [hall, h.recent, hall']
      rfl
  statistics := by
    rw [Statistics.ofReports, List.foldl_append, Ledger.enter, h.statistics]
    rfl

/-- **Several reports**, entered one after the other. -/
theorem Covers.record (h : l.Covers reports) (later : List Report) :
    (l.record later).Covers (reports ++ later) := by
  induction later generalizing l reports with
  | nil => rwa [List.append_nil]
  | cons r rest ih =>
    rw [List.append_cons]
    exact ih (h.enter r)

end Ledger

/-! ## Gates -/

namespace Gate

variable {σ ω : Type}

/-- The reports that an answer brings to the caller. -/
def Answer.returned : Answer → List Report
  | .report r => [r]
  | .shadowReport (.ok r) => [r]
  | .reports rs => rs
  | .host _ => []
  | .shadowReport (.error _) => []
  | .written => []

theorem ledger_evaluateAll (g : Gate σ) (fresh : Nat → ShadowId) (c : Criteria) (now : Time)
    (proposals : List Proposal) :
    (g.evaluateAll fresh c now proposals).2.ledger = g.ledger := by
  induction proposals generalizing g fresh with
  | nil => rfl
  | cons p rest ih => exact ih _ _

/-- Validating a shadow enters the report, or nothing if there is none. -/
theorem ledger_validateShadow (g : Gate σ) (id : ShadowId) (p : Proposal) (c : Criteria)
    (now : Time) :
    (g.validateShadow id p c now).2.ledger =
      g.ledger.record (Answer.shadowReport (g.validateShadow id p c now).1).returned := by
  rw [validateShadow]
  split
  · rfl
  · split
    · rfl
    · rw [conclude]
      split <;> rfl

/-- **A call enters what it returns.** -/
theorem ledger_operations (act : ω → σ → σ) (g : Gate σ) (c : Timed (Call ω)) :
    (operations act g c).2.ledger = g.ledger.record (operations act g c).1.returned := by
  obtain ⟨call, now⟩ := c
  cases call with
  | host own => rfl
  | validate id p criteria => rfl
  | validateShadow id p criteria => exact g.ledger_validateShadow id p criteria now
  | validateBatch fresh proposals criteria =>
    have hledger := g.ledger_evaluateAll fresh criteria now proposals
    exact congrArg (Ledger.record · _) hledger
  | write w => rfl

/-- The reports that a run returns, in order. -/
def returned (act : ω → σ → σ) (g : Gate σ) (calls : List (Timed (Call ω))) : List Report :=
  ((operations act).history g calls).flatMap (·.answer.returned)

/-- **A run enters what it returns.** -/
theorem covers_run (act : ω → σ → σ) {g : Gate σ} (h : g.ledger.Covers [])
    (calls : List (Timed (Call ω))) :
    ((operations act).run g calls).ledger.Covers (returned act g calls) := by
  let P (past : List (Event (Gate σ) (Timed (Call ω)) Answer)) (g : Gate σ) : Prop :=
    g.ledger.Covers (past.flatMap (·.answer.returned))
  have hstart : P [] g := h
  refine (operations act).history_invariant ?_ calls hstart
  intro past g c hpast
  simp only [P, List.flatMap_append, List.flatMap_singleton, ledger_operations]
  exact hpast.record (operations act g c).1.returned

/-- **The ledger is exact.** Over any backing store and with any rules, whatever is asked of a gate
that starts with nothing on record and whatever happens to live state meanwhile: the history is the
end of the list of all reports that were returned, as they were returned, and has as many of them as
fit; the figures are those of the whole list, and count it. What is counted is the same for the list
in any other order. -/
theorem ledger_is_exact (act : ω → σ → σ) (backing : Backing σ) (live : σ) (settings : Settings)
    (retention : Retention) (checks : CheckSet) (policies : PolicyTable)
    (calls : List (Timed (Call ω))) :
    let g := startOn backing live settings retention checks policies
    let reports := returned act g calls
    let ledger := ((operations act).run g calls).ledger
    ledger.recent <:+ reports ∧ ledger.recent.length = min 256 reports.length ∧
    ledger.statistics = .ofReports reports ∧ ledger.statistics.Counts reports ∧
    ∀ reordered : List Report, reordered.Perm reports →
      let figures := Statistics.ofReports reordered
      figures.total = ledger.statistics.total ∧
      (∀ v, figures.count v = ledger.statistics.count v) ∧
      figures.categories = ledger.statistics.categories := by
  intro g reports ledger
  have hcovers : ledger.Covers reports := covers_run act Ledger.covers_nil calls
  have hcounts : ledger.statistics.Counts reports := by
    rw [hcovers.statistics]
    exact Statistics.counts_ofReports reports
  refine ⟨?_, hcovers.length_recent, hcovers.statistics, hcounts, fun reordered hperm => ?_⟩
  · rw [hcovers.recent]
    exact List.drop_suffix _ _
  · exact hcounts.perm (Statistics.counts_ofReports reordered) hperm

end Gate

end ShadowGate
