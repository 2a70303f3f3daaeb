import ShadowGate.CommandLine

/-!
# Arguments

What the arguments of a run say, told without the reader that goes through them. An option that takes
a value takes the argument after it, whatever that is; so every argument is a value or a head, and a
head is an option, a call for help, or unknown.

* `Options.heads`, `Options.placed` — the heads, and the heads with their values.
* `Options.Stops` — **a head at which the reading ends**; `Options.Interrupts` is about the first of
  them.
* `Options.Follow` — **what options have from heads**: the value given last, or what they had before.
  `Options.Follow.trans` goes from one head to many.
* `Options.parse_eq_ok_iff`, `Options.parse_eq_error_iff` — **the reader does what the arguments
  say**, whether or not it comes to their end.
-/

namespace ShadowGate.Options

/-! ## Heads -/

/-- Whether an option takes a value. -/
def takesValue (argument : String) : Bool := argument ∈ ["--store", "--proposal", "--level"]

/-- An argument at which an option stands, and the value that it takes. -/
abbrev Head := String × Option String

/-- The heads with their values. An option at the end lacks the value that it would take. -/
def placed : List String → List Head
  | [] => []
  | [argument] => [(argument, none)]
  | argument :: value :: rest =>
    if takesValue argument then (argument, some value) :: placed rest
    else (argument, none) :: placed (value :: rest)

theorem placed_cons {argument : String} (h : takesValue argument = false) (rest : List String) :
    placed (argument :: rest) = (argument, none) :: placed rest := by
  cases rest with
  | nil => rfl
  | cons value rest => simp [placed, h]

/-! ## What stops the reading -/

/-- The options. -/
def known : List String := ["--store", "--proposal", "--level", "--merge"]

/-- **A head at which the reading ends**, and why. -/
inductive Stops : Head → Interruption → Prop where
  /-- help is asked for -/
  | help {argument : String} (h : argument ∈ ["--help", "-h"]) : Stops (argument, none) .help
  /-- it means nothing -/
  | unknown {argument : String} (h : argument ∉ known ++ ["--help", "-h"]) :
    Stops (argument, none) (.unknownArgument argument)
  /-- it asks for a level that does not exist -/
  | level {text : String} {why : Level.Unknown} (h : Level.ofText text = .error why) :
    Stops ("--level", some text) (.unknownLevel why)

/-- **The first head at which the reading ends**, and why. -/
def Interrupts (placed : List Head) (why : Interruption) : Prop :=
  ∃ before head after, placed = before ++ head :: after ∧
    (∀ earlier ∈ before, ∀ why, ¬ Stops earlier why) ∧ Stops head why

/-- A head ends the reading for one reason only. -/
theorem Stops.unique {head : Head} {why why' : Interruption} (h : Stops head why)
    (h' : Stops head why') : why = why' := by
  cases h with
  | help hhelp =>
    cases h' with
    | help => rfl
    | unknown hunknown => exact absurd (List.mem_append_right _ hhelp) hunknown
  | unknown hunknown =>
    cases h' with
    | help hhelp => exact absurd (List.mem_append_right _ hhelp) hunknown
    | unknown => rfl
  | level herror =>
    cases h' with
    | level herror' => rw [Except.error.inj (herror.symm.trans herror')]

/-- The first head ends the reading, or it does not and the rest is read. -/
theorem interrupts_cons_iff {head : Head} {rest : List Head} {why : Interruption} :
    Interrupts (head :: rest) why ↔
      Stops head why ∨ (∀ why, ¬ Stops head why) ∧ Interrupts rest why := by
  constructor
  · rintro ⟨before, stop, after, heq, hbefore, hstop⟩
    cases before with
    | nil =>
      obtain ⟨rfl, -⟩ := List.cons.inj heq
      exact .inl hstop
    | cons first before =>
      obtain ⟨rfl, rfl⟩ := List.cons.inj heq
      rw [List.forall_mem_cons] at hbefore
      exact .inr ⟨hbefore.1, before, stop, after, rfl, hbefore.2, hstop⟩
  · rintro (hstop | ⟨hgoes, before, stop, after, rfl, hbefore, hstop⟩)
    · exact ⟨[], head, rest, rfl, nofun, hstop⟩
    · exact ⟨head :: before, stop, after, rfl, List.forall_mem_cons.mpr ⟨hgoes, hbefore⟩, hstop⟩

/-- **Heads are interrupted for one reason only.** -/
theorem Interrupts.unique {placed : List Head} {why why' : Interruption}
    (h : Interrupts placed why) (h' : Interrupts placed why') : why = why' := by
  induction placed with
  | nil =>
    obtain ⟨before, stop, after, heq, -⟩ := h
    simp at heq
  | cons head rest ih =>
    rcases interrupts_cons_iff.mp h with hstop | ⟨hgoes, hrest⟩ <;>
      rcases interrupts_cons_iff.mp h' with hstop' | ⟨hgoes', hrest'⟩
    · exact hstop.unique hstop'
    · exact absurd hstop (hgoes' why)
    · exact absurd hstop' (hgoes why')
    · exact ih hrest hrest'

/-- At an option the reading goes on, unless it asks for a level that does not exist. -/
theorem not_stops_of_known {argument : String} {value : Option String} (h : argument ∈ known)
    (hlevel : argument = "--level" → ∀ text, value = some text →
      ∃ level, Level.ofText text = .ok level) (why : Interruption) :
    ¬ Stops (argument, value) why := by
  intro hstops
  cases hstops with
  | help hhelp =>
    have hboth : ∀ argument ∈ known, argument ∉ ["--help", "-h"] := by decide
    exact hboth argument h hhelp
  | unknown hunknown => exact hunknown (List.mem_append_left _ h)
  | level herror =>
    obtain ⟨level, hok⟩ := hlevel rfl _ rfl
    rw [herror] at hok
    cases hok

/-! ## What options have from heads -/

/-- What is read off the last head off which something can be read. -/
def last {α : Type} (reads : Head → Option α) (placed : List Head) : Option α :=
  (placed.filterMap reads).getLast?

@[simp] theorem last_singleton {α : Type} (reads : Head → Option α) (head : Head) :
    last reads [head] = reads head := by
  cases h : reads head <;> simp [last, h]

theorem last_append {α : Type} (reads : Head → Option α) (xs ys : List Head) :
    last reads (xs ++ ys) = (last reads ys).or (last reads xs) := by
  rw [last, List.filterMap_append, List.getLast?_append]
  rfl

/-- The value that an option takes, if it has one. -/
def value (option : String) (head : Head) : Option String :=
  if head.1 = option then head.2 else none

/-- The value that an option takes, or that it lacks one. -/
def given (option : String) (head : Head) : Option (Option String) :=
  if head.1 = option then some head.2 else none

/-- **What options have from heads**, starting from others. What is not given stays as it was, and so
do store and level where the value is lacking; but a proposal whose file is lacking takes back an
earlier one. -/
structure Follow (o : Options) (placed : List Head) (o' : Options) : Prop where
  /-- no head ends the reading -/
  goes : ∀ head ∈ placed, ∀ why, ¬ Stops head why
  /-- the store is the one given last -/
  store : o'.store = (last (value "--store") placed).getD o.store
  /-- so is the file of the proposal -/
  proposal : o'.proposal = (last (given "--proposal") placed).getD o.proposal
  /-- and so is the level -/
  level : ∀ text, last (value "--level") placed = some text → Level.ofText text = .ok o'.level
  /-- which stays if none is given -/
  sameLevel : last (value "--level") placed = none → o'.level = o.level
  /-- a merge is asked for if its option stands somewhere -/
  merge : o'.merge = true ↔ o.merge = true ∨ "--merge" ∈ placed.map (·.1)

namespace Follow

variable {o o₁ o₂ : Options} {xs ys : List Head}

/-- **One list of heads after the other.** -/
theorem trans (h₁ : Follow o xs o₁) (h₂ : Follow o₁ ys o₂) : Follow o (xs ++ ys) o₂ where
  goes head hhead := (List.mem_append.mp hhead).elim (h₁.goes head) (h₂.goes head)
  store := by
    rw [h₂.store, h₁.store, last_append]
    cases last (value "--store") ys <;> rfl
  proposal := by
    rw [h₂.proposal, h₁.proposal, last_append]
    cases last (given "--proposal") ys <;> rfl
  level text htext := by
    rw [last_append] at htext
    cases hlast : last (value "--level") ys with
    | some text' =>
      obtain rfl : text' = text := by simpa [hlast] using htext
      exact h₂.level text' hlast
    | none =>
      rw [h₂.sameLevel hlast]
      exact h₁.level text (by simpa [hlast] using htext)
  sameLevel hnone := by
    rw [last_append, Option.or_eq_none_iff] at hnone
    rw [h₂.sameLevel hnone.1, h₁.sameLevel hnone.2]
  merge := by
    rw [h₂.merge, h₁.merge, List.map_append, List.mem_append, or_assoc]

/-- What is followed is not interrupted. -/
theorem not_interrupts (h : Follow o xs o₁) (why : Interruption) : ¬ Interrupts xs why := by
  rintro ⟨before, head, after, rfl, -, hstop⟩
  exact h.goes head (by simp) why hstop

/-- Heads leave nothing open. -/
theorem unique (h₁ : Follow o xs o₁) (h₂ : Follow o xs o₂) : o₁ = o₂ := by
  have hlevel : o₁.level = o₂.level := by
    cases hlast : last (value "--level") xs with
    | some text => exact Except.ok.inj ((h₁.level text hlast).symm.trans (h₂.level text hlast))
    | none => rw [h₁.sameLevel hlast, h₂.sameLevel hlast]
  have hmerge : o₁.merge = o₂.merge := Bool.eq_iff_iff.mpr (h₁.merge.trans h₂.merge.symm)
  have hstore := h₁.store.trans h₂.store.symm
  have hproposal := h₁.proposal.trans h₂.proposal.symm
  cases o₁
  cases o₂
  rw [mk.injEq]
  exact ⟨hstore, hproposal, hlevel, hmerge⟩

end Follow

/-! ## The reader -/

section Reader

variable {o o' : Options} {arguments : List String} {why : Interruption}

/-- Without heads everything stays. -/
theorem follow_nil (o : Options) : Follow o [] o := by
  constructor <;> simp [last]

theorem follow_store (o : Options) (path : Option String) :
    Follow o [("--store", path)] { o with store := path.getD o.store } := by
  have hgoes : ∀ why, ¬ Stops ("--store", path) why :=
    not_stops_of_known (by decide) fun h => absurd h (by decide)
  constructor <;> simp [value, given, hgoes]

theorem follow_proposal (o : Options) (path : Option String) :
    Follow o [("--proposal", path)] { o with proposal := path } := by
  have hgoes : ∀ why, ¬ Stops ("--proposal", path) why :=
    not_stops_of_known (by decide) fun h => absurd h (by decide)
  constructor <;> simp [value, given, hgoes]

theorem follow_level (o : Options) {text : String} {level : Level}
    (h : Level.ofText text = .ok level) : Follow o [("--level", some text)] { o with level } := by
  have hgoes : ∀ why, ¬ Stops ("--level", some text) why :=
    not_stops_of_known (by decide) fun _ text' htext => ⟨level, Option.some.inj htext ▸ h⟩
  constructor <;> simp [value, given, hgoes, h]

theorem follow_noLevel (o : Options) : Follow o [("--level", none)] o := by
  have hgoes : ∀ why, ¬ Stops ("--level", none) why :=
    not_stops_of_known (by decide) fun _ _ => nofun
  constructor <;> simp [value, given, hgoes]

theorem follow_merge (o : Options) : Follow o [("--merge", none)] { o with merge := true } := by
  have hgoes : ∀ why, ¬ Stops ("--merge", none) why :=
    not_stops_of_known (by decide) fun _ _ => nofun
  constructor <;> simp [value, given, hgoes]

/-- **Arguments that are read to their end** are followed. -/
theorem follow_of_parse (h : o.parse arguments = .ok o') : Follow o (placed arguments) o' := by
  fun_induction Options.parse o arguments with
  | case1 o =>
    obtain rfl := Except.ok.inj h
    exact follow_nil o
  | case2 o =>
    obtain rfl := Except.ok.inj h
    exact follow_store o none
  | case3 o path rest ih => exact (follow_store o (some path)).trans (ih h)
  | case4 o =>
    obtain rfl := Except.ok.inj h
    exact follow_proposal o none
  | case5 o path rest ih => exact (follow_proposal o (some path)).trans (ih h)
  | case6 o =>
    obtain rfl := Except.ok.inj h
    exact follow_noLevel o
  | case7 o text rest level hlevel ih => exact (follow_level o hlevel).trans (ih h)
  | case9 o rest ih =>
    rw [placed_cons rfl]
    exact (follow_merge o).trans (ih h)
  | case8 | case10 | case11 | case12 => cases h

/-- An option that is followed leaves the reading to the rest. -/
theorem Interrupts.cons {head : Head} {rest : List Head} (hfirst : Follow o [head] o')
    (h : Interrupts rest why) : Interrupts (head :: rest) why :=
  interrupts_cons_iff.mpr (.inr ⟨hfirst.goes head (List.mem_singleton_self head), h⟩)

/-- **Arguments that are not read to their end** are interrupted. -/
theorem interrupts_of_parse (h : o.parse arguments = .error why) :
    Interrupts (placed arguments) why := by
  fun_induction Options.parse o arguments with
  | case1 | case2 | case4 | case6 => cases h
  | case3 o path rest ih => exact (ih h).cons (follow_store o (some path))
  | case5 o path rest ih => exact (ih h).cons (follow_proposal o (some path))
  | case7 o text rest level hlevel ih => exact (ih h).cons (follow_level o hlevel)
  | case8 o text rest why' hlevel =>
    obtain rfl := Except.error.inj h
    exact interrupts_cons_iff.mpr (.inl (.level hlevel))
  | case9 o rest ih =>
    rw [placed_cons rfl]
    exact (ih h).cons (follow_merge o)
  | case10 o rest | case11 o rest =>
    obtain rfl := Except.error.inj h
    rw [placed_cons rfl]
    exact interrupts_cons_iff.mpr (.inl (.help (by decide)))
  | case12 o argument rest =>
    -- no earlier case applies, whether or not another argument follows
    have hunknown : argument ∉ known ++ ["--help", "-h"] := by
      cases rest <;> simp_all [known]
    have htakes : takesValue argument = false := by
      simp_all [takesValue, known]
    obtain rfl := Except.error.inj h
    rw [placed_cons htakes]
    exact interrupts_cons_iff.mpr (.inl (.unknown hunknown))

/-- **Options are read from arguments** exactly if they follow the heads. -/
theorem parse_eq_ok_iff : o.parse arguments = .ok o' ↔ Follow o (placed arguments) o' := by
  refine ⟨follow_of_parse, fun hfollow => ?_⟩
  cases hparse : o.parse arguments with
  | ok o'' => rw [(follow_of_parse hparse).unique hfollow]
  | error why => exact absurd (interrupts_of_parse hparse) (hfollow.not_interrupts why)

/-- **An interruption is answered** exactly if the heads are interrupted so. -/
theorem parse_eq_error_iff :
    o.parse arguments = .error why ↔ Interrupts (placed arguments) why := by
  refine ⟨interrupts_of_parse, fun hinterrupts => ?_⟩
  cases hparse : o.parse arguments with
  | ok o' => exact absurd hinterrupts ((follow_of_parse hparse).not_interrupts why)
  | error why' => rw [(interrupts_of_parse hparse).unique hinterrupts]

end Reader

end ShadowGate.Options
