import ShadowGate.Json.Record

/-!
# Categories and priorities

The area of the agent's state that a proposal targets, and how urgent it is. Both are written as
their tags. Categories are ordered as they are listed.
-/

namespace ShadowGate

/-- The area of persisted state that a proposal targets. -/
inductive Category where
  | memoryOrganization
  | learningStrategy
  | decisionMaking
  | ethicalFramework
  | conflictResolution
  | curiosityExploration
  | metaLearning
  | systemConfiguration
deriving DecidableEq, Repr, Inhabited

namespace Category

/-- Every category, in order. -/
def all : List Category :=
  [memoryOrganization, learningStrategy, decisionMaking, ethicalFramework, conflictResolution,
   curiosityExploration, metaLearning, systemConfiguration]

/-- The category's name, which is also the type of the changes it logs. -/
def tag : Category → String
  | memoryOrganization => "memory_organization"
  | learningStrategy => "learning_strategy"
  | decisionMaking => "decision_making"
  | ethicalFramework => "ethical_framework"
  | conflictResolution => "conflict_resolution"
  | curiosityExploration => "curiosity_exploration"
  | metaLearning => "meta_learning"
  | systemConfiguration => "system_configuration"

/-- The place of a category in the order. -/
def rank : Category → Nat
  | memoryOrganization => 0
  | learningStrategy => 1
  | decisionMaking => 2
  | ethicalFramework => 3
  | conflictResolution => 4
  | curiosityExploration => 5
  | metaLearning => 6
  | systemConfiguration => 7

instance : Ord Category := ⟨fun a b => compare a.rank b.rank⟩

theorem rank_injective {a b : Category} (h : a.rank = b.rank) : a = b := by
  cases a <;> cases b <;> simp_all [rank]

instance : Std.TransOrd Category where
  eq_swap {a b} := (Std.OrientedCmp.eq_swap : compare a.rank b.rank = (compare b.rank a.rank).swap)
  isLE_trans {a b c} hab hbc := by
    have hab' : (compare a.rank b.rank).isLE := hab
    have hbc' : (compare b.rank c.rank).isLE := hbc
    have hac : (compare a.rank c.rank).isLE := Std.TransCmp.isLE_trans hab' hbc'
    exact hac

instance : Std.LawfulEqOrd Category where
  compare_self {a} := (Std.ReflCmp.compare_self : compare a.rank a.rank = .eq)
  eq_of_compare {a b} h := by
    have h' : compare a.rank b.rank = .eq := h
    exact rank_injective (Std.LawfulEqCmp.eq_of_compare h')

/-- A category as a value. -/
def toJson (c : Category) : Json := .str c.tag

/-- The category that a value names. -/
def ofJson? : Json → Option Category := Json.oneOf all tag

end Category

/-- How urgent a proposal is. -/
inductive Priority where
  | low
  | medium
  | high
  | critical
deriving DecidableEq, Repr

namespace Priority

/-- Medium, unless a proposal says otherwise. -/
instance : Inhabited Priority := ⟨medium⟩

/-- Every priority, in order. -/
def all : List Priority := [low, medium, high, critical]

/-- The priority's name. -/
def tag : Priority → String
  | low => "low"
  | medium => "medium"
  | high => "high"
  | critical => "critical"

/-- A priority as a value. -/
def toJson (p : Priority) : Json := .str p.tag

/-- The priority that a value names. -/
def ofJson? : Json → Option Priority := Json.oneOf all tag

end Priority

end ShadowGate
