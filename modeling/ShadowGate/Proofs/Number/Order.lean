import Mathlib.Data.Int.CharZero
import Mathlib.Data.Prod.Lex
import Mathlib.Order.Compare
import ShadowGate.Score

/-!
# The order of doubles

Comparisons of doubles are a total order, except for undefined values, which compare with nothing,
and for the two zeros, which are equal. `Number.rank` makes that usable: it sends a double to a
place in a linear order, so that an argument about scores becomes one about places.

* `Number.lt_iff_rank_lt`, `Number.le_iff_rank_le`, `Number.beq_iff_rank_eq` — **comparing defined
  doubles is comparing their ranks**.
* `Number.isNaN_of_lt`, `Number.isNaN_of_le` — an undefined double is below nothing, and nothing is
  below it; `Number.not_lt_iff` is what is left of a total order.
* `Score.isNaN_unit` — a score that was cut to the unit interval is defined.
-/

namespace ShadowGate

namespace Number

open Float.Model (UnpackedFloat)
open Float.Model.UnpackedFloat (Sign)

/-- Where a double lies: by its sign and whether it is finite, then by exponent and mantissa, both
of which count down below zero. -/
def place : UnpackedFloat → ℤ ×ₗ ℤ ×ₗ ℤ
  | .infinity s => toLex (s.apply 2, toLex (0, 0))
  | .finite s mantissa exponent _ => toLex (s.apply 1, toLex (s.apply exponent, s.apply mantissa))
  | .zero _ => toLex (0, toLex (0, 0))
  | .notANumber => toLex (0, toLex (0, 0))

/-- The place of a double in the order. -/
def rank (x : Float) : ℤ ×ₗ ℤ ×ₗ ℤ := place x.toModel.unpack

theorem compare_sign (s t : Sign) : compare s t = compare (s.apply 2) (t.apply 2) := by
  cases s <;> cases t <;> rfl

variable {u v : UnpackedFloat} {x y z : Float}

theorem unpack_ne_of_isNaN (hx : x.isNaN = false) : x.toModel.unpack ≠ .notANumber := by
  intro hu
  have hdefined : x.toModel.unpack.isNaN = false := hx
  rw [hu] at hdefined
  cases hdefined

theorem isNaN_of_unpack_ne (hx : x.toModel.unpack ≠ .notANumber) : x.isNaN = false := by
  change x.toModel.unpack.isNaN = false
  cases hu : x.toModel.unpack with
  | notANumber => exact absurd hu hx
  | _ => rfl

/-- A finite double is defined. -/
theorem isNaN_of_isFinite (hx : x.isFinite = true) : x.isNaN = false := by
  refine isNaN_of_unpack_ne fun hu => ?_
  have hfinite : x.toModel.unpack.isFinite = true := hx
  rw [hu] at hfinite
  cases hfinite

/-- An undefined value compares with nothing. -/
theorem ne_notANumber_of_compare (h : (u.compare v).isSome = true) :
    u ≠ .notANumber ∧ v ≠ .notANumber := by
  constructor
  · rintro rfl
    cases v <;> cases h
  · rintro rfl
    cases u <;> cases h

theorem compare_eq_lt_iff (hu : u ≠ .notANumber) (hv : v ≠ .notANumber) :
    u.compare v = some .lt ↔ place u < place v := by
  rcases u with (_ | _) | _ | s | ⟨_ | _, m, e, _⟩ <;>
    rcases v with (_ | _) | _ | t | ⟨_ | _, m', e', _⟩ <;> try contradiction
  -- exponent and mantissa are looked at only for two finite doubles of one sign
  all_goals dsimp only [UnpackedFloat.compare, place, Sign.apply]
  all_goals simp [compare_sign, Sign.apply, Prod.Lex.toLex_lt_toLex, Ordering.then_eq_lt,
    Ordering.then_eq_gt, compare_lt_iff_lt, compare_gt_iff_gt]

theorem compare_eq_eq_iff (hu : u ≠ .notANumber) (hv : v ≠ .notANumber) :
    u.compare v = some .eq ↔ place u = place v := by
  rcases u with (_ | _) | _ | s | ⟨_ | _, m, e, _⟩ <;>
    rcases v with (_ | _) | _ | t | ⟨_ | _, m', e', _⟩ <;> try contradiction
  all_goals dsimp only [UnpackedFloat.compare, place, Sign.apply]
  all_goals simp [compare_sign, Sign.apply]

/-- Doubles of which one is below the other are both defined. -/
theorem isNaN_of_lt (h : x < y) : x.isNaN = false ∧ y.isNaN = false := by
  have hcompare : (x.toModel.unpack.compare y.toModel.unpack == some .lt) = true :=
    of_decide_eq_true h
  obtain ⟨hx, hy⟩ := ne_notANumber_of_compare
    (Option.isSome_of_mem (Option.mem_def.mpr (beq_iff_eq.mp hcompare)))
  exact ⟨isNaN_of_unpack_ne hx, isNaN_of_unpack_ne hy⟩

/-- Doubles of which one is at most the other are both defined. -/
theorem isNaN_of_le (h : x ≤ y) : x.isNaN = false ∧ y.isNaN = false := by
  have hcompare : (x.toModel.unpack.compare y.toModel.unpack).any (·.isLE) = true :=
    of_decide_eq_true h
  obtain ⟨o, ho, _⟩ := Option.any_eq_true _ _ |>.mp hcompare
  obtain ⟨hx, hy⟩ := ne_notANumber_of_compare (Option.isSome_of_mem (Option.mem_def.mpr ho))
  exact ⟨isNaN_of_unpack_ne hx, isNaN_of_unpack_ne hy⟩

/-- **One defined double is below another** exactly if its rank is. -/
theorem lt_iff_rank_lt (hx : x.isNaN = false) (hy : y.isNaN = false) :
    x < y ↔ rank x < rank y := by
  have hlt : x < y ↔ (x.toModel.unpack.compare y.toModel.unpack == some .lt) = true :=
    decide_eq_true_iff
  rw [hlt, beq_iff_eq]
  exact compare_eq_lt_iff (unpack_ne_of_isNaN hx) (unpack_ne_of_isNaN hy)

/-- **Defined doubles are equal** exactly if their ranks are; so a zero is equal to the other
zero. -/
theorem beq_iff_rank_eq (hx : x.isNaN = false) (hy : y.isNaN = false) :
    (x == y) = true ↔ rank x = rank y := by
  have hbeq : (x == y) = (x.toModel.unpack.compare y.toModel.unpack == some .eq) := rfl
  rw [hbeq, beq_iff_eq]
  exact compare_eq_eq_iff (unpack_ne_of_isNaN hx) (unpack_ne_of_isNaN hy)

/-- **One defined double is at most another** exactly if its rank is. -/
theorem le_iff_rank_le (hx : x.isNaN = false) (hy : y.isNaN = false) :
    x ≤ y ↔ rank x ≤ rank y := by
  have hle : x ≤ y ↔ (x.toModel.unpack.compare y.toModel.unpack).any (·.isLE) = true :=
    decide_eq_true_iff
  have hordered : ∀ o : Option Ordering,
      o.any (·.isLE) = true ↔ o = some .lt ∨ o = some .eq := by
    rintro (_ | _ | _ | _) <;> simp
  rw [hle, hordered, compare_eq_lt_iff (unpack_ne_of_isNaN hx) (unpack_ne_of_isNaN hy),
    compare_eq_eq_iff (unpack_ne_of_isNaN hx) (unpack_ne_of_isNaN hy), le_iff_lt_or_eq]
  rfl

/-- **One double is not below another** exactly if the other is at most it, should both be
defined. -/
theorem not_lt_iff : ¬ x < y ↔ (x.isNaN = false → y.isNaN = false → y ≤ x) := by
  constructor
  · intro hlt hx hy
    rw [lt_iff_rank_lt hx hy, not_lt] at hlt
    exact (le_iff_rank_le hy hx).mpr hlt
  · intro hle hlt
    obtain ⟨hx, hy⟩ := isNaN_of_lt hlt
    have hyx := hle hx hy
    rw [lt_iff_rank_lt hx hy] at hlt
    rw [le_iff_rank_le hy hx] at hyx
    exact absurd hlt (not_lt.mpr hyx)

theorem le_self (hx : x.isNaN = false) : x ≤ x := (le_iff_rank_le hx hx).mpr le_rfl

theorem le_le_trans (hxy : x ≤ y) (hyz : y ≤ z) : x ≤ z := by
  obtain ⟨hx, hy⟩ := isNaN_of_le hxy
  obtain ⟨_, hz⟩ := isNaN_of_le hyz
  rw [le_iff_rank_le hx hy] at hxy
  rw [le_iff_rank_le hy hz] at hyz
  exact (le_iff_rank_le hx hz).mpr (hxy.trans hyz)

theorem lt_le_trans (hxy : x < y) (hyz : y ≤ z) : x < z := by
  obtain ⟨hx, hy⟩ := isNaN_of_lt hxy
  obtain ⟨_, hz⟩ := isNaN_of_le hyz
  rw [lt_iff_rank_lt hx hy] at hxy
  rw [le_iff_rank_le hy hz] at hyz
  exact (lt_iff_rank_lt hx hz).mpr (hxy.trans_le hyz)

theorem le_lt_trans (hxy : x ≤ y) (hyz : y < z) : x < z := by
  obtain ⟨hx, hy⟩ := isNaN_of_le hxy
  obtain ⟨_, hz⟩ := isNaN_of_lt hyz
  rw [le_iff_rank_le hx hy] at hxy
  rw [lt_iff_rank_lt hy hz] at hyz
  exact (lt_iff_rank_lt hx hz).mpr (hxy.trans_lt hyz)

end Number

/-- **A score in the unit interval is defined.** -/
theorem Score.isNaN_unit (x : Float) : (Score.unit x).isNaN = false := by
  unfold Score.unit Number.clamp
  split
  · decide
  · rename_i hx
    split
    · decide
    · split
      · decide
      · simpa using hx

end ShadowGate
