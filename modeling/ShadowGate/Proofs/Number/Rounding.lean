import Mathlib.Data.Nat.Log
import Mathlib.Tactic.Ring
import ShadowGate.Number.Double

/-!
# Rounding to a double

Every finite double is a whole multiple of the least positive one, `2 ^ (-1074)`, and so are sums and
differences of finite doubles. In units of it the exact results of arithmetic are integers, and
rounding is a function from integers to integers.

* `Number.roundTo` — **a natural number in multiples of a power of two**, to the nearest, as the
  model of doubles computes it: bit by bit, with a round bit and a sticky bit. All that is needed of
  it is that it stays within half a multiple (`Number.roundTo_le`, `Number.le_roundTo`); that it is
  monotone follows.
* `Number.rounded` — an integer, rounded to 53 significant bits. It is monotone
  (`Number.rounded_mono`) and fixes what a double can hold (`Number.Canonical.roundedNat_eq`).
* `Number.units` — a value as an integer, and `Number.settled_normalize` — **what the model makes of an
  integer and an exponent is a canonical form of the rounded number**.
-/

namespace ShadowGate.Number

open Float.Model
open Float.Model.UnpackedFloat

/-! ## Multiples of a power of two -/

/-- A number of which nothing has been dropped yet. -/
def whole (n : ℕ) : ExtendedMantissa := ⟨n, false, false⟩

/-- `n` in multiples of `2 ^ t`, to the nearest. -/
def roundTo (n t : ℕ) : ℕ := (whole n >>> t).roundedMantissa

theorem shift_zero (em : ExtendedMantissa) : em >>> 0 = em := rfl

theorem shift_succ (em : ExtendedMantissa) (t : ℕ) : em >>> (t + 1) = (em >>> t).shiftRightOne := rfl

theorem shift_add (em : ExtendedMantissa) (s t : ℕ) : em >>> (s + t) = (em >>> s) >>> t := by
  induction t with
  | zero => rfl
  | succ t ih => rw [← Nat.add_assoc, shift_succ, shift_succ, ih]

/-- Bits that are zero leave no trace when they are dropped. -/
theorem shift_mul_two_pow (n t : ℕ) :
    whole (n * 2 ^ t) >>> t = whole n := by
  induction t generalizing n with
  | zero => rw [pow_zero, Nat.mul_one, shift_zero]
  | succ t ih =>
    rw [shift_succ, pow_succ, Nat.mul_comm (2 ^ t), ← Nat.mul_assoc, ih (n * 2)]
    simp [whole, ExtendedMantissa.shiftRightOne]

/-- **What the residual bits hold**: the round bit is the next bit of the number, and the sticky bit
says whether anything is left after it. -/
theorem shift_spec (n t : ℕ) :
    2 * (whole n >>> t).mantissa + (whole n >>> t).roundBit.toNat = 2 * n / 2 ^ t ∧
      ((whole n >>> t).stickyBit = true ↔ 2 * n % 2 ^ t ≠ 0) := by
  induction t with
  | zero => simp [shift_zero, whole, Nat.mod_one]
  | succ t ih =>
    obtain ⟨hbits, hsticky⟩ := ih
    rw [shift_succ]
    generalize whole n >>> t = em at hbits hsticky ⊢
    obtain ⟨m, round, sticky⟩ := em
    simp only at hbits hsticky
    have hm : m = 2 * n / 2 ^ (t + 1) := by
      rw [pow_succ, ← Nat.div_div_eq_div_mul, ← hbits]
      cases round
      · simp
      · simp only [Bool.toNat_true]
        omega
    have hround : 2 * n % 2 ^ (t + 1) = 2 * n % 2 ^ t + 2 ^ t * round.toNat := by
      rw [pow_succ, Nat.mod_mul, ← hbits]
      cases round <;> simp
    simp only [ExtendedMantissa.shiftRightOne]
    refine ⟨?_, ?_⟩
    · rw [← hm]
      rcases Nat.mod_two_eq_zero_or_one m with h | h <;> simp [h] <;> omega
    · rw [hround, Bool.or_eq_true, hsticky]
      cases round <;> simp

/-- Rounding drops the residual bits, or goes up to the next multiple; the round bit is set if it
goes up and not set if nothing but the sticky bit is dropped. -/
theorem roundedMantissa_cases (em : ExtendedMantissa) :
    em.roundedMantissa = em.mantissa ∧ (em.roundBit = true → em.stickyBit = false) ∨
      em.roundedMantissa = em.mantissa + 1 ∧ em.roundBit = true := by
  obtain ⟨m, _ | _, _ | _⟩ := em
  · exact .inl ⟨rfl, nofun⟩
  · exact .inl ⟨rfl, nofun⟩
  · have heven : (ExtendedMantissa.mk m true false).roundedMantissa = m + m % 2 := rfl
    rcases Nat.mod_two_eq_zero_or_one m with h | h
    · exact .inl ⟨by rw [heven, h]; rfl, fun _ => rfl⟩
    · exact .inr ⟨by rw [heven, h], rfl⟩
  · exact .inr ⟨rfl, rfl⟩

/-- **Rounding stays within half a multiple.** -/
theorem roundTo_spec (n t : ℕ) :
    2 * (roundTo n t * 2 ^ t) ≤ 2 * n + 2 ^ t ∧ 2 * n ≤ 2 * (roundTo n t * 2 ^ t) + 2 ^ t := by
  obtain ⟨hbits, hsticky⟩ := shift_spec n t
  rw [roundTo]
  generalize whole n >>> t = em at hbits hsticky ⊢
  have hdiv : 2 * (em.mantissa * 2 ^ t) + em.roundBit.toNat * 2 ^ t + 2 * n % 2 ^ t = 2 * n := by
    rw [← Nat.mul_assoc, ← Nat.add_mul, hbits]
    exact Nat.div_add_mod' _ _
  have hmod := Nat.mod_lt (2 * n) (Nat.two_pow_pos t)
  rcases roundedMantissa_cases em with ⟨heq, hround⟩ | ⟨heq, hround⟩
  · rw [heq]
    cases hbit : em.roundBit with
    | false =>
      rw [hbit, Bool.toNat_false] at hdiv
      omega
    | true =>
      -- nothing is left after the round bit, so the number lies halfway
      have hrest : 2 * n % 2 ^ t = 0 := by
        by_contra hne
        rw [hround hbit] at hsticky
        exact Bool.false_ne_true (hsticky.mpr hne)
      rw [hbit, Bool.toNat_true] at hdiv
      omega
  · rw [heq, Nat.add_mul]
    rw [hround, Bool.toNat_true] at hdiv
    omega

/-- Zero bits at the end of a number are the same as so many fewer bits to drop. -/
theorem roundTo_mul_two_pow (n s t : ℕ) : roundTo (n * 2 ^ t) (t + s) = roundTo n s := by
  rw [roundTo, shift_add, shift_mul_two_pow, roundTo]

/-- Whole multiples stay. -/
theorem roundTo_multiple (n t : ℕ) : roundTo (n * 2 ^ t) t = n := roundTo_mul_two_pow n 0 t

/-- **Rounding is monotone.** -/
theorem roundTo_mono {n n' : ℕ} (h : n ≤ n') (t : ℕ) : roundTo n t ≤ roundTo n' t := by
  rcases Nat.eq_or_lt_of_le h with rfl | hlt
  · exact le_rfl
  by_contra hgt
  -- results in the wrong order are a multiple apart, and the numbers less than that
  have hnext : (roundTo n' t + 1) * 2 ^ t ≤ roundTo n t * 2 ^ t :=
    Nat.mul_le_mul_right _ (by omega)
  have hup := (roundTo_spec n t).1
  have hdown := (roundTo_spec n' t).2
  rw [Nat.add_mul] at hnext
  omega

theorem roundTo_le {n q t : ℕ} (h : n ≤ q * 2 ^ t) : roundTo n t ≤ q :=
  (roundTo_mono h t).trans (roundTo_multiple q t).le

theorem le_roundTo {n q t : ℕ} (h : q * 2 ^ t ≤ n) : q ≤ roundTo n t :=
  (roundTo_multiple q t).ge.trans (roundTo_mono h t)

/-! ## Integers, rounded to 53 bits -/

/-- How many bits of a number are too many. -/
def excess (n : ℕ) : ℕ := n.log2 - 52

theorem excess_mono {n n' : ℕ} (h : n ≤ n') : excess n ≤ excess n' := by
  rw [excess, excess, Nat.log2_eq_log_two, Nat.log2_eq_log_two]
  exact Nat.sub_le_sub_right (Nat.log_mono_right h) 52

/-- The bits that are kept are 53 at most. -/
theorem lt_two_pow_excess (n : ℕ) : n < 2 ^ 53 * 2 ^ excess n := by
  rw [← pow_add]
  refine Nat.lt_log2_self.trans_le (Nat.pow_le_pow_right (by decide) ?_)
  rw [excess]
  omega

/-- If there are bits too many, then 53 are kept. -/
theorem two_pow_excess_le {n : ℕ} (h : 0 < excess n) : 2 ^ 52 * 2 ^ excess n ≤ n := by
  have hlog : 52 + excess n = n.log2 := by
    rw [excess] at h ⊢
    omega
  rw [← pow_add, hlog]
  refine Nat.log2_self_le ?_
  rintro rfl
  simp [excess] at h

/-- A natural number, rounded to 53 bits. -/
def roundedNat (n : ℕ) : ℕ := roundTo n (excess n) * 2 ^ excess n

theorem roundedNat_mono {n n' : ℕ} (h : n ≤ n') : roundedNat n ≤ roundedNat n' := by
  rw [roundedNat, roundedNat]
  rcases Nat.eq_or_lt_of_le (excess_mono h) with heq | hlt
  · rw [heq]
    exact Nat.mul_le_mul_right _ (roundTo_mono h _)
  · -- a number with more bits is rounded to a power of two, at least, that the other cannot pass
    calc roundTo n (excess n) * 2 ^ excess n
        ≤ 2 ^ 53 * 2 ^ excess n := Nat.mul_le_mul_right _ (roundTo_le (lt_two_pow_excess n).le)
      _ = 2 ^ 52 * 2 ^ (excess n + 1) := by rw [pow_succ]; ring
      _ ≤ 2 ^ 52 * 2 ^ excess n' := Nat.mul_le_mul_left _ (Nat.pow_le_pow_right (by decide) hlt)
      _ ≤ roundTo n' (excess n') * 2 ^ excess n' :=
        Nat.mul_le_mul_right _ (le_roundTo (two_pow_excess_le (by omega)))

/-- **An integer, rounded to 53 bits.** -/
def rounded : ℤ → ℤ
  | .ofNat n => roundedNat n
  | .negSucc n => -roundedNat (n + 1)

theorem rounded_natCast (n : ℕ) : rounded n = roundedNat n := rfl

theorem rounded_neg_natCast (n : ℕ) : rounded (-n) = -roundedNat n := by
  cases n with
  | zero => rfl
  | succ n => rfl

/-- **Rounding is monotone.** -/
theorem rounded_mono {z z' : ℤ} (h : z ≤ z') : rounded z ≤ rounded z' := by
  obtain ⟨n, rfl | rfl⟩ := z.eq_nat_or_neg <;> obtain ⟨n', rfl | rfl⟩ := z'.eq_nat_or_neg
  · simp only [rounded_natCast, Int.ofNat_le] at h ⊢
    exact roundedNat_mono h
  · -- both are zero
    obtain ⟨rfl, rfl⟩ : n = 0 ∧ n' = 0 := by omega
    exact le_rfl
  · rw [rounded_neg_natCast, rounded_natCast]
    omega
  · rw [rounded_neg_natCast, rounded_neg_natCast]
    have hle : roundedNat n' ≤ roundedNat n := roundedNat_mono (by omega)
    omega

/-! ## Canonical forms -/

/-- **A mantissa and an exponent that a double can hold**, the exponent counted from the least one:
at most 53 bits, and as many of them as the exponent is above the least. -/
structure Canonical (m t : ℕ) : Prop where
  /-- the mantissa has at most 53 bits -/
  lt : m < 2 ^ 53
  /-- and no fewer unless the exponent is the least -/
  full : 0 < t → 2 ^ 52 ≤ m

theorem Canonical.log2_eq {m t : ℕ} (h : Canonical m t) (ht : 0 < t) : m.log2 = 52 := by
  have hfull := h.full ht
  have hne : m ≠ 0 := by
    rintro rfl
    simp at hfull
  refine le_antisymm ?_ ((Nat.le_log2 hne).mpr hfull)
  have hlog : m.log2 < 53 := (Nat.log2_lt hne).mpr h.lt
  omega

theorem log2_mul_two_pow {n : ℕ} (hn : n ≠ 0) (t : ℕ) : (n * 2 ^ t).log2 = n.log2 + t := by
  rw [Nat.log2_eq_log_two, Nat.log2_eq_log_two]
  induction t with
  | zero => simp
  | succ t ih =>
    have hpos : n * 2 ^ t ≠ 0 := Nat.mul_ne_zero hn (Nat.two_pow_pos t).ne'
    rw [pow_succ, ← Nat.mul_assoc, Nat.log_mul_base (by decide) hpos, ih, Nat.add_assoc]

theorem Canonical.excess_eq {m t : ℕ} (h : Canonical m t) : excess (m * 2 ^ t) = t := by
  rcases Nat.eq_zero_or_pos t with rfl | ht
  · rw [pow_zero, Nat.mul_one, excess]
    rcases Nat.eq_zero_or_pos m with rfl | hm
    · simp
    · have hlog : m.log2 < 53 := (Nat.log2_lt hm.ne').mpr h.lt
      omega
  · have hm : m ≠ 0 := fun h0 => by
      have hfull := h.full ht
      simp [h0] at hfull
    rw [excess, log2_mul_two_pow hm, h.log2_eq ht]
    omega

/-- **What a double can hold stays.** -/
theorem Canonical.roundedNat_eq {m t : ℕ} (h : Canonical m t) :
    roundedNat (m * 2 ^ t) = m * 2 ^ t := by
  rw [roundedNat, h.excess_eq, roundTo_multiple]

/-- **Canonical forms compare like their numbers**: first by exponent, then by mantissa. -/
theorem Canonical.lt_iff {m t m' t' : ℕ} (h : Canonical m t) (h' : Canonical m' t') :
    m * 2 ^ t < m' * 2 ^ t' ↔ t < t' ∨ t = t' ∧ m < m' := by
  have hlt : ∀ {m t m' t' : ℕ}, Canonical m t → Canonical m' t' → t < t' →
      m * 2 ^ t < m' * 2 ^ t' := by
    intro m t m' t' h h' ht
    calc m * 2 ^ t < 2 ^ 53 * 2 ^ t := Nat.mul_lt_mul_of_pos_right h.lt (Nat.two_pow_pos t)
      _ = 2 ^ 52 * 2 ^ (t + 1) := by rw [pow_succ]; ring
      _ ≤ 2 ^ 52 * 2 ^ t' := Nat.mul_le_mul_left _ (Nat.pow_le_pow_right (by decide) ht)
      _ ≤ m' * 2 ^ t' := Nat.mul_le_mul_right _ (h'.full (by omega))
  rcases Nat.lt_trichotomy t t' with ht | rfl | ht
  · simp [ht, hlt h h' ht]
  · simp
  · have hgt := hlt h' h ht
    simp only [ht.not_gt, ht.ne', false_and, or_false, iff_false]
    omega

/-! ## Rounding in the model -/

/-- The exponent that the model brings a number to. -/
def grid (m : ℕ) (e : ℤ) : ℤ := max (m.log2 + e - 52) (-1074)

theorem targetExponent_eq (m : ℕ) (e : ℤ) :
    Format.binary64.targetExponent (totalExponent m e) = grid m e := by
  have hbits : Format.binary64.mantissaBits = 53 := rfl
  have hmin : Format.binary64.minExponent = -1074 := rfl
  rw [Format.targetExponent, totalExponent, hbits, hmin, grid]
  omega

theorem shiftToTargetExponent_eq {m : ℕ} {e : ℤ} {d : ℕ} (hd : (grid m e - e).toNat = d) :
    shiftToTargetExponent .binary64 m e .exact = (whole m >>> d, e + d) := by
  rw [shiftToTargetExponent, shiftToExponent, targetExponent_eq, hd]
  rfl

/-- The model rounds once, and then makes room for a mantissa that has become too long. -/
theorem roundWithAccuracy_eq (s : Sign) {m : ℕ} {e : ℤ} {d k : ℕ}
    (hd : (grid m e - e).toNat = d)
    (hk : (grid (roundTo m d) (e + d) - (e + d)).toNat = k) :
    roundWithAccuracy .binary64 s m e .exact =
      if h : (whole (roundTo m d) >>> k).mantissa = 0 then .zero s
      else .finite s (whole (roundTo m d) >>> k).mantissa (e + d + k) (Nat.pos_of_ne_zero h) := by
  rw [roundWithAccuracy, shiftToTargetExponent_eq hd]
  dsimp only
  rw [← roundTo, shiftToTargetExponent_eq hk]

/-- **A value that is zero or finite, in canonical form**; the exponent may be too large for a
double. -/
def Settled : UnpackedFloat → Prop
  | .zero _ => True
  | .finite _ m e _ => -1074 ≤ e ∧ Canonical m (e + 1074).toNat
  | .infinity _ => False
  | .notANumber => False

/-- The first power of two that is too large for a double, in units of the least positive one. -/
def limit : ℕ := 2 ^ (52 + 2046)

/-- **A value in units of the least positive double.** An infinity counts as the limit of the finite
values. -/
def units : UnpackedFloat → ℤ
  | .zero _ => 0
  | .finite s m e _ => s.apply (m * 2 ^ (e + 1074).toNat : ℕ)
  | .infinity s => s.apply limit
  | .notANumber => 0

theorem settled_finite {s : Sign} {m t : ℕ} {e : ℤ} {hpos : 0 < m} (h : Canonical m t)
    (he : e = (t : ℤ) - 1074) :
    Settled (.finite s m e hpos) ∧ units (.finite s m e hpos) = s.apply (m * 2 ^ t : ℕ) := by
  have ht : (e + 1074).toNat = t := by omega
  change (-1074 ≤ e ∧ Canonical m (e + 1074).toNat) ∧
    s.apply (m * 2 ^ (e + 1074).toNat : ℕ) = s.apply (m * 2 ^ t : ℕ)
  rw [ht]
  exact ⟨⟨by omega, h⟩, rfl⟩

/-- **The model rounds to a canonical form**, if the last `d` bits of the mantissa are to be dropped
to bring its exponent to the target. -/
theorem settled_roundWithAccuracy (s : Sign) {m : ℕ} {e : ℤ} {d t : ℕ}
    (he : e + d = (t : ℤ) - 1074) (hgrid : grid m e = (t : ℤ) - 1074) :
    Settled (roundWithAccuracy .binary64 s m e .exact) ∧
      units (roundWithAccuracy .binary64 s m e .exact) = s.apply (roundTo m d * 2 ^ t : ℕ) := by
  have hd : (grid m e - e).toNat = d := by omega
  have hle : roundTo m d ≤ 2 ^ 53 := by
    refine roundTo_le (Nat.lt_log2_self.le.trans ?_)
    rw [← pow_add]
    rw [grid] at hgrid
    exact Nat.pow_le_pow_right (by decide) (by omega)
  have hfull : 0 < t → 2 ^ 52 ≤ roundTo m d := by
    intro ht
    rw [grid] at hgrid
    have hlog : m.log2 = 52 + d := by omega
    refine le_roundTo ?_
    rw [← pow_add, ← hlog]
    refine Nat.log2_self_le ?_
    rintro rfl
    simp at hlog
    omega
  rcases Nat.lt_or_eq_of_le hle with hlt | heq
  · have hk : (grid (roundTo m d) (e + d) - (e + d)).toNat = 0 := by
      have hlog : (roundTo m d).log2 ≤ 52 := by
        rcases Nat.eq_zero_or_pos (roundTo m d) with h0 | hpos
        · simp [h0]
        · have hlog : (roundTo m d).log2 < 53 := (Nat.log2_lt hpos.ne').mpr hlt
          omega
      rw [grid]
      omega
    rw [roundWithAccuracy_eq s hd hk, shift_zero]
    by_cases h0 : (whole (roundTo m d)).mantissa = 0
    · have hzero : roundTo m d = 0 := h0
      rw [dif_pos h0, hzero, Nat.zero_mul]
      cases s <;> exact ⟨trivial, rfl⟩
    · rw [dif_neg h0]
      exact settled_finite ⟨hlt, hfull⟩ (by omega)
  · have hk : (grid (roundTo m d) (e + d) - (e + d)).toNat = 1 := by
      have hlog : (roundTo m d).log2 = 53 := by
        rw [heq]
        exact Nat.log2_two_pow
      rw [grid]
      omega
    have hhalf : whole (roundTo m d) >>> 1 = whole (2 ^ 52) := by
      rw [heq]
      exact shift_mul_two_pow (2 ^ 52) 1
    have hvalue : 2 ^ 53 * 2 ^ t = 2 ^ 52 * 2 ^ (t + 1) := by
      rw [pow_succ]
      ring
    rw [roundWithAccuracy_eq s hd hk, hhalf, dif_neg (by decide), heq, hvalue]
    exact settled_finite ⟨by decide, fun _ => le_rfl⟩ (by push_cast; omega)

/-- **The model rounds to 53 bits**, whatever the exponent is that the number comes with. -/
theorem settled_round (s : Sign) {m : ℕ} (hm : m ≠ 0) (t : ℕ) :
    Settled (UnpackedFloat.round .binary64 s m ((t : ℤ) - 1074)) ∧
      units (UnpackedFloat.round .binary64 s m ((t : ℤ) - 1074)) =
        s.apply (roundedNat (m * 2 ^ t)) := by
  -- the number is brought to the target exponent from above first, by `up` zero bits
  let up := t - excess (m * 2 ^ t)
  have hexcess : excess (m * 2 ^ t) = m.log2 + t - 52 := by rw [excess, log2_mul_two_pow hm]
  have hgrid : grid m ((t : ℤ) - 1074) = (excess (m * 2 ^ t) : ℤ) - 1074 := by
    rw [grid, hexcess]
    omega
  have hdecrease : decreaseExponent m ((t : ℤ) - 1074) (grid m ((t : ℤ) - 1074)) =
      (m * 2 ^ up, (t : ℤ) - 1074 - up) := by
    have hup : ((t : ℤ) - 1074 - grid m ((t : ℤ) - 1074)).toNat = up := by omega
    rw [decreaseExponent, hup, Nat.shiftLeft_eq]
  have hgrid' : grid (m * 2 ^ up) ((t : ℤ) - 1074 - up) =
      (excess (m * 2 ^ t) : ℤ) - 1074 := by
    rw [← hgrid, grid, grid, log2_mul_two_pow hm]
    push_cast
    omega
  have hroundTo : roundTo (m * 2 ^ t) (excess (m * 2 ^ t)) =
      roundTo (m * 2 ^ up) (excess (m * 2 ^ t) - (t - up)) := by
    have hsplit : m * 2 ^ t = m * 2 ^ up * 2 ^ (t - up) := by
      rw [Nat.mul_assoc, ← pow_add, Nat.add_sub_cancel' (Nat.sub_le _ _)]
    have hdrop : excess (m * 2 ^ t) = (t - up) + (excess (m * 2 ^ t) - (t - up)) := by omega
    rw [← roundTo_mul_two_pow (m * 2 ^ up) _ (t - up), ← hsplit, ← hdrop]
  rw [roundedNat, hroundTo, UnpackedFloat.round, targetExponent_eq, hdecrease]
  exact settled_roundWithAccuracy s (by omega) hgrid'

/-- **The model rounds an integer number of units** to 53 bits. -/
theorem settled_normalize (m : ℤ) (t : ℕ) (zero : Sign) :
    Settled (UnpackedFloat.normalize .binary64 m ((t : ℤ) - 1074) zero) ∧
      units (UnpackedFloat.normalize .binary64 m ((t : ℤ) - 1074) zero) = rounded (m * 2 ^ t) := by
  rw [UnpackedFloat.normalize]
  rcases lt_trichotomy m 0 with hneg | rfl | hpos
  · obtain ⟨n, rfl⟩ : ∃ n : ℕ, m = -n := ⟨m.natAbs, by omega⟩
    have hcompare : compare (-(n : ℤ)) 0 = .lt := compare_lt_iff_lt.mpr hneg
    have hn : (- -(n : ℤ)).toNat = n := by omega
    have hunits : rounded (-(n : ℤ) * 2 ^ t) = -(roundedNat (n * 2 ^ t) : ℕ) := by
      rw [← rounded_neg_natCast]
      push_cast
      ring_nf
    rw [hcompare]
    dsimp only
    rw [hn, hunits]
    exact settled_round .negative (by omega) t
  · exact ⟨trivial, by rw [zero_mul]; rfl⟩
  · obtain ⟨n, rfl⟩ : ∃ n : ℕ, m = n := ⟨m.natAbs, by omega⟩
    have hcompare : compare (n : ℤ) 0 = .gt := compare_gt_iff_gt.mpr hpos
    have hunits : rounded ((n : ℤ) * 2 ^ t) = (roundedNat (n * 2 ^ t) : ℕ) := by
      rw [← rounded_natCast]
      push_cast
      rfl
    rw [hcompare]
    dsimp only
    rw [Int.toNat_natCast, hunits]
    exact settled_round .positive (by omega) t

end ShadowGate.Number
