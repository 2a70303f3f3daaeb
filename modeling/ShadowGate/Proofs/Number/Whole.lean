import ShadowGate.Proofs.Number.Arithmetic

/-!
# Whole numbers as doubles

A whole number that fits 64 bits is far below the limit of the doubles, so the double nearest to it
is finite.

* `Number.value_of_pack` — a value within the limit is kept when it is packed.
* `Number.isFinite_ofNat` — numbers below `2 ^ 53` become doubles as they are, larger ones are
  rounded; either way the result is within the limit.
* `Number.isFinite_ofInt` — **whole numbers of 64 bits are finite doubles**.
-/

namespace ShadowGate.Number

open Float.Model (Format UnpackedFloat)
open Float.Model.UnpackedFloat (Sign)

/-! ## Values within the limit -/

/-- A value within the limit is kept when it is packed, and so the double is finite. -/
theorem value_of_pack {x : Float} {u : UnpackedFloat} (hx : x.toModel = Float.Model.pack u)
    (hu : Settled u) (h₀ : -limit < units u) (h₁ : units u < limit) :
    x.isFinite = true ∧ value x = units u := by
  obtain ⟨hne, hunits⟩ := units_pack hu
  rw [← hx] at hne hunits
  have hvalue : value x = units u := by
    rw [value, hunits, saturate]
    omega
  rw [← hvalue] at h₀ h₁
  exact ⟨isFinite_of_value (isNaN_of_unpack_ne hne) h₀ h₁, hvalue⟩

/-- The opposite of a finite double is finite. -/
theorem isFinite_neg {x : Float} (hx : x.isFinite = true) : x.neg.isFinite = true := by
  have hsettled := settled_unpack hx
  have hwithin := (proper_unpack (isNaN_of_isFinite hx)).within hsettled
  have hunits : units x.toModel.unpack.neg = -units x.toModel.unpack := by
    cases x.toModel.unpack with
    | notANumber => rfl
    | zero s => rfl
    | infinity s => exact apply_neg s _
    | finite s m e hpos => exact apply_neg s _
  refine (value_of_pack rfl hsettled.neg ?_ ?_).1
  · omega
  · omega

/-! ## Whole numbers -/

/-- A number of 65 bits is a double, and within the limit. -/
theorem roundedNat_two_pow_64 : roundedNat (2 ^ 64 * 2 ^ 1074) < limit := by
  have hsplit : 2 ^ 64 * 2 ^ 1074 = 2 ^ 52 * 2 ^ 1086 := by rw [← pow_add, ← pow_add]
  have hcanonical : Canonical (2 ^ 52) 1086 := ⟨by decide, fun _ => le_rfl⟩
  rw [hsplit, hcanonical.roundedNat_eq, ← pow_add, limit]
  exact pow_lt_pow_right₀ one_lt_two (by decide)

theorem rounded_natCast_mul (n t : ℕ) :
    rounded ((n : ℤ) * 2 ^ t) = (roundedNat (n * 2 ^ t) : ℕ) := by
  rw [← rounded_natCast]
  push_cast
  rfl

/-- The double nearest to a number of 64 bits without a sign. -/
theorem isFinite_toFloat (n : UInt64) : n.toFloat.isFinite = true ∧ 0.0 ≤ n.toFloat := by
  obtain ⟨hsettled, hunits⟩ := settled_normalize n.toNat 1074 .positive
  rw [rounded_natCast_mul] at hunits
  have hmono : roundedNat (n.toNat * 2 ^ 1074) ≤ roundedNat (2 ^ 64 * 2 ^ 1074) :=
    roundedNat_mono (Nat.mul_le_mul_right _ n.toNat_lt.le)
  have hlimit := roundedNat_two_pow_64
  have hpack : n.toFloat.toModel = Float.Model.pack
      (.normalize .binary64 n.toNat ((1074 : ℕ) - 1074) .positive) := rfl
  obtain ⟨hfinite, hvalue⟩ := value_of_pack hpack hsettled (by omega) (by omega)
  refine ⟨hfinite, (le_iff_value_le (by decide) (isNaN_of_isFinite hfinite)).mpr ?_⟩
  have hzero : value 0.0 = 0 := rfl
  omega

/-! ## Large numbers -/

/-- A value times one is rounded from the bits it has. -/
theorem mul_one_exact {m : ℕ} {e : ℤ} (hm : 0 < m) (hone : 0 < 10 ^ (0 : ℤ).toNat) :
    UnpackedFloat.mul .binary64 (.finite .positive m e hm)
      (.finite .positive (10 ^ (0 : ℤ).toNat) 0 hone) =
      .roundWithAccuracy .binary64 .positive m e .exact := by
  have hproduct : UnpackedFloat.mul .binary64 (.finite .positive m e hm)
      (.finite .positive (10 ^ (0 : ℤ).toNat) 0 hone) =
      .roundWithAccuracy .binary64 .positive (m * 10 ^ (0 : ℤ).toNat) (e + 0) .exact := rfl
  rw [hproduct, Int.toNat_zero, pow_zero, Nat.mul_one, add_zero]

/-- A number without an exponent is rounded from its own bits and as many zeros as a mantissa has. -/
theorem ofScientific_zero {n : ℕ} (hn : n ≠ 0) :
    UnpackedFloat.ofScientific .binary64 n 0 =
      .roundWithAccuracy .binary64 .positive (n <<< Format.binary64.mantissaBits)
        (-Format.binary64.mantissaBits) .exact := by
  have hexponent : ¬ (0 : ℤ) < -(2 ^ Format.binary64.exponentBits + n.log2) := by
    have hbits : (2 ^ Format.binary64.exponentBits : ℤ) = 2048 := rfl
    omega
  rw [UnpackedFloat.ofScientific, dif_neg hn, if_neg (by decide), if_neg hexponent, if_pos le_rfl]
  exact mul_one_exact _ _

/-- **A number that is no less than `2 ^ 53`**: its 53 leading bits are kept, rounded. -/
theorem settled_large {n : ℕ} (hn : 2 ^ 53 ≤ n) :
    Settled (UnpackedFloat.ofScientific .binary64 n 0) ∧
      units (UnpackedFloat.ofScientific .binary64 n 0) =
        (roundTo (n * 2 ^ 53) (n.log2 + 1) * 2 ^ (n.log2 + 1022) : ℕ) := by
  have hlog : 53 ≤ n.log2 := (Nat.le_log2 (by omega)).mpr hn
  have hbits : Format.binary64.mantissaBits = 53 := rfl
  have hgrid : grid (n * 2 ^ 53) (-(53 : ℕ)) = ((n.log2 + 1022 : ℕ) : ℤ) - 1074 := by
    rw [grid, log2_mul_two_pow (by omega)]
    omega
  rw [ofScientific_zero (by omega), hbits, Nat.shiftLeft_eq]
  exact settled_roundWithAccuracy .positive (by omega) hgrid

/-- What is left of a number of 64 bits is within the limit. -/
theorem large_lt_limit {n : ℕ} (hn₀ : n ≠ 0) (hn : n ≤ 2 ^ 64) :
    roundTo (n * 2 ^ 53) (n.log2 + 1) * 2 ^ (n.log2 + 1022) < limit := by
  have hlog : n.log2 ≤ 64 := by
    have hself := (Nat.log2_self_le hn₀).trans hn
    exact (Nat.pow_le_pow_iff_right (by decide)).mp hself
  have hround : roundTo (n * 2 ^ 53) (n.log2 + 1) ≤ 2 ^ 53 := by
    refine roundTo_le ?_
    have hself : n < 2 ^ (n.log2 + 1) := Nat.lt_log2_self
    rw [Nat.mul_comm]
    exact Nat.mul_le_mul_left _ hself.le
  calc roundTo (n * 2 ^ 53) (n.log2 + 1) * 2 ^ (n.log2 + 1022)
      ≤ 2 ^ 53 * 2 ^ (64 + 1022) :=
        Nat.mul_le_mul hround (Nat.pow_le_pow_right (by decide) (by omega))
    _ = 2 ^ (53 + (64 + 1022)) := (pow_add ..).symm
    _ < limit := pow_lt_pow_right₀ one_lt_two (by decide)

/-! ## Every number -/

/-- **A number of 64 bits without a sign is a finite double.** -/
theorem isFinite_ofNat {n : ℕ} (hn : n ≤ 2 ^ 64) : (Float.ofNat n).isFinite = true := by
  by_cases hsmall : n < 2 ^ 53
  · have hexact : Float.ofNat n = n.toUInt64.toFloat * 1.0 := by
      simp only [Float.ofNat, OfScientific.ofScientific, Float.ofScientific]
      rw [dif_pos ⟨hsmall, by decide⟩]
      rfl
    obtain ⟨hfinite, hnonneg⟩ := isFinite_toFloat n.toUInt64
    rw [hexact]
    exact (mul_le_of_le_one hfinite hnonneg (by decide) (by decide)).1
  · have hpack : (Float.ofNat n).toModel =
        Float.Model.pack (UnpackedFloat.ofScientific .binary64 n 0) := by
      simp only [Float.ofNat, OfScientific.ofScientific, Float.ofScientific]
      rw [dif_neg fun h => hsmall h.1]
      rfl
    obtain ⟨hsettled, hunits⟩ := settled_large (Nat.le_of_not_lt hsmall)
    have hlimit := large_lt_limit (by omega) hn
    exact (value_of_pack hpack hsettled (by omega) (by omega)).1

/-- **A whole number of 64 bits is a finite double**, with a sign or without. -/
theorem isFinite_ofInt {n : ℤ} (h₀ : -2 ^ 63 ≤ n) (h₁ : n < 2 ^ 64) :
    (Float.ofInt n).isFinite = true := by
  cases n with
  | ofNat n => exact isFinite_ofNat (Int.ofNat_lt.mp h₁).le
  | negSucc n => exact isFinite_neg (isFinite_ofNat (by omega))

end ShadowGate.Number
